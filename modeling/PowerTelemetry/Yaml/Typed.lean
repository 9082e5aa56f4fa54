import PowerTelemetry.Yaml.Integer
import PowerTelemetry.Yaml.Node
/-!
# Typed parts of a YAML document

Readers that take a node as a text, a truth value, a number, a list or a record.
Each resolves aliases first, and gives nothing where the node is of another
kind.

Texts may be written in any style; truth values and numbers are plain.  An empty
plain scalar stands for an empty list or record, and for the absence of
something optional.
-/

namespace PowerTelemetry.Yaml

/-- A tag of the standard. -/
def standardTag (name : String) : String :=
  "tag:yaml.org,2002:" ++ name

namespace Document

variable {α : Type}

/-- The text of a scalar. -/
def text? (d : Document) (node : Node) : Option String :=
  match d.resolve node with
  | .scalar _ _ text => some text
  | _ => none

/-- The characters of a scalar that is plain, or a literal block with the tag of
a type. -/
def typedText? (d : Document) (type : String) (node : Node) : Option (List Char) :=
  match d.resolve node with
  | .scalar .plain _ text => some text.toList
  | .scalar .literal (some tag) text => if tag = standardTag type then some text.toList else none
  | _ => none

/-- A truth value. -/
def flag? (d : Document) (node : Node) : Option Bool := do
  let text := String.ofList (← d.typedText? "bool" node)
  if ["true", "True", "TRUE"].contains text then return true
  else if ["false", "False", "FALSE"].contains text then return false
  else none

/-- A number from `0` on with fewer than so many bits. -/
def natural? (d : Document) (bits : Nat) (node : Node) : Option Nat := do
  let n ← unsigned? (← d.typedText? "int" node)
  if n < Nat.pow 2 bits then return n else none

/-- A number of 8 bits. -/
def uint8? (d : Document) (node : Node) : Option UInt8 :=
  (d.natural? 8 node).map UInt8.ofNat

/-- A number of 16 bits. -/
def uint16? (d : Document) (node : Node) : Option UInt16 :=
  (d.natural? 16 node).map UInt16.ofNat

/-- A number of 32 bits. -/
def uint32? (d : Document) (node : Node) : Option UInt32 :=
  (d.natural? 32 node).map UInt32.ofNat

/-- A number of 64 bits. -/
def uint64? (d : Document) (node : Node) : Option UInt64 :=
  (d.natural? 64 node).map UInt64.ofNat

/-- A number of 64 bits with a sign. -/
def int64? (d : Document) (node : Node) : Option Int64 := do
  let i ← signed? (← d.typedText? "int" node)
  if -(Nat.pow 2 63 : Int) ≤ i ∧ i < Nat.pow 2 63 then return Int64.ofInt i else none

/-! ## Absence -/

/-- The spellings of nothing. -/
def isNull (text : String) : Bool :=
  ["null", "Null", "NULL", "~"].contains text

/-- The node stands for nothing.  One that its tag says is nothing must be
spelled so. -/
def absent? (d : Document) (node : Node) : Option Bool :=
  match d.resolve node with
  | .scalar .plain none text => some (text.isEmpty || isNull text)
  | .scalar .plain (some tag) text =>
    if tag ≠ standardTag "null" then some false else if isNull text then some true else none
  | _ => some false

/-- Something that may be absent. -/
def optional? (d : Document) (read? : Node → Option α) (node : Node) : Option (Option α) := do
  if ← d.absent? node then return none else return some (← read? node)

/-! ## Lists and records -/

/-- The list of what its items are. -/
def list? (d : Document) (read? : Node → Option α) (node : Node) : Option (List α) :=
  match d.resolve node with
  | .sequence items => items.mapM read?
  | .scalar .plain _ "" => some []
  | _ => none

/-- The entries of a record.  Every key is a text, and no key of `known` comes
twice; what other keys hold does not matter. -/
def record? (d : Document) (known : List String) (node : Node) : Option (List (String × Node)) :=
  match d.resolve node with
  | .mapping pairs => do
    let entries ← pairs.mapM fun (key, value) => do return (← d.text? key, value)
    if known.all fun name => (entries.filter (·.1 == name)).length ≤ 1 then return entries
    else none
  | .scalar .plain _ "" => some []
  | _ => none

/-- The record at the root; there is none without content. -/
def rootRecord? (d : Document) (known : List String) : Option (List (String × Node)) :=
  match d.root with
  | some node => d.record? known node
  | none => some []

end Document

/-! ## Fields -/

/-- What a record holds under a name. -/
def required? {α : Type} (fields : List (String × Node)) (name : String)
    (read? : Node → Option α) : Option α :=
  (fields.lookup name).bind read?

/-- What a record holds under a name, or what it holds without an entry. -/
def field? {α : Type} (fields : List (String × Node)) (name : String) (standard : α)
    (read? : Node → Option α) : Option α :=
  match fields.lookup name with
  | some node => read? node
  | none => some standard

end PowerTelemetry.Yaml
