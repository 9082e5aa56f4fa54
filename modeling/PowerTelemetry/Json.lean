import PowerTelemetry.Decimal.Style
/-!
# JSON values

A `Json` value is a tree.  The members of an object are a list of pairs:
in `Json.canonical` form they are in ascending order of their names, each name
once.  A number keeps the form it was written in: a whole number of 64 bits, a
negative one, or a double.

`Json.compact` writes a value without blanks.
-/

namespace PowerTelemetry

/-- A number, in the form it was written in. -/
inductive JsonNumber where
  | natural (n : UInt64)
  | negative (n : Int64)
  | float (x : Binary64)
  deriving DecidableEq, Repr

/-- A JSON value. -/
inductive Json where
  | null
  | bool (b : Bool)
  | number (n : JsonNumber)
  | string (s : String)
  | array (items : List Json)
  | object (members : List (String × Json))
  deriving Repr, Inhabited

namespace Json

/-! ## Canonical form -/

/-- The members with one more, in the place of a member of the same name if
there is one. -/
def putMember (name : String) (value : Json) : List (String × Json) → List (String × Json)
  | [] => [(name, value)]
  | (n, v) :: rest =>
    if name < n then (name, value) :: (n, v) :: rest
    else if name = n then (name, value) :: rest
    else (n, v) :: putMember name value rest

mutual

/-- The value with the members of every object in ascending order of their
names; of members with one name the last stands. -/
def canonical : Json → Json
  | .array items => .array (canonicalItems items)
  | .object members =>
    .object ((canonicalMembers members).foldl (fun l m => putMember m.1 m.2 l) [])
  | other => other

/-- Each item in canonical form. -/
def canonicalItems : List Json → List Json
  | [] => []
  | item :: rest => canonical item :: canonicalItems rest

/-- Each member with its value in canonical form. -/
def canonicalMembers : List (String × Json) → List (String × Json)
  | [] => []
  | (name, value) :: rest => (name, canonical value) :: canonicalMembers rest

end

/-- The value of the member of a name. -/
def member? (name : String) : List (String × Json) → Option Json
  | [] => none
  | (n, v) :: rest => if n = name then some v else member? name rest

/-! ## Compact text -/

/-- The text of an integer. -/
def intText (i : Int) : List Char :=
  if i < 0 then '-' :: Nat.toDigits 10 i.natAbs else Nat.toDigits 10 i.natAbs

/-- The text of a number. -/
def numberText : JsonNumber → List Char
  | .natural n => Nat.toDigits 10 n.toNat
  | .negative n => intText n.toInt
  | .float x => (Decimal.Style.interchange.text x).toList

/-- A character inside a string: quotes, backslashes and control characters
are escaped. -/
def escapedChar (c : Char) : List Char :=
  if c = '"' then ['\\', '"']
  else if c = '\\' then ['\\', '\\']
  else if c = '\x08' then ['\\', 'b']
  else if c = '\x0c' then ['\\', 'f']
  else if c = '\n' then ['\\', 'n']
  else if c = '\r' then ['\\', 'r']
  else if c = '\t' then ['\\', 't']
  else if c.toNat < 32 then
    ['\\', 'u', '0', '0'] ++ [Nat.digitChar (c.toNat / 16), Nat.digitChar (c.toNat % 16)]
  else [c]

/-- The text of a string. -/
def stringText (s : String) : List Char :=
  '"' :: (s.toList.flatMap escapedChar ++ ['"'])

mutual

/-- The text of a value, without blanks. -/
def compactText : Json → List Char
  | .null => ['n', 'u', 'l', 'l']
  | .bool true => ['t', 'r', 'u', 'e']
  | .bool false => ['f', 'a', 'l', 's', 'e']
  | .number n => numberText n
  | .string s => stringText s
  | .array items => '[' :: (itemsText items ++ [']'])
  | .object members => '\x7b' :: (membersText members ++ ['\x7d'])

/-- The items with commas between. -/
def itemsText : List Json → List Char
  | [] => []
  | [item] => compactText item
  | item :: rest => compactText item ++ ',' :: itemsText rest

/-- The members with commas between. -/
def membersText : List (String × Json) → List Char
  | [] => []
  | [(name, value)] => stringText name ++ ':' :: compactText value
  | (name, value) :: rest =>
    stringText name ++ ':' :: (compactText value ++ ',' :: membersText rest)

end

/-- The text of a value, without blanks. -/
def compact (j : Json) : String :=
  String.ofList (compactText j)

end Json

end PowerTelemetry
