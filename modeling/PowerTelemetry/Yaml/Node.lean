import PowerTelemetry.Yaml.Scanner
/-!
# YAML documents

A `Document` is a tree of scalars, sequences and mappings.  A node can carry an
anchor, and an alias elsewhere stands for that node; `Document.resolve` follows
aliases.

`Document.ofTokens?` builds the one document of a sequence of tokens.  Blocks
and brackets nest in every way; a missing key, item or value counts as an empty
scalar.
-/

namespace PowerTelemetry.Yaml

/-- A part of a document.  An alias holds the number of the anchored node that
it stands for. -/
inductive Node where
  | scalar (style : Style) (tag : Option String) (text : String)
  | sequence (items : List Node)
  | mapping (pairs : List (Node × Node))
  | alias (number : Nat)
  deriving Inhabited

/-- The scalar that counts for what is missing. -/
def Node.missing : Node := .scalar .plain none ""

/-- A document: its root, if it has any content, and its anchored nodes by
number. -/
structure Document where
  root : Option Node
  anchored : List (Nat × Node)
  deriving Inhabited

/-- The node itself, or the one that an alias stands for. -/
def Document.resolve (d : Document) : Node → Node
  | .alias number => (d.anchored.lookup number).getD .missing
  | node => node

/-! ## Reading nodes -/

/-- What is left of the tokens, and what was defined in those before. -/
structure Reader where
  tokens : List Token
  /-- What the handles of tags stand for. -/
  handles : List (String × String)
  /-- The names of anchors and the numbers of their nodes, the last one first. -/
  names : List (String × Nat)
  anchored : List (Nat × Node)

/-- The anchor and the tag of a node. -/
structure Properties where
  anchor : Option Nat
  tag : Option String

namespace Reader

/-- The reader after its first token. -/
def next (r : Reader) : Reader :=
  { r with tokens := r.tokens.drop 1 }

/-- A name given to the next anchored node: its number. -/
def define (r : Reader) (name : String) : Nat × Reader :=
  (r.names.length, { r with names := (name, r.names.length) :: r.names })

/-- A node kept for the aliases of its anchor. -/
def keep (r : Reader) (properties : Properties) (node : Node) : Node × Reader :=
  match properties.anchor with
  | some number => (node, { r with anchored := (number, node) :: r.anchored })
  | none => (node, r)

/-- The tag of a scalar; an exclamation mark alone is none. -/
def scalarTag (properties : Properties) : Option String :=
  if properties.tag = some "!" then none else properties.tag

/-- A tag in full. -/
def expand? (r : Reader) (handle suffix : String) : Option String :=
  if handle.isEmpty then some suffix else (r.handles.lookup handle).map (· ++ suffix)

/-- The anchor and the tag in front, in either order. -/
def properties? (r : Reader) : Option (Properties × Reader) :=
  match r.tokens with
  | .anchor name :: .tag handle suffix :: _ => do
    let (number, r) := r.define name
    return (⟨some number, some (← r.expand? handle suffix)⟩, r.next.next)
  | .tag handle suffix :: .anchor name :: _ => do
    let (number, r) := r.define name
    return (⟨some number, some (← r.expand? handle suffix)⟩, r.next.next)
  | .anchor name :: _ =>
    let (number, r) := r.define name
    some (⟨some number, none⟩, r.next)
  | .tag handle suffix :: _ => do
    return (⟨none, some (← r.expand? handle suffix)⟩, r.next)
  | _ => some (⟨none, none⟩, r)

/-- A token that ends a part of a block mapping. -/
def endsPart : List Token → Bool
  | .key :: _ => true
  | .value :: _ => true
  | .blockEnd :: _ => true
  | _ => false

/-- A token that ends an item of a block sequence. -/
def endsItem : List Token → Bool
  | .blockEntry :: _ => true
  | .blockEnd :: _ => true
  | _ => false

/-- A token that ends a part of a mapping between braces. -/
def endsFlowPart : List Token → Bool
  | .flowEntry :: _ => true
  | .flowMappingEnd :: _ => true
  | _ => false

/-- A token that ends a part of an item between brackets. -/
def endsFlowItem : List Token → Bool
  | .flowEntry :: _ => true
  | .flowSequenceEnd :: _ => true
  | _ => false

/-- A colon in front. -/
def atValue : List Token → Bool
  | .value :: _ => true
  | _ => false

/-- The reader at the next part between brackets: after a comma, which is not
needed before the first part. -/
def nextPart? (first : Bool) (r : Reader) : Option Reader :=
  match first, r.tokens with
  | true, _ => some r
  | false, .flowEntry :: _ => some r.next
  | false, _ => none

mutual

/-- The node in front.  Outside of brackets it may be a block, and as a part of
a block mapping a sequence that is not indented. -/
def node? (fuel : Nat) (inBlock unindented : Bool) (r : Reader) : Option (Node × Reader) :=
  match fuel with
  | 0 => none
  | fuel + 1 =>
    match r.tokens with
    | .alias name :: _ => (r.names.lookup name).map fun number => (.alias number, r.next)
    | _ => do
      let (properties, r) ← r.properties?
      match r.tokens with
      | .scalar style text :: _ =>
        return r.next.keep properties (.scalar style (scalarTag properties) text)
      | .flowSequenceStart :: _ =>
        let (items, r) ← flowItems? fuel true r.next
        return r.keep properties (.sequence items)
      | .flowMappingStart :: _ =>
        let (pairs, r) ← flowPairs? fuel true r.next
        return r.keep properties (.mapping pairs)
      | ts =>
        if unindented && ts.head? == some .blockEntry then
          let (items, r) ← unindentedItems? fuel r
          return r.keep properties (.sequence items)
        else if inBlock && ts.head? == some .blockSequenceStart then
          let (items, r) ← blockItems? fuel r.next
          return r.keep properties (.sequence items)
        else if inBlock && ts.head? == some .blockMappingStart then
          let (pairs, r) ← blockPairs? fuel r.next
          return r.keep properties (.mapping pairs)
        else if properties.anchor.isSome || properties.tag.isSome then
          return r.keep properties (.scalar .plain properties.tag "")
        else none

/-- The node in front, or a missing one where a part ends already. -/
def part? (fuel : Nat) (inBlock unindented ended : Bool) (r : Reader) : Option (Node × Reader) :=
  match fuel with
  | 0 => none
  | fuel + 1 => if ended then some (.missing, r) else node? fuel inBlock unindented r

/-- The items of a block sequence up to its end. -/
def blockItems? (fuel : Nat) (r : Reader) : Option (List Node × Reader) :=
  match fuel with
  | 0 => none
  | fuel + 1 =>
    match r.tokens with
    | .blockEntry :: rest => do
      let (item, r) ← part? fuel true false (endsItem rest) r.next
      let (items, r) ← blockItems? fuel r
      return (item :: items, r)
    | .blockEnd :: _ => some ([], r.next)
    | _ => none

/-- The items of a sequence that is not indented. -/
def unindentedItems? (fuel : Nat) (r : Reader) : Option (List Node × Reader) :=
  match fuel with
  | 0 => none
  | fuel + 1 =>
    match r.tokens with
    | .blockEntry :: rest => do
      let (item, r) ← part? fuel true false (endsItem rest || endsPart rest) r.next
      let (items, r) ← unindentedItems? fuel r
      return (item :: items, r)
    | _ => some ([], r)

/-- The pairs of a block mapping up to its end. -/
def blockPairs? (fuel : Nat) (r : Reader) : Option (List (Node × Node) × Reader) :=
  match fuel with
  | 0 => none
  | fuel + 1 =>
    match r.tokens with
    | .key :: rest => do
      let (key, r) ← part? fuel true true (endsPart rest) r.next
      let (value, r) ← blockValue? fuel r
      let (pairs, r) ← blockPairs? fuel r
      return ((key, value) :: pairs, r)
    | .blockEnd :: _ => some ([], r.next)
    | _ => none

/-- The value in a block mapping. -/
def blockValue? (fuel : Nat) (r : Reader) : Option (Node × Reader) :=
  match fuel with
  | 0 => none
  | fuel + 1 =>
    match r.tokens with
    | .value :: rest => part? fuel true true (endsPart rest) r.next
    | _ => some (.missing, r)

/-- The items between brackets up to the closing one. -/
def flowItems? (fuel : Nat) (first : Bool) (r : Reader) : Option (List Node × Reader) :=
  match fuel with
  | 0 => none
  | fuel + 1 =>
    match r.tokens with
    | .flowSequenceEnd :: _ => some ([], r.next)
    | _ => do
      let r ← nextPart? first r
      match r.tokens with
      | .flowSequenceEnd :: _ => return ([], r.next)
      | .key :: _ =>
        let (item, r) ← flowPairItem? fuel r.next
        let (items, r) ← flowItems? fuel false r
        return (item :: items, r)
      | _ =>
        let (item, r) ← node? fuel false false r
        let (items, r) ← flowItems? fuel false r
        return (item :: items, r)

/-- A single pair as an item between brackets, after the mark of its key.  A
token in the place of the key is passed over. -/
def flowPairItem? (fuel : Nat) (r : Reader) : Option (Node × Reader) :=
  match fuel with
  | 0 => none
  | fuel + 1 => do
    let (key, r) ← if atValue r.tokens || endsFlowItem r.tokens then some (.missing, r.next)
      else node? fuel false false r
    match r.tokens with
    | .value :: rest =>
      let (value, r) ← part? fuel false false (endsFlowItem rest) r.next
      return (.mapping [(key, value)], r)
    | _ => return (.mapping [(key, .missing)], r)

/-- The pairs between braces up to the closing one. -/
def flowPairs? (fuel : Nat) (first : Bool) (r : Reader) : Option (List (Node × Node) × Reader) :=
  match fuel with
  | 0 => none
  | fuel + 1 =>
    match r.tokens with
    | .flowMappingEnd :: _ => some ([], r.next)
    | _ => do
      let r ← nextPart? first r
      match r.tokens with
      | .flowMappingEnd :: _ => return ([], r.next)
      | .key :: rest =>
        let (key, r) ← part? fuel false false (atValue rest || endsFlowPart rest) r.next
        let (value, r) ← flowValue? fuel r
        let (pairs, r) ← flowPairs? fuel false r
        return ((key, value) :: pairs, r)
      | _ =>
        let (key, r) ← node? fuel false false r
        let (pairs, r) ← flowPairs? fuel false r
        return ((key, .missing) :: pairs, r)

/-- The value in a mapping between braces. -/
def flowValue? (fuel : Nat) (r : Reader) : Option (Node × Reader) :=
  match fuel with
  | 0 => none
  | fuel + 1 =>
    match r.tokens with
    | .value :: rest => part? fuel false false (endsFlowPart rest) r.next
    | _ => some (.missing, r)

end

end Reader

/-! ## Reading documents -/

/-- What the handles of tags stand for where no directive says otherwise. -/
def standardHandles : List (String × String) :=
  [("!", "!"), ("!!", "tag:yaml.org,2002:")]

/-- The directives in front: at most one version, which is 1.1 or 1.2, and each
handle once.  The handles, and the tokens after the directives. -/
def directives? (versioned : Bool) (handles : List (String × String)) :
    List Token → Option (List (String × String) × List Token)
  | .version major minor :: rest =>
    if versioned || major != 1 || (minor != 1 && minor != 2) then none
    else directives? true handles rest
  | .tagHandle handle expansion :: rest =>
    if (handles.lookup handle).isSome then none
    else directives? versioned ((handle, expansion) :: handles) rest
  | rest => some (handles, rest)

/-- The token that starts a document or something before it, or the end. -/
def endsContent : List Token → Bool
  | [] => true
  | .version .. :: _ => true
  | .tagHandle .. :: _ => true
  | .documentStart :: _ => true
  | .documentEnd :: _ => true
  | _ => false

/-- Marks after a document. -/
def onlyEnds (tokens : List Token) : Bool :=
  tokens.all (· == .documentEnd)

/-- The reader of a document's content. -/
def Reader.ofTokens (handles : List (String × String)) (tokens : List Token) : Reader :=
  ⟨tokens, handles ++ standardHandles, [], []⟩

/-- The content of a document, with nothing behind it. -/
def content? (r : Reader) : Option Document := do
  let (node, r) ← r.node? (4 * r.tokens.length + 4) true false
  if onlyEnds r.tokens then return ⟨some node, r.anchored⟩ else none

/-- The one document of tokens. -/
def Document.ofTokens? (tokens : List Token) : Option Document :=
  match tokens with
  | [] => some ⟨none, []⟩
  | .version .. :: _ => explicit?
  | .tagHandle .. :: _ => explicit?
  | .documentStart :: _ => explicit?
  | _ => content? (Reader.ofTokens [] tokens)
where
  /-- A document after its start. -/
  explicit? : Option Document := do
    let (handles, rest) ← directives? false [] tokens
    match rest with
    | .documentStart :: rest =>
      if endsContent rest then
        if onlyEnds rest then return ⟨some .missing, []⟩ else none
      else content? (Reader.ofTokens handles rest)
    | _ => none

/-- The one document that a text holds. -/
def Document.ofText? (text : String) : Option Document :=
  (tokens? text.toList).bind Document.ofTokens?

end PowerTelemetry.Yaml
