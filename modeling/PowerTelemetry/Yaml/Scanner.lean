import PowerTelemetry.Yaml.Token
/-!
# The tokens of a YAML text

`tokens?` takes a text apart into tokens.

Two things need memory beyond the place in the text.  Indentation opens and
closes blocks, so the columns of the open blocks are kept.  And a scalar turns
out to be a key only when a colon follows, so for every level of brackets the
last token that could start a key is kept; a colon puts the token for the key
before it.  Such a key fits one line and is at most 1024 characters long.
-/

namespace PowerTelemetry.Yaml

/-- A place in the tokens where a key may have started. -/
structure KeyCandidate where
  /-- How many tokens are before it. -/
  position : Nat
  index : Nat
  line : Nat
  column : Nat
  /-- Nothing else but a key can stand here. -/
  required : Bool
  deriving DecidableEq, Repr

/-- A text that was taken apart up to a place. -/
structure Scanner where
  place : Cursor
  /-- How many brackets are open. -/
  flow : Nat
  /-- The column of the innermost block, `-1` outside of all. -/
  indent : Int
  /-- The columns of the blocks around it, the innermost first. -/
  outer : List Int
  /-- A key may start here. -/
  keyAllowed : Bool
  /-- The candidates for keys, one for each level of brackets, the innermost
  first. -/
  keys : List (Option KeyCandidate)
  /-- The tokens so far, the last one first. -/
  tokens : List Token

namespace Scanner

/-- The longest that a key can be. -/
def longestKey : Nat := 1024

/-- Nothing was taken apart yet. -/
def start (text : List Char) : Scanner :=
  ⟨Cursor.start text, 0, -1, [], true, [none], []⟩

/-- One more token. -/
def emit (s : Scanner) (t : Token) : Scanner :=
  { s with tokens := t :: s.tokens }

/-- A token put in after a number of tokens. -/
def emitAt (s : Scanner) (position : Nat) (t : Token) : Scanner :=
  let later := s.tokens.length - position
  { s with tokens := s.tokens.take later ++ t :: s.tokens.drop later }

/-! ## Keys -/

/-- A candidate that can still become a key; one that had to and cannot is an
error. -/
def stillKey? (place : Cursor) : Option KeyCandidate → Option (Option KeyCandidate)
  | none => some none
  | some k =>
    if k.line < place.line ∨ k.index + longestKey < place.index then
      if k.required then none else some none
    else some (some k)

/-- Candidates that can no longer become keys given up. -/
def dropStale? (s : Scanner) : Option Scanner :=
  (s.keys.mapM (stillKey? s.place)).map fun keys => { s with keys := keys }

/-- The candidate of the innermost level. -/
def candidate (s : Scanner) : Option KeyCandidate :=
  s.keys.head?.join

/-- The innermost candidate replaced. -/
def setCandidate (s : Scanner) (k : Option KeyCandidate) : Scanner :=
  { s with keys := k :: s.keys.drop 1 }

/-- The innermost candidate given up, which must not have been required. -/
def dropKey? (s : Scanner) : Option Scanner :=
  match s.candidate with
  | some k => if k.required then none else some (s.setCandidate none)
  | none => some s

/-- The next token may start a key, if one is allowed here. -/
def noteKey? (s : Scanner) : Option Scanner :=
  if s.keyAllowed then do
    let s ← s.dropKey?
    return s.setCandidate (some ⟨s.tokens.length, s.place.index, s.place.line, s.place.column,
      s.flow == 0 && s.indent == s.place.column⟩)
  else some s

/-! ## Blocks -/

/-- A block opened at a column, unless one is open there; its token goes to a
position. -/
def openBlock (s : Scanner) (column : Nat) (position : Nat) (t : Token) : Scanner :=
  if s.flow = 0 ∧ s.indent < column then
    { s.emitAt position t with indent := column, outer := s.indent :: s.outer }
  else s

/-- The blocks that are deeper than a column closed; `fuel` is how many are
open. -/
def closeBlocks (column : Int) : (fuel : Nat) → Scanner → Scanner
  | 0, s => s
  | fuel + 1, s =>
    if s.flow = 0 ∧ column < s.indent then
      closeBlocks column fuel
        { s.emit .blockEnd with indent := s.outer.headD (-1), outer := s.outer.drop 1 }
    else s

/-- The blocks that are deeper than a column closed. -/
def closeTo (s : Scanner) (column : Int) : Scanner :=
  closeBlocks column (s.outer.length + 1) s

/-! ## Tokens -/

/-- A token of a number of characters, after which a key is allowed or not. -/
def mark (s : Scanner) (t : Token) (width : Nat) (keyAllowed : Bool) : Scanner :=
  { s.emit t with place := s.place.advance width, keyAllowed := keyAllowed }

/-- A mark between documents. -/
def documentMark? (s : Scanner) (t : Token) : Option Scanner := do
  let s ← (s.closeTo (-1)).dropKey?
  return s.mark t 3 false

/-- A directive. -/
def takeDirective? (s : Scanner) : Option Scanner := do
  let s ← (s.closeTo (-1)).dropKey?
  let (t, place) ← directive? s.place
  return { s.emit t with place := place, keyAllowed := false }

/-- An opening bracket. -/
def openFlow? (s : Scanner) (t : Token) : Option Scanner := do
  let s ← s.noteKey?
  return { s.mark t 1 true with flow := s.flow + 1, keys := none :: s.keys }

/-- A closing bracket. -/
def closeFlow? (s : Scanner) (t : Token) : Option Scanner := do
  let s ← s.dropKey?
  let s := if s.flow = 0 then s else { s with flow := s.flow - 1, keys := s.keys.drop 1 }
  return s.mark t 1 false

/-- A comma between brackets. -/
def flowEntry? (s : Scanner) : Option Scanner := do
  let s ← s.dropKey?
  return s.mark .flowEntry 1 true

/-- The hyphen of an item. -/
def blockEntry? (s : Scanner) : Option Scanner :=
  if s.flow = 0 && !s.keyAllowed then none
  else do
    let s ← (s.openBlock s.place.column s.tokens.length .blockSequenceStart).dropKey?
    return s.mark .blockEntry 1 true

/-- The question mark of a key. -/
def explicitKey? (s : Scanner) : Option Scanner :=
  if s.flow = 0 && !s.keyAllowed then none
  else do
    let s ← (s.openBlock s.place.column s.tokens.length .blockMappingStart).dropKey?
    return s.mark .key 1 (s.flow == 0)

/-- The colon before a value. -/
def value? (s : Scanner) : Option Scanner :=
  match s.candidate with
  | some k =>
    let s := s.emitAt k.position .key
    let s := (s.openBlock k.column k.position .blockMappingStart).setCandidate none
    some (s.mark .value 1 false)
  | none =>
    if s.flow = 0 && !s.keyAllowed then none
    else
      let s := s.openBlock s.place.column s.tokens.length .blockMappingStart
      some (s.mark .value 1 (s.flow == 0))

/-- An anchor or an alias. -/
def name? (s : Scanner) (t : String → Token) : Option Scanner := do
  let s ← s.noteKey?
  let (name, place) ← anchorName? s.place
  return { s.emit (t name) with place := place, keyAllowed := false }

/-- A tag. -/
def takeTag? (s : Scanner) : Option Scanner := do
  let s ← s.noteKey?
  let (t, place) ← tag? (s.flow != 0) s.place
  return { s.emit t with place := place, keyAllowed := false }

/-- A block scalar. -/
def takeBlock? (s : Scanner) (folded : Bool) : Option Scanner := do
  let s ← s.dropKey?
  let (text, place) ← block? folded s.indent s.place
  let t := Token.scalar (if folded then .folded else .literal) (String.ofList text)
  return { s.emit t with place := place, keyAllowed := true }

/-- A quoted scalar. -/
def takeQuoted? (s : Scanner) (double : Bool) : Option Scanner := do
  let s ← s.noteKey?
  let (text, place) ← quoted? double s.place
  let t := Token.scalar (if double then .doubleQuoted else .singleQuoted) (String.ofList text)
  return { s.emit t with place := place, keyAllowed := false }

/-- A plain scalar. -/
def takePlain? (s : Scanner) : Option Scanner := do
  let s ← s.noteKey?
  let r ← plain? (s.flow != 0) (s.indent + 1) s.place
  let t := Token.scalar .plain (String.ofList r.text)
  return { s.emit t with place := r.after, keyAllowed := r.broken }

/-- A character that cannot start a plain scalar. -/
def isMark (ch : Char) : Bool :=
  ['-', '?', ':', ',', '[', ']', '\x7b', '\x7d', '#', '&', '*', '!', '|', '>', '\'', '"', '%', '@',
    '\x60'].contains ch

/-- A plain scalar starts here. -/
def startsPlain (s : Scanner) (ch : Char) : Bool :=
  (!isMark ch && !isBlank ch && !isBreak ch)
    || (ch == '-' && !(s.place.rest.drop 1).head?.any isBlank)
    || (s.flow == 0 && (ch == '?' || ch == ':') && !s.place.isSpaceAt 1)

/-- The token that starts with a character. -/
def token? (s : Scanner) (ch : Char) : Option Scanner :=
  let inFlow := s.flow != 0
  let spaced := s.place.isSpaceAt 1
  if s.place.column = 0 ∧ ch = '%' then s.takeDirective?
  else if s.place.isMarker '-' then s.documentMark? .documentStart
  else if s.place.isMarker '.' then s.documentMark? .documentEnd
  else if ch = '[' then s.openFlow? .flowSequenceStart
  else if ch = '\x7b' then s.openFlow? .flowMappingStart
  else if ch = ']' then s.closeFlow? .flowSequenceEnd
  else if ch = '\x7d' then s.closeFlow? .flowMappingEnd
  else if ch = ',' then s.flowEntry?
  else if ch = '-' ∧ spaced then s.blockEntry?
  else if ch = '?' ∧ (inFlow ∨ spaced) then s.explicitKey?
  else if ch = ':' ∧ (inFlow ∨ spaced) then s.value?
  else if ch = '*' then s.name? .alias
  else if ch = '&' then s.name? .anchor
  else if ch = '!' then s.takeTag?
  else if ch = '|' ∧ !inFlow then s.takeBlock? false
  else if ch = '>' ∧ !inFlow then s.takeBlock? true
  else if ch = '\'' then s.takeQuoted? false
  else if ch = '"' then s.takeQuoted? true
  else if s.startsPlain ch then s.takePlain?
  else none

/-! ## The space between tokens -/

/-- The place without a byte order mark at the start of a line. -/
def skipMark (place : Cursor) : Cursor :=
  if place.column = 0 ∧ place.startsWith byteOrderMark then place.advance 1 else place

/-- The scanner at the next token: after blanks, comments and breaks.  A break
outside of brackets allows a key.  Where one is allowed outside of brackets,
tabs do not count as blanks. -/
def skipSpace : (fuel : Nat) → Scanner → Scanner
  | 0, s => s
  | fuel + 1, s =>
    let tabs := s.flow != 0 || !s.keyAllowed
    let place := ((skipMark s.place).span fun ch => ch == ' ' || (tabs && ch == '\t')).2
    let place := if place.startsWith '#' then place.skipLine else place
    if place.head?.any isBreak then
      skipSpace fuel { s with
        place := place.takeBreak.2
        keyAllowed := if s.flow = 0 then true else s.keyAllowed }
    else { s with place := place }

/-- The end of the text: all blocks are closed, no key is required. -/
def finish? (s : Scanner) : Option Scanner :=
  (s.closeTo (-1)).dropKey?

/-- All that is left taken apart; `fuel` bounds the number of tokens. -/
def scan? : (fuel : Nat) → Scanner → Option Scanner
  | 0, _ => none
  | fuel + 1, s => do
    let s ← (skipSpace (s.place.rest.length + 1) s).dropStale?
    let s := s.closeTo s.place.column
    match s.place.head? with
    | none => s.finish?
    | some ch => scan? fuel (← s.token? ch)

end Scanner

/-- The tokens of a text. -/
def tokens? (text : List Char) : Option (List Token) :=
  if text.all isAllowed then
    (Scanner.scan? (text.length + 1) (Scanner.start text)).map (·.tokens.reverse)
  else none

end PowerTelemetry.Yaml
