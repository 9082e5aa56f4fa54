import PowerTelemetry.Text.Utf8
import PowerTelemetry.Yaml.Scalar
/-!
# YAML tokens

A YAML text is a sequence of `Token`s: marks between documents, brackets,
scalars, and the beginnings and ends of blocks, which the indentation of lines
shows.

This module also takes names of anchors, tags and directives from a text; like
the functions for scalars, these give nothing where the text is not well formed.
-/

namespace PowerTelemetry.Yaml

/-- A piece of a YAML text. -/
inductive Token where
  | version (major minor : Nat)
  | tagHandle (handle expansion : String)
  | documentStart
  | documentEnd
  | blockSequenceStart
  | blockMappingStart
  | blockEnd
  | flowSequenceStart
  | flowSequenceEnd
  | flowMappingStart
  | flowMappingEnd
  | blockEntry
  | flowEntry
  | key
  | value
  | alias (name : String)
  | anchor (name : String)
  | tag (handle suffix : String)
  | scalar (style : Style) (text : String)
  deriving DecidableEq, Repr

/-! ## Anchors -/

/-- A character that may follow the name of an anchor directly. -/
def endsName (ch : Char) : Bool :=
  ['?', ':', ',', ']', '\x7d', '%', '@', '\x60'].contains ch

/-- The name after the mark of an anchor or an alias. -/
def anchorName? (c : Cursor) : Option (String × Cursor) :=
  let (name, c) := (c.advance 1).span isWordChar
  if !name.isEmpty && (c.isSpaceAt 0 || c.head?.any endsName) then some (String.ofList name, c)
  else none

/-! ## Tags -/

/-- A character of a tag.  Commas and brackets count only where `wide`. -/
def isTagChar (wide : Bool) (ch : Char) : Bool :=
  isWordChar ch
    || [';', '/', '?', ':', '@', '&', '=', '+', '$', '.', '%', '!', '~', '*', '\'', '(',
      ')'].contains ch
    || (wide && [',', '[', ']'].contains ch)

/-- The number of bytes of a character that starts with a byte. -/
def utf8Width? (first : UInt8) : Option Nat :=
  if first < 0x80 then some 1
  else if 0xC0 ≤ first ∧ first < 0xE0 then some 2
  else if 0xE0 ≤ first ∧ first < 0xF0 then some 3
  else if 0xF0 ≤ first ∧ first < 0xF8 then some 4
  else none

/-- Escaped bytes, so many. -/
def escapedBytes? : (count : Nat) → List Char → Option (List UInt8)
  | 0, _ => some []
  | count + 1, '%' :: a :: b :: rest => do
    let n ← Text.hexNumber? [a, b]
    let more ← escapedBytes? count rest
    return UInt8.ofNat n :: more
  | _ + 1, _ => none

/-- The character whose bytes are escaped at a place, and how many characters
that takes. -/
def escapedCharacter? (cs : List Char) : Option (List Char × Nat) := do
  let first ← escapedBytes? 1 cs
  let width ← first.head?.bind utf8Width?
  let bytes ← escapedBytes? width cs
  let rest := bytes.drop 1
  if rest.all fun b => 0x80 ≤ b && b < 0xC0 then
    return (((Text.ofUtf8? bytes).getD "\uFFFD").toList, 3 * width)
  else none

/-- The characters of a tag at a place, escapes resolved. -/
def tagText? (wide : Bool) : (fuel : Nat) → Cursor → Option (List Char × Cursor)
  | 0, c => some ([], c)
  | fuel + 1, c =>
    match c.head? with
    | none => some ([], c)
    | some ch =>
      if !isTagChar wide ch then some ([], c)
      else if ch = '%' then do
        let (text, width) ← escapedCharacter? c.rest
        let (more, c) ← tagText? wide fuel (c.advance width)
        return (text ++ more, c)
      else do
        let (more, c) ← tagText? wide fuel (c.advance 1)
        return (ch :: more, c)

/-- A handle at a place: `!`, or a word between two of these. -/
def tagHandle? (inDirective : Bool) (c : Cursor) : Option (List Char × Cursor) :=
  if !c.startsWith '!' then none
  else
    let (word, c) := (c.advance 1).span isWordChar
    if c.startsWith '!' then some ('!' :: (word ++ ['!']), c.advance 1)
    else if inDirective && !word.isEmpty then none
    else some ('!' :: word, c)

/-- The handle and the suffix of the tag at a place. -/
def tagParts? (c : Cursor) : Option (List Char × List Char × Cursor) :=
  if c.rest.drop 1 |>.head? |> (· == some '<') then do
    let (text, c) ← tagText? true c.rest.length (c.advance 2)
    if text.isEmpty || !c.startsWith '>' then none else return ([], text, c.advance 1)
  else do
    let (handle, c) ← tagHandle? false c
    let (text, c) ← tagText? false c.rest.length c
    if 2 ≤ handle.length && handle.getLast? == some '!' then
      if text.isEmpty then none else return (handle, text, c)
    else
      let suffix := handle.drop 1 ++ text
      if suffix.isEmpty then return ([], ['!'], c) else return (['!'], suffix, c)

/-- The tag at a place. -/
def tag? (inFlow : Bool) (c : Cursor) : Option (Token × Cursor) := do
  let (handle, suffix, c) ← tagParts? c
  if c.isSpaceAt 0 || (inFlow && c.startsWith ',') then
    return (.tag (String.ofList handle) (String.ofList suffix), c)
  else none

/-! ## Directives -/

/-- A number of at most nine digits at a place. -/
def versionNumber? (c : Cursor) : Option (Nat × Cursor) :=
  let (ds, c) := c.span Char.isDigit
  if ds.isEmpty || 9 < ds.length then none
  else some (ds.foldl (fun n d => 10 * n + (d.toNat - '0'.toNat)) 0, c)

/-- What is after the name of a directive. -/
def directiveValue? (name : String) (c : Cursor) : Option (Token × Cursor) :=
  let c := c.skipBlanks
  if name = "YAML" then do
    let (major, c) ← versionNumber? c
    if !c.startsWith '.' then none
    else
      let (minor, c) ← versionNumber? (c.advance 1)
      return (.version major minor, c)
  else if name = "TAG" then do
    let (handle, c) ← tagHandle? true c
    if !c.head?.any isBlank then none
    else
      let (expansion, c) ← tagText? true c.rest.length c.skipBlanks
      if expansion.isEmpty || !c.isSpaceAt 0 then none
      else return (.tagHandle (String.ofList handle) (String.ofList expansion), c)
  else none

/-- The directive at a place, and the place after its line. -/
def directive? (c : Cursor) : Option (Token × Cursor) := do
  let (name, c) := (c.advance 1).span isWordChar
  if name.isEmpty || !c.isSpaceAt 0 then none
  else
    let (token, c) ← directiveValue? (String.ofList name) c
    let c := c.skipBlanks
    let c := if c.startsWith '#' then c.skipLine else c
    if c.isLineEndAt 0 then return (token, c.takeBreak.2) else none

end PowerTelemetry.Yaml
