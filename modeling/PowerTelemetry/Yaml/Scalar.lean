import PowerTelemetry.Text.Hex
import PowerTelemetry.Yaml.Cursor
/-!
# YAML scalars

A scalar is a text, written plainly, between quotes, or as a block of lines.
Each kind of scalar has a function here that takes the scalar at a place and
gives its text and the place after it, or nothing where the text is not well
formed.

Inside plain and quoted scalars, the blanks and breaks between two words are a
`Gap`.  Blanks alone stay; a single break counts as a space, and of several the
first one does not count.
-/

namespace PowerTelemetry.Yaml

/-- How a scalar is written. -/
inductive Style where
  | plain
  | singleQuoted
  | doubleQuoted
  | literal
  | folded
  deriving DecidableEq, Repr

/-! ## Gaps -/

/-- Blanks and breaks between words. -/
inductive Gap where
  | blanks (text : List Char)
  | broken (first : List Char) (more : List Char)
  deriving DecidableEq, Repr

namespace Gap

/-- No gap. -/
def none : Gap := .blanks []

/-- What a gap counts as. -/
def text : Gap → List Char
  | blanks text => text
  | broken first more =>
    if first = ['\n'] then (if more.isEmpty then [' '] else more) else first ++ more

/-- The gap has a break. -/
def isBroken : Gap → Bool
  | blanks _ => false
  | broken _ _ => true

/-- The gap that goes on at a place, and the place after it.  After a break, a
tab may not stand before the column `tabFrom`. -/
def read? (tabFrom : Int) : (fuel : Nat) → Gap → Cursor → Option (Gap × Cursor)
  | 0, gap, c => some (gap, c)
  | fuel + 1, gap, c =>
    match c.head? with
    | Option.none => some (gap, c)
    | some ch =>
      if isBlank ch then
        match gap with
        | blanks text => read? tabFrom fuel (.blanks (text ++ [ch])) (c.advance 1)
        | broken .. =>
          if ch = '\t' ∧ (c.column : Int) < tabFrom then Option.none
          else read? tabFrom fuel gap (c.advance 1)
      else if isBreak ch then
        let (mark, c) := c.takeBreak
        match gap with
        | blanks _ => read? tabFrom fuel (.broken mark []) c
        | broken first more => read? tabFrom fuel (.broken first (more ++ mark)) c
      else some (gap, c)

end Gap

/-! ## Plain scalars -/

/-- A character that ends a plain scalar inside brackets. -/
def isFlowMark (ch : Char) : Bool :=
  ch == ',' || ch == '[' || ch == ']' || ch == '\x7b' || ch == '\x7d'

/-- The characters of a plain scalar up to a blank, a break or a mark, and the
place after them. -/
def plainWord? (inFlow : Bool) : (fuel : Nat) → Cursor → Option (List Char × Cursor)
  | 0, c => some ([], c)
  | fuel + 1, c =>
    match c.rest with
    | [] => some ([], c)
    | ch :: after =>
      let next := after.head?
      if isBlank ch || isBreak ch then some ([], c)
      else if inFlow && ch == ':' && next.any (fun n => isFlowMark n || n == '?') then none
      else if (ch == ':' && c.isSpaceAt 1) || (inFlow && isFlowMark ch) then some ([], c)
      else (plainWord? inFlow fuel (c.advance 1)).map fun r => (ch :: r.1, r.2)

/-- A scalar's text, the place after it, and whether that follows a break. -/
structure PlainResult where
  text : List Char
  after : Cursor
  broken : Bool

/-- The rest of a plain scalar after some text and a gap.  In a block, lines of
the scalar are indented to the column `indent` at least. -/
def plainRest? (inFlow : Bool) (indent : Int) :
    (fuel : Nat) → List Char → Gap → Cursor → Option PlainResult
  | 0, text, gap, c => some ⟨text, c, gap.isBroken⟩
  | fuel + 1, text, gap, c =>
    if c.isDocumentMarker || c.startsWith '#' then some ⟨text, c, gap.isBroken⟩
    else do
      let (word, c) ← plainWord? inFlow c.rest.length c
      let text := if word.isEmpty then text else text ++ gap.text ++ word
      if word.isEmpty then some ⟨text, c, gap.isBroken⟩
      else if c.rest.isEmpty || !c.isSpaceAt 0 then some ⟨text, c, false⟩
      else
        let (gap, c) ← Gap.read? indent c.rest.length .none c
        if !inFlow && decide ((c.column : Int) < indent) then some ⟨text, c, gap.isBroken⟩
        else plainRest? inFlow indent fuel text gap c

/-- The plain scalar at a place. -/
def plain? (inFlow : Bool) (indent : Int) (c : Cursor) : Option PlainResult :=
  plainRest? inFlow indent (c.rest.length + 1) [] .none c

/-! ## Quoted scalars -/

/-- The characters that one letter after a backslash stands for. -/
def escaped? (ch : Char) : Option Char :=
  match ch with
  | '0' => some '\x00'
  | 'a' => some '\x07'
  | 'b' => some '\x08'
  | 't' => some '\t'
  | '\t' => some '\t'
  | 'n' => some '\n'
  | 'v' => some '\x0b'
  | 'f' => some '\x0c'
  | 'r' => some '\r'
  | 'e' => some '\x1b'
  | ' ' => some ' '
  | '"' => some '"'
  | '/' => some '/'
  | '\\' => some '\\'
  | 'N' => some '\u0085'
  | '_' => some '\u00A0'
  | 'L' => some '\u2028'
  | 'P' => some '\u2029'
  | _ => none

/-- How many digits follow a letter after a backslash. -/
def escapeDigits? (ch : Char) : Option Nat :=
  if ch = 'x' then some 2 else if ch = 'u' then some 4 else if ch = 'U' then some 8 else none

/-- The character of a number; there is none for surrogates and beyond
`U+10FFFF`. -/
def character? (n : Nat) : Option Char :=
  if h : n.isValidChar then some (Char.ofNatAux n h) else none

/-- A part of a quoted scalar that runs up to a blank, a break or the closing
quote. -/
structure QuotedWord where
  text : List Char
  after : Cursor
  /-- A backslash before a break ended it; the break is behind `after`. -/
  joined : Bool

/-- The word at a place of a scalar between single quotes; a quote inside is
written twice. -/
def singleQuotedWord : (fuel : Nat) → Cursor → QuotedWord
  | 0, c => ⟨[], c, false⟩
  | fuel + 1, c =>
    match c.rest with
    | '\'' :: '\'' :: _ =>
      let w := singleQuotedWord fuel (c.advance 2)
      { w with text := '\'' :: w.text }
    | ch :: _ =>
      if ch = '\'' ∨ isBlank ch ∨ isBreak ch then ⟨[], c, false⟩
      else
        let w := singleQuotedWord fuel (c.advance 1)
        { w with text := ch :: w.text }
    | [] => ⟨[], c, false⟩

/-- The word at a place of a scalar between double quotes. -/
def doubleQuotedWord? : (fuel : Nat) → Cursor → Option QuotedWord
  | 0, c => some ⟨[], c, false⟩
  | fuel + 1, c =>
    match c.rest with
    | '\\' :: ch :: rest =>
      if isBreak ch then some ⟨[], (c.advance 1).takeBreak.2, true⟩
      else
        match escaped? ch, escapeDigits? ch with
        | some e, _ => do
          let w ← doubleQuotedWord? fuel (c.advance 2)
          return { w with text := e :: w.text }
        | none, some count =>
          if rest.length < count then none
          else do
            let e ← character? (← Text.hexNumber? (rest.take count))
            let w ← doubleQuotedWord? fuel (c.advance (2 + count))
            return { w with text := e :: w.text }
        | none, none => none
    | ['\\'] => none
    | ch :: _ =>
      if ch = '"' ∨ isBlank ch ∨ isBreak ch then some ⟨[], c, false⟩
      else do
        let w ← doubleQuotedWord? fuel (c.advance 1)
        return { w with text := ch :: w.text }
    | [] => some ⟨[], c, false⟩

/-- The rest of a quoted scalar after some text, up to the closing quote. -/
def quotedRest? (double : Bool) : (fuel : Nat) → List Char → Cursor →
    Option (List Char × Cursor)
  | 0, _, _ => none
  | fuel + 1, text, c =>
    if c.isDocumentMarker || c.rest.isEmpty then none
    else do
      let w ← if double then doubleQuotedWord? c.rest.length c
        else some (singleQuotedWord c.rest.length c)
      let text := text ++ w.text
      if w.after.startsWith (if double then '"' else '\'') then some (text, w.after.advance 1)
      else
        let (gap, c) ← Gap.read? 0 w.after.rest.length (if w.joined then .broken [] [] else .none)
          w.after
        quotedRest? double fuel (text ++ gap.text) c

/-- The quoted scalar at a place, which is at its opening quote. -/
def quoted? (double : Bool) (c : Cursor) : Option (List Char × Cursor) :=
  quotedRest? double (c.rest.length + 1) [] (c.advance 1)

/-! ## Block scalars -/

/-- What becomes of the breaks at the end of a block. -/
inductive Chomping where
  | strip
  | clip
  | keep
  deriving DecidableEq, Repr

/-- What is written behind the mark of a block. -/
structure BlockHeader where
  chomping : Chomping
  /-- How much deeper than its parent the block is, if that is written. -/
  increment : Option Nat

/-- A sign for the breaks at the end. -/
def chomping? (c : Cursor) : Option Chomping :=
  if c.startsWith '+' then some .keep else if c.startsWith '-' then some .strip else none

/-- A digit for the depth: nothing if there is none, an error if it is zero. -/
def increment? (c : Cursor) : Option (Option Nat) :=
  match c.head? with
  | some ch =>
    if ch = '0' then none
    else if ch.isDigit then some (some (ch.toNat - '0'.toNat))
    else some none
  | none => some none

/-- The header at a place, and the place after it.  The sign and the digit may
stand in either order. -/
def blockHeader? (c : Cursor) : Option (BlockHeader × Cursor) :=
  match chomping? c with
  | some chomping => do
    let c := c.advance 1
    let increment ← increment? c
    return (⟨chomping, increment⟩, if increment.isSome then c.advance 1 else c)
  | none => do
    let increment ← increment? c
    if increment.isNone then return (⟨.clip, none⟩, c)
    else
      let c := c.advance 1
      match chomping? c with
      | some chomping => return (⟨chomping, increment⟩, c.advance 1)
      | none => return (⟨.clip, increment⟩, c)

/-- Empty lines of a block: their breaks, the deepest column seen, and the
place after them.  Without an indentation yet, every column may be its. -/
def blockBreaks? (indent : Nat) :
    (fuel : Nat) → List Char → Nat → Cursor → Option (List Char × Nat × Cursor)
  | 0, breaks, deepest, c => some (breaks, deepest, c)
  | fuel + 1, breaks, deepest, c =>
    let spaces := (c.rest.takeWhile (· == ' ')).length
    let c := c.advance (if indent = 0 then spaces else min spaces (indent - c.column))
    let deepest := max deepest c.column
    if (indent = 0 ∨ c.column < indent) ∧ c.startsWith '\t' then none
    else if c.head?.any isBreak then
      let (mark, c) := c.takeBreak
      blockBreaks? indent fuel (breaks ++ mark) deepest c
    else some (breaks, deepest, c)

/-- The lines of a block after some text.  `first` is the break before the
place and `more` are the empty lines after it; `blank` says that the line before
them starts with a blank. -/
def blockLines? (folded : Bool) (indent : Nat) :
    (fuel : Nat) → (text first more : List Char) → (blank : Bool) → Cursor →
      Option (List Char × List Char × List Char × Cursor)
  | 0, text, first, more, _, c => some (text, first, more, c)
  | fuel + 1, text, first, more, blank, c =>
    if c.column ≠ indent ∨ c.rest.isEmpty then some (text, first, more, c)
    else do
      let startsBlank := c.head?.any isBlank
      let joint :=
        if folded && first == ['\n'] && !blank && !startsBlank then
          (if more.isEmpty then [' '] else more)
        else first ++ more
      let (line, c) := c.span fun ch => !isBreak ch
      let (mark, c) := c.takeBreak
      let (breaks, _, c) ← blockBreaks? indent (c.rest.length + 1) [] 0 c
      blockLines? folded indent fuel (text ++ joint ++ line) mark breaks startsBlank c

/-- The block scalar at a place, which is at its mark, inside a block that is
indented to a column. -/
def block? (folded : Bool) (parent : Int) (c : Cursor) : Option (List Char × Cursor) := do
  let (header, c) ← blockHeader? (c.advance 1)
  let c := c.skipBlanks
  let c := if c.startsWith '#' then c.skipLine else c
  if !c.isLineEndAt 0 then none
  else
    let c := c.takeBreak.2
    let given := match header.increment with
      | some n => if 0 ≤ parent then parent.toNat + n else n
      | none => 0
    let (more, deepest, c) ← blockBreaks? given (c.rest.length + 1) [] 0 c
    let indent := if given = 0 then max (max deepest (parent + 1).toNat) 1 else given
    let (text, first, more, c) ← blockLines? folded indent (c.rest.length + 1) [] [] more false c
    let text := match header.chomping with
      | .strip => text
      | .clip => text ++ first
      | .keep => text ++ first ++ more
    return (text, c)

end PowerTelemetry.Yaml
