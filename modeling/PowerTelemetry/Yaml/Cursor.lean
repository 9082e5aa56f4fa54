/-!
# Places in a YAML text

A `Cursor` is a place in a text: the rest of the text, and how many characters
and lines are before it.  Characters fall into blanks, breaks, and all others.
A carriage return and a line feed together are one break.
-/

namespace PowerTelemetry.Yaml

/-! ## Characters -/

/-- A space or a tab. -/
def isBlank (c : Char) : Bool :=
  c == ' ' || c == '\t'

/-- A character that ends a line. -/
def isBreak (c : Char) : Bool :=
  c == '\r' || c == '\n' || c == '\u0085' || c == '\u2028' || c == '\u2029'

/-- A letter, a digit, a hyphen or an underscore. -/
def isWordChar (c : Char) : Bool :=
  c.isAlphanum || c == '-' || c == '_'

/-- A character that a text may hold: no control characters but tab and
breaks. -/
def isAllowed (c : Char) : Bool :=
  let n := c.toNat
  n == 0x09 || n == 0x0A || n == 0x0D || (0x20 ≤ n && n ≤ 0x7E) || n == 0x85
    || (0xA0 ≤ n && n ≤ 0xFFFD) || 0x10000 ≤ n

/-- The mark that may open a line. -/
def byteOrderMark : Char := '\uFEFF'

/-! ## Cursors -/

/-- A place in a text. -/
structure Cursor where
  rest : List Char
  index : Nat
  line : Nat
  column : Nat
  deriving DecidableEq, Repr, Inhabited

namespace Cursor

/-- The start of a text. -/
def start (text : List Char) : Cursor :=
  ⟨text, 0, 0, 0⟩

/-- The next character. -/
def head? (c : Cursor) : Option Char :=
  c.rest.head?

/-- The next character is a given one. -/
def startsWith (c : Cursor) (ch : Char) : Bool :=
  c.head? == some ch

/-- The place after a number of characters of one line. -/
def advance (c : Cursor) (count : Nat) : Cursor :=
  ⟨c.rest.drop count, c.index + count, c.line, c.column + count⟩

/-- The characters at the front that fulfil a condition, and the place after
them. -/
def span (c : Cursor) (p : Char → Bool) : List Char × Cursor :=
  let taken := c.rest.takeWhile p
  (taken, c.advance taken.length)

/-- The place after blanks. -/
def skipBlanks (c : Cursor) : Cursor :=
  (c.span isBlank).2

/-- The place after everything up to the end of the line. -/
def skipLine (c : Cursor) : Cursor :=
  (c.span fun ch => !isBreak ch).2

/-- The place after a break, and what the break stands for in a scalar. -/
def takeBreak (c : Cursor) : List Char × Cursor :=
  match c.rest with
  | '\r' :: '\n' :: rest => (['\n'], ⟨rest, c.index + 2, c.line + 1, 0⟩)
  | ch :: rest =>
    if isBreak ch then
      (if ch = '\u2028' ∨ ch = '\u2029' then [ch] else ['\n'], ⟨rest, c.index + 1, c.line + 1, 0⟩)
    else ([], c)
  | [] => ([], c)

/-- What follows a number of characters is a blank, a break or the end. -/
def isSpaceAt (c : Cursor) (offset : Nat) : Bool :=
  match c.rest.drop offset with
  | ch :: _ => isBlank ch || isBreak ch
  | [] => true

/-- What follows a number of characters is a break or the end. -/
def isLineEndAt (c : Cursor) (offset : Nat) : Bool :=
  match c.rest.drop offset with
  | ch :: _ => isBreak ch
  | [] => true

/-- A line that starts with three times a character and nothing else stands
here. -/
def isMarker (c : Cursor) (ch : Char) : Bool :=
  c.column == 0 && c.rest.take 3 == [ch, ch, ch] && c.isSpaceAt 3

/-- A marker between documents stands here. -/
def isDocumentMarker (c : Cursor) : Bool :=
  c.isMarker '-' || c.isMarker '.'

end Cursor

end PowerTelemetry.Yaml
