import PowerTelemetry.Text.CaseTable
/-!
# Lower-case texts

`lowercase` maps each letter of a text to its lower-case form.  Two characters
need more than a look-up: `İ` becomes `i` with a dot above, two characters, and
`Σ` becomes `ς` at the end of a word and `σ` elsewhere.  A word ends at a sigma
with a letter before it and none after it, passing over the characters of
`caseIgnorable` on both sides.
-/

namespace PowerTelemetry.Text

/-- The lower-case letter of a character, the character itself if it has none. -/
def lowerChar (c : Char) : Char :=
  if c.toNat < 128 then c.toLower
  else match lowerRuns.find? (·.holds c.toNat) with
    | some r => Char.ofNat ((c.toNat : Int) + r.offset).toNat
    | none => c

/-- The next character that is not passed over is a letter with a case. -/
def nextIsCased (cs : List Char) : Bool :=
  match cs.dropWhile caseIgnorable.contains with
  | c :: _ => casedLetters.contains c
  | [] => false

/-- The lower-case form of a text that follows `before`, which is given
backwards. -/
def lowerAfter (before : List Char) : List Char → List Char
  | [] => []
  | c :: rest =>
    let lowered :=
      if c = 'Σ' then [if nextIsCased before && !nextIsCased rest then 'ς' else 'σ']
      else if c = 'İ' then ['i', '\u0307']
      else [lowerChar c]
    lowered ++ lowerAfter (c :: before) rest

/-- The lower-case form of a text. -/
def lowercase (s : String) : String :=
  String.ofList (lowerAfter [] s.toList)

end PowerTelemetry.Text
