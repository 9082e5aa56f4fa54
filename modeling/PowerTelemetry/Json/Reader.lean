import PowerTelemetry.Json
import PowerTelemetry.Text.Hex
/-!
# Reading JSON

`Json.read?` reads a text as one JSON value, with the members of each object
in the order of the text.  The grammar is the strict one: no blanks but space,
tab, newline and carriage return, no control characters in strings, no lone
surrogates, no leading zeros, nothing after the value.  Values nest at most
127 deep.

`Json.parse?` is `read?` in canonical form.

A number without fraction and exponent is a whole number when it fits 64 bits.
Every other number is a double: its digits form a significand of 64 bits,
further digits are dropped and only scale it, and the significand, rounded to a
double, is multiplied or divided by a power of ten, itself rounded to a double.
A number beyond the largest double is refused.
-/

namespace PowerTelemetry.Json

/-! ## Numbers -/

/-- The digits at the front of a text fold into a significand as long as it
stays below `2^64`.  The count of digits taken, and the rest. -/
def takeSignificand (significand : Nat) (count : Nat) : List Char → Nat × Nat × List Char
  | [] => (significand, count, [])
  | c :: rest =>
    if c.isDigit then
      let next := 10 * significand + (c.toNat - '0'.toNat)
      if next < Nat.pow 2 64 then takeSignificand next (count + 1) rest
      else (significand, count, c :: rest)
    else (significand, count, c :: rest)

/-- The largest exponent of ten that is a double. -/
def maxPower : Nat := 308

/-- The double nearest to a power of ten. -/
def powerOfTen (e : Nat) : Binary64 :=
  Binary64.ofNat (Nat.pow 10 e)

/-- A number divided by the largest power of ten until the exponent is in
reach; the steps needed are bounded by `fuel`. -/
def scaleDown (fuel : Nat) (x : Binary64) (e : Nat) : Binary64 :=
  match fuel with
  | 0 => x
  | fuel + 1 =>
    if e ≤ maxPower then x.div (powerOfTen e)
    else if x.key = 0 then x
    else scaleDown fuel (x.div (powerOfTen maxPower)) (e - maxPower)

/-- The double `± significand · 10^exponent`, if there is one. -/
def scaled? (negative : Bool) (significand : Nat) (exponent : Int) : Option Binary64 :=
  let signed (x : Binary64) := if negative then x.neg else x
  let x := Binary64.ofNat significand
  if exponent < 0 then
    some (signed (scaleDown 4 x exponent.natAbs))
  else if exponent.toNat ≤ maxPower then
    let y := x.mul (powerOfTen exponent.toNat)
    if y.isFinite then some (signed y) else none
  else if significand = 0 then some (signed x)
  else none

/-- The value of an exponent's digits, cut off where it no longer matters. -/
def exponentValue (ds : List Char) : Nat :=
  ds.foldl (fun n c => min (10 * n + (c.toNat - '0'.toNat)) (Nat.pow 2 40)) 0

/-- The number after its significand, whose value is scaled by `exponent`, and
the rest. -/
def readExponent? (negative : Bool) (significand : Nat) (exponent : Int) (cs : List Char) :
    Option (JsonNumber × List Char) :=
  match cs with
  | c :: rest =>
    if c = 'e' ∨ c = 'E' then
      let (down, rest) := match rest with
        | '+' :: rest => (false, rest)
        | '-' :: rest => (true, rest)
        | rest => (false, rest)
      let ds := rest.takeWhile Char.isDigit
      if ds.isEmpty then none
      else
        let shift : Int := (exponentValue ds : Nat)
        let total := if down then exponent - shift else exponent + shift
        (scaled? negative significand total).map fun x =>
          (.float x, rest.dropWhile Char.isDigit)
    else (scaled? negative significand exponent).map fun x => (.float x, cs)
  | [] => (scaled? negative significand exponent).map fun x => (.float x, [])

/-- The number after its whole part, and the rest.  `dropped` digits of the
whole part did not fit the significand. -/
def readFraction? (negative : Bool) (significand dropped : Nat) (cs : List Char) :
    Option (JsonNumber × List Char) :=
  match cs with
  | '.' :: rest =>
    if (rest.takeWhile Char.isDigit).isEmpty then none
    else
      let (significand, count, _) := takeSignificand significand 0 rest
      readExponent? negative significand ((dropped : Int) - count) (rest.dropWhile Char.isDigit)
  | c :: _ =>
    if c = 'e' ∨ c = 'E' ∨ dropped ≠ 0 then readExponent? negative significand dropped cs
    else some (whole, cs)
  | [] => if dropped ≠ 0 then readExponent? negative significand dropped cs else some (whole, cs)
where
  /-- A number without fraction and exponent: a double for minus zero and what
  is below the least 64-bit integer. -/
  whole : JsonNumber :=
    if !negative then .natural (UInt64.ofNat significand)
    else if significand = 0 ∨ Nat.pow 2 63 < significand then
      .float (Binary64.ofNat significand).neg
    else .negative (Int64.ofInt (-(significand : Int)))

/-- The number at the front of a text, after its sign, and the rest. -/
def readUnsigned? (negative : Bool) (cs : List Char) : Option (JsonNumber × List Char) :=
  match cs with
  | '0' :: rest =>
    match rest with
    | c :: _ => if c.isDigit then none else readFraction? negative 0 0 rest
    | [] => readFraction? negative 0 0 rest
  | c :: _ =>
    if c.isDigit then
      let (significand, _, rest) := takeSignificand 0 0 cs
      let dropped := (rest.takeWhile Char.isDigit).length
      readFraction? negative significand dropped (rest.dropWhile Char.isDigit)
    else none
  | [] => none

/-! ## Strings -/

/-- The character of a one-letter escape. -/
def escape? (c : Char) : Option Char :=
  if c = '"' ∨ c = '\\' ∨ c = '/' then some c
  else if c = 'b' then some '\x08'
  else if c = 'f' then some '\x0c'
  else if c = 'n' then some '\n'
  else if c = 'r' then some '\r'
  else if c = 't' then some '\t'
  else none

/-- The characters of a string after its opening quote, and the text after
its closing quote.  A character beyond `U+FFFF` may be escaped as a pair of
surrogates. -/
def readChars? : List Char → Option (List Char × List Char)
  | [] => none
  | '"' :: rest => some ([], rest)
  | '\\' :: 'u' :: a :: b :: c :: d :: rest => do
    let unit ← Text.hexNumber? [a, b, c, d]
    if 0xDC00 ≤ unit ∧ unit ≤ 0xDFFF then none
    else if 0xD800 ≤ unit ∧ unit ≤ 0xDBFF then
      match rest with
      | '\\' :: 'u' :: e :: f :: g :: h :: rest =>
        let low ← Text.hexNumber? [e, f, g, h]
        if 0xDC00 ≤ low ∧ low ≤ 0xDFFF then
          let (cs, rest) ← readChars? rest
          some (Char.ofNat (0x10000 + (unit - 0xD800) * 0x400 + (low - 0xDC00)) :: cs, rest)
        else none
      | _ => none
    else
      let (cs, rest) ← readChars? rest
      some (Char.ofNat unit :: cs, rest)
  | '\\' :: c :: rest => do
    let e ← escape? c
    let (cs, rest) ← readChars? rest
    some (e :: cs, rest)
  | c :: rest =>
    if c.toNat < 32 ∨ c = '\\' then none
    else do
      let (cs, rest) ← readChars? rest
      some (c :: cs, rest)

/-! ## Values -/

/-- A character that may stand between tokens. -/
def isBlank (c : Char) : Bool :=
  c == ' ' || c == '\t' || c == '\n' || c == '\r'

/-- The text after leading blanks. -/
def skipBlanks (cs : List Char) : List Char :=
  cs.dropWhile isBlank

/-- The text after a word at its front. -/
def after? (word cs : List Char) : Option (List Char) :=
  if word.isPrefixOf cs then some (cs.drop word.length) else none

/-- How deep values may nest. -/
def maxDepth : Nat := 127

mutual

/-- The value at the front of a text and the rest.  At most `depth` more
arrays and objects may open; `fuel` bounds the number of steps. -/
def readValue? (fuel depth : Nat) (cs : List Char) : Option (Json × List Char) :=
  match fuel with
  | 0 => none
  | fuel + 1 =>
    match skipBlanks cs with
    | 'n' :: rest => (after? ['u', 'l', 'l'] rest).map (.null, ·)
    | 't' :: rest => (after? ['r', 'u', 'e'] rest).map (.bool true, ·)
    | 'f' :: rest => (after? ['a', 'l', 's', 'e'] rest).map (.bool false, ·)
    | '"' :: rest => (readChars? rest).map fun r => (.string (String.ofList r.1), r.2)
    | '[' :: rest =>
      match depth with
      | 0 => none
      | depth + 1 =>
        match skipBlanks rest with
        | ']' :: rest => some (.array [], rest)
        | rest => (readItems? fuel depth rest).map fun r => (.array r.1, r.2)
    | '\x7b' :: rest =>
      match depth with
      | 0 => none
      | depth + 1 =>
        match skipBlanks rest with
        | '\x7d' :: rest => some (.object [], rest)
        | rest => (readMembers? fuel depth rest).map fun r => (.object r.1, r.2)
    | '-' :: rest => (readUnsigned? true rest).map fun r => (.number r.1, r.2)
    | rest => (readUnsigned? false rest).map fun r => (.number r.1, r.2)

/-- The items of an array up to its closing bracket, and the rest. -/
def readItems? (fuel depth : Nat) (cs : List Char) : Option (List Json × List Char) :=
  match fuel with
  | 0 => none
  | fuel + 1 => do
    let (item, rest) ← readValue? fuel depth cs
    match skipBlanks rest with
    | ',' :: rest =>
      let (items, rest) ← readItems? fuel depth rest
      some (item :: items, rest)
    | ']' :: rest => some ([item], rest)
    | _ => none

/-- The members of an object up to its closing brace, and the rest. -/
def readMembers? (fuel depth : Nat) (cs : List Char) :
    Option (List (String × Json) × List Char) :=
  match fuel with
  | 0 => none
  | fuel + 1 => do
    match skipBlanks cs with
    | '"' :: rest =>
      let (name, rest) ← readChars? rest
      match skipBlanks rest with
      | ':' :: rest =>
        let (value, rest) ← readValue? fuel depth rest
        match skipBlanks rest with
        | ',' :: rest =>
          let (members, rest) ← readMembers? fuel depth rest
          some ((String.ofList name, value) :: members, rest)
        | '\x7d' :: rest => some ([(String.ofList name, value)], rest)
        | _ => none
      | _ => none
    | _ => none

end

/-- The one value that a text spells, in which at most `depth` arrays and objects
open. -/
def readWithin (depth : Nat) (cs : List Char) : Option Json :=
  match readValue? (2 * cs.length + 2) depth cs with
  | some (value, rest) => if (skipBlanks rest).isEmpty then some value else none
  | none => none

/-- The one value that a text spells, members in the order of the text. -/
def readChars (cs : List Char) : Option Json :=
  readWithin maxDepth cs

/-- The one value that a text spells, members in the order of the text. -/
def read? (s : String) : Option Json :=
  readChars s.toList

/-- The one value that a text spells, in canonical form. -/
def parse? (s : String) : Option Json :=
  (read? s).map canonical

end PowerTelemetry.Json
