/-!
# Instants

An `Instant` is a point in time: whole seconds since 1970-01-01T00:00:00Z, and
nanoseconds into the second.  A leap second is the second before it with
`10^9` or more nanoseconds.

There are three groups.

* The calendar.  `daysOfCivil` counts the days to a date of the Gregorian
  calendar, `civilOfDays` goes back.
* Written instants.  `ofRfc3339?` reads the internet date and time format.
* Printed instants.  `detailed` shows all that an instant holds, `brief` is
  the day, the month and the time of day.
-/

namespace PowerTelemetry

/-- A point in time. -/
structure Instant where
  seconds : Int
  nanos : Nat
  deriving DecidableEq, Repr, Inhabited

namespace Instant

/-! ## The calendar -/

/-- A date of the Gregorian calendar. -/
structure Civil where
  year : Int
  month : Nat
  day : Nat
  deriving DecidableEq, Repr

/-- Days from 1970-01-01 to a date.  Years are counted from March, so that a
leap day ends its year; four hundred of them have 146097 days. -/
def daysOfCivil (c : Civil) : Int :=
  let year := if c.month ≤ 2 then c.year - 1 else c.year
  let era := year.fdiv 400
  let yearOfEra := year - era * 400
  let monthFromMarch : Int := ((c.month + 9) % 12 : Nat)
  let dayOfYear := (153 * monthFromMarch + 2) / 5 + (c.day : Int) - 1
  let dayOfEra := yearOfEra * 365 + yearOfEra / 4 - yearOfEra / 100 + dayOfYear
  era * 146097 + dayOfEra - 719468

/-- The date that many days after 1970-01-01. -/
def civilOfDays (days : Int) : Civil :=
  let shifted := days + 719468
  let era := shifted.fdiv 146097
  let dayOfEra := shifted - era * 146097
  let yearOfEra := (dayOfEra - dayOfEra / 1460 + dayOfEra / 36524 - dayOfEra / 146096) / 365
  let dayOfYear := dayOfEra - (365 * yearOfEra + yearOfEra / 4 - yearOfEra / 100)
  let monthFromMarch := (5 * dayOfYear + 2) / 153
  let day := (dayOfYear - (153 * monthFromMarch + 2) / 5 + 1).toNat
  let month := if monthFromMarch < 10 then monthFromMarch + 3 else monthFromMarch - 9
  let year := yearOfEra + era * 400 + if month ≤ 2 then 1 else 0
  ⟨year, month.toNat, day⟩

/-- A leap year has a 29th of February. -/
def isLeapYear (year : Int) : Bool :=
  decide (year % 4 = 0 ∧ (year % 100 ≠ 0 ∨ year % 400 = 0))

/-- How many days a month has. -/
def daysInMonth (year : Int) (month : Nat) : Nat :=
  if month = 2 then (if isLeapYear year then 29 else 28)
  else if month = 4 ∨ month = 6 ∨ month = 9 ∨ month = 11 then 30
  else 31

/-- The instant at whole seconds, for years from -262143 to 262142. -/
def ofUnixSeconds? (seconds : Int) : Option Instant :=
  if -8334601228800 ≤ seconds ∧ seconds ≤ 8210266876799 then some ⟨seconds, 0⟩ else none

/-! ## Written instants -/

/-- The value of a decimal digit. -/
def digit? (c : Char) : Option Nat :=
  if c.isDigit then some (c.toNat - '0'.toNat) else none

/-- The number that exactly `count` digits spell, and the text after them. -/
def digits? (count : Nat) (cs : List Char) : Option (Nat × List Char) :=
  go count 0 cs
where
  go : Nat → Nat → List Char → Option (Nat × List Char)
    | 0, n, cs => some (n, cs)
    | count + 1, n, c :: cs => do
      let d ← digit? c
      go count (10 * n + d) cs
    | _ + 1, _, [] => none

/-- The text after a character. -/
def expect? (c : Char) : List Char → Option (List Char)
  | d :: rest => if c = d then some rest else none
  | [] => none

/-- The nanoseconds of a fraction after the point, digits after the ninth
ignored, and the text after the fraction. -/
def fraction? (cs : List Char) : Option (Nat × List Char) :=
  let ds := cs.takeWhile Char.isDigit
  if ds.isEmpty then none
  else
    let nine := (ds ++ List.replicate 9 '0').take 9
    some (nine.foldl (fun n c => 10 * n + (c.toNat - '0'.toNat)) 0, cs.dropWhile Char.isDigit)

/-- The seconds that local time is ahead by: `Z`, or a sign, hours and
minutes.  The sign may be a hyphen or a minus sign. -/
def offset? (cs : List Char) : Option Int :=
  match cs with
  | [c] => if c = 'Z' ∨ c = 'z' then some 0 else none
  | sign :: rest => do
    let negative ← if sign = '+' then some false
      else if sign = '-' ∨ sign = '\u2212' then some true else none
    let (hours, rest) ← digits? 2 rest
    let rest ← expect? ':' rest
    let (minutes, rest) ← digits? 2 rest
    if rest.isEmpty ∧ hours < 24 ∧ minutes < 60 then
      let seconds : Int := ((hours * 3600 + minutes * 60 : Nat) : Int)
      some (if negative then -seconds else seconds)
    else none
  | [] => none

/-- The instant that a text in the internet date and time format denotes:
`YYYY-MM-DD`, then `T`, `t` or a space, `HH:MM:SS`, a fraction after a point if
there is one, and the offset from universal time.  The second `60` is second
`59` with `10^9` nanoseconds more. -/
def ofRfc3339? (s : String) : Option Instant := do
  let (year, cs) ← digits? 4 s.toList
  let cs ← expect? '-' cs
  let (month, cs) ← digits? 2 cs
  let cs ← expect? '-' cs
  let (day, cs) ← digits? 2 cs
  let cs ← match cs with
    | c :: rest => if c = 'T' ∨ c = 't' ∨ c = ' ' then some rest else none
    | [] => none
  let (hour, cs) ← digits? 2 cs
  let cs ← expect? ':' cs
  let (minute, cs) ← digits? 2 cs
  let cs ← expect? ':' cs
  let (second, cs) ← digits? 2 cs
  let (nanos, cs) ← match cs with
    | '.' :: rest => fraction? rest
    | _ => some (0, cs)
  let offset ← offset? cs
  if 1 ≤ month ∧ month ≤ 12 ∧ 1 ≤ day ∧ day ≤ daysInMonth year month
      ∧ hour < 24 ∧ minute < 60 ∧ second ≤ 60 then
    let leap := if second = 60 then 1 else 0
    let ofDay : Int := ((hour * 3600 + minute * 60 + (second - leap) : Nat) : Int)
    some ⟨daysOfCivil ⟨year, month, day⟩ * 86400 + ofDay - offset, nanos + leap * 1000000000⟩
  else none

/-! ## Printed instants -/

/-- A number with at least `width` digits. -/
def padded (width n : Nat) : List Char :=
  let ds := Nat.toDigits 10 n
  List.replicate (width - ds.length) '0' ++ ds

/-- The hour, the minute and the second of the day, and the nanoseconds of the
second; a leap second is second `60`. -/
def timeOfDay (t : Instant) : Nat × Nat × Nat × Nat :=
  let ofDay := (t.seconds.fmod 86400).toNat
  let leap := if 1000000000 ≤ t.nanos then 1 else 0
  (ofDay / 3600, ofDay / 60 % 60, ofDay % 60 + leap, t.nanos - leap * 1000000000)

/-- The date of an instant. -/
def civil (t : Instant) : Civil :=
  civilOfDays (t.seconds.fdiv 86400)

/-- The year, with a sign and at least four digits outside `0` to `9999`. -/
def yearText (year : Int) : List Char :=
  if 0 ≤ year ∧ year ≤ 9999 then padded 4 year.toNat
  else (if year < 0 then '-' else '+') :: padded 4 year.natAbs

/-- The fraction of a second with three, six or nine digits, nothing for a
whole second. -/
def fractionText (nanos : Nat) : List Char :=
  if nanos = 0 then []
  else if nanos % 1000000 = 0 then '.' :: padded 3 (nanos / 1000000)
  else if nanos % 1000 = 0 then '.' :: padded 6 (nanos / 1000)
  else '.' :: padded 9 nanos

/-- The hour, the minute and the second with colons between. -/
def clockText (hour minute second : Nat) : List Char :=
  padded 2 hour ++ ':' :: (padded 2 minute ++ ':' :: padded 2 second)

/-- All that an instant holds, such as `2025-03-27T14:57:45.250Z`. -/
def detailed (t : Instant) : String :=
  let c := t.civil
  let (hour, minute, second, nanos) := t.timeOfDay
  String.ofList <|
    yearText c.year ++ '-' :: (padded 2 c.month ++ '-' :: padded 2 c.day)
      ++ 'T' :: clockText hour minute second ++ fractionText nanos ++ ['Z']

/-- The day, the month and the time of day, such as `27.03. 14:57:45`. -/
def brief (t : Instant) : String :=
  let c := t.civil
  let (hour, minute, second, _) := t.timeOfDay
  String.ofList <|
    padded 2 c.day ++ '.' :: (padded 2 c.month ++ ['.', ' ']) ++ clockText hour minute second

end Instant

end PowerTelemetry
