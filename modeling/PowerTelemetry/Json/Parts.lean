import PowerTelemetry.Json.Reader
/-!
# JSON texts in parts

`Parts.of?` takes the text of an array or an object apart into the texts of its
items or members.  It looks into these only as far as it takes to find where
they end: a number may be of any size, an escape may be a lone surrogate, and
values may nest at any depth.  So a reader that knows the members it needs can
leave the others alone.
-/

namespace PowerTelemetry.Json

/-! ## Leaves -/

/-- The text after the closing quote of a string, from behind its opening
quote. -/
def skipString? : List Char → Option (List Char)
  | [] => none
  | '"' :: rest => some rest
  | '\\' :: 'u' :: a :: b :: c :: d :: rest =>
    if (Text.hexNumber? [a, b, c, d]).isSome then skipString? rest else none
  | '\\' :: c :: rest => if (escape? c).isSome then skipString? rest else none
  | c :: rest => if c.toNat < 32 ∨ c = '\\' then none else skipString? rest

/-- The text after digits, of which there is one at least. -/
def skipDigits? (cs : List Char) : Option (List Char) :=
  if cs.head?.any Char.isDigit then some (cs.dropWhile Char.isDigit) else none

/-- The text after an exponent, if there is one. -/
def skipExponent? : List Char → Option (List Char)
  | c :: rest =>
    if c = 'e' ∨ c = 'E' then
      match rest with
      | '+' :: rest => skipDigits? rest
      | '-' :: rest => skipDigits? rest
      | rest => skipDigits? rest
    else some (c :: rest)
  | [] => some []

/-- The text after a fraction and an exponent, if there are any. -/
def skipFraction? : List Char → Option (List Char)
  | '.' :: rest => (skipDigits? rest).bind skipExponent?
  | cs => skipExponent? cs

/-- The text after a number without its sign. -/
def skipNumber? : List Char → Option (List Char)
  | '0' :: rest => if rest.head?.any Char.isDigit then none else skipFraction? rest
  | cs => (skipDigits? cs).bind skipFraction?

/-! ## Values -/

mutual

/-- The text after the value at the front; `fuel` bounds the number of
steps. -/
def skipValue? (fuel : Nat) (cs : List Char) : Option (List Char) :=
  match fuel with
  | 0 => none
  | fuel + 1 =>
    match skipBlanks cs with
    | 'n' :: rest => after? ['u', 'l', 'l'] rest
    | 't' :: rest => after? ['r', 'u', 'e'] rest
    | 'f' :: rest => after? ['a', 'l', 's', 'e'] rest
    | '"' :: rest => skipString? rest
    | '[' :: rest =>
      match skipBlanks rest with
      | ']' :: rest => some rest
      | rest => (takeItems? fuel rest).map Prod.snd
    | '\x7b' :: rest =>
      match skipBlanks rest with
      | '\x7d' :: rest => some rest
      | rest => (takeMembers? fuel rest).map Prod.snd
    | '-' :: rest => skipNumber? rest
    | rest => skipNumber? rest

/-- The texts of the items of an array up to its closing bracket, and the
rest. -/
def takeItems? (fuel : Nat) (cs : List Char) : Option (List (List Char) × List Char) :=
  match fuel with
  | 0 => none
  | fuel + 1 => do
    let rest ← skipValue? fuel cs
    let item := cs.take (cs.length - rest.length)
    match skipBlanks rest with
    | ',' :: rest =>
      let (items, rest) ← takeItems? fuel rest
      some (item :: items, rest)
    | ']' :: rest => some ([item], rest)
    | _ => none

/-- The texts of the names and values of an object up to its closing brace, and
the rest. -/
def takeMembers? (fuel : Nat) (cs : List Char) :
    Option (List (List Char × List Char) × List Char) :=
  match fuel with
  | 0 => none
  | fuel + 1 => do
    match skipBlanks cs with
    | '"' :: inner =>
      let rest ← skipString? inner
      let name := '"' :: inner.take (inner.length - rest.length)
      match skipBlanks rest with
      | ':' :: after =>
        let rest ← skipValue? fuel after
        let value := after.take (after.length - rest.length)
        match skipBlanks rest with
        | ',' :: rest =>
          let (members, rest) ← takeMembers? fuel rest
          some ((name, value) :: members, rest)
        | '\x7d' :: rest => some ([(name, value)], rest)
        | _ => none
      | _ => none
    | _ => none

end

/-! ## Parts -/

/-- The parts of an array or an object, as texts. -/
inductive Parts where
  | items (texts : List (List Char))
  | members (texts : List (String × List Char))
  deriving DecidableEq, Repr

/-- A string. -/
def readString? (cs : List Char) : Option String :=
  match readChars cs with
  | some (.string s) => some s
  | _ => none

/-- A member whose name is read. -/
def named? (member : List Char × List Char) : Option (String × List Char) :=
  (readString? member.1).map (·, member.2)

/-- Something at the front of a text, behind which there are only blanks. -/
def alone? {α : Type} : α × List Char → Option α
  | (a, rest) => if (skipBlanks rest).isEmpty then some a else none

/-- The parts of the array or object that a text spells. -/
def Parts.of? (cs : List Char) : Option Parts :=
  let fuel := 2 * cs.length + 2
  match skipBlanks cs with
  | '[' :: rest =>
    match skipBlanks rest with
    | ']' :: rest => alone? (items [], rest)
    | rest => ((takeItems? fuel rest).bind alone?).map items
  | '\x7b' :: rest =>
    match skipBlanks rest with
    | '\x7d' :: rest => alone? (members [], rest)
    | rest => do return members (← (← (takeMembers? fuel rest).bind alone?).mapM named?)
  | _ => none

/-- The text of the one member of a name; two members are an error. -/
def only? (name : String) (members : List (String × List Char)) :
    Except Unit (Option (List Char)) :=
  match members.filter (·.1 == name) with
  | [] => .ok none
  | [m] => .ok (some m.2)
  | _ => .error ()

end PowerTelemetry.Json
