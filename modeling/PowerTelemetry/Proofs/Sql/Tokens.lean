import PowerTelemetry.Sql.Statement
import Mathlib.Data.List.TakeWhile
/-!
# The tokens of a statement

A database splits the text of a statement into `Token`s before anything else.
An identifier goes from one quote to the next single one, and a quote written
twice inside stands for a quote; words, numbers and places end where no more
letters or digits follow; everything else but a blank is a mark.

`Splits text tokens` says that a text gives these tokens whatever stands behind
it, if that does not go on with the last of them.  Main results: `splits_name`,
by which a quoted name is one token whatever characters it has, and
`Splits.parenthesized`, by which the members of a list stay apart.
-/

namespace PowerTelemetry.Sql

/-! ## Tokens -/

/-- What a statement is made of. -/
inductive Token where
  /-- A quoted identifier. -/
  | name (text : String)
  /-- A key word or the name of a type. -/
  | word (text : String)
  | number (value : Nat)
  /-- A numbered place for a value. -/
  | place (number : Nat)
  | mark (sign : Char)
  deriving DecidableEq, Repr

namespace Token

/-- A character of a word, which does not start with a digit. -/
def isWordChar (c : Char) : Bool :=
  c.isAlphanum || c == '_'

/-- The characters of an identifier and what is behind it, from behind its first
quote.  A doubled quote stands for a quote, and a single one ends it. -/
def identifier? : List Char → Option (List Char × List Char)
  | [] => none
  | '"' :: '"' :: rest => (identifier? rest).map fun r => ('"' :: r.1, r.2)
  | '"' :: rest => some ([], rest)
  | c :: rest => (identifier? rest).map fun r => (c :: r.1, r.2)

/-- The digits in front as a number, and what is behind them. -/
def digits (cs : List Char) : Nat × List Char :=
  (Nat.ofDigitChars 10 (cs.takeWhile Char.isDigit) 0, cs.dropWhile Char.isDigit)

/-- The token in front of a text, and what is behind it. -/
def take? : List Char → Option (Token × List Char)
  | [] => none
  | c :: rest =>
    if c = '"' then (identifier? rest).map fun r => (name (String.ofList r.1), r.2)
    else if c = '$' then some (place (digits rest).1, (digits rest).2)
    else if c.isDigit then some (number (digits (c :: rest)).1, (digits (c :: rest)).2)
    else if isWordChar c then
      some (word (String.ofList ((c :: rest).takeWhile isWordChar)),
        (c :: rest).dropWhile isWordChar)
    else some (mark c, rest)

theorem length_of_identifier? {cs text rest : List Char}
    (h : identifier? cs = some (text, rest)) : rest.length ≤ cs.length := by
  induction cs using identifier?.induct generalizing text with
  | case1 => simp [identifier?] at h
  | case2 cs ih =>
    rw [identifier?, Option.map_eq_some_iff] at h
    obtain ⟨r, hr, he⟩ := h
    cases he
    have := ih hr
    simp only [List.length_cons]
    omega
  | case3 cs hcs =>
    rw [identifier?.eq_3 cs hcs] at h
    cases h
    simp
  | case4 c cs hc hq ih =>
    rw [identifier?.eq_4 c cs hc hq, Option.map_eq_some_iff] at h
    obtain ⟨r, hr, he⟩ := h
    cases he
    have := ih hr
    simp only [List.length_cons]
    omega

/-- A token takes the character that it starts with. -/
theorem length_of_take? {c : Char} {rest after : List Char} {token : Token}
    (h : take? (c :: rest) = some (token, after)) : after.length ≤ rest.length := by
  have shorter (p : Char → Bool) : (rest.dropWhile p).length ≤ rest.length :=
    (List.dropWhile_suffix p).length_le
  rw [take?] at h
  split_ifs at h with hq hd hn hw
  · obtain ⟨r, hr, he⟩ := Option.map_eq_some_iff.1 h
    cases he
    exact length_of_identifier? hr
  · cases h
    exact shorter _
  · cases h
    rw [digits, List.dropWhile_cons_of_pos hn]
    exact shorter _
  · cases h
    rw [List.dropWhile_cons_of_pos hw]
    exact shorter _
  · cases h
    exact le_rfl

end Token

open Token

/-- The tokens of a text. -/
def tokens? : List Char → Option (List Token)
  | [] => some []
  | c :: rest =>
    if c = ' ' then tokens? rest
    else match _h : take? (c :: rest) with
      | none => none
      | some (token, after) => (tokens? after).map (token :: ·)
termination_by cs => cs.length
decreasing_by
  · simp
  · have := length_of_take? ‹_›
    simp only [List.length_cons]
    omega

@[simp] theorem tokens?_nil : tokens? [] = some [] := by
  simp [tokens?]

@[simp] theorem tokens?_blank (cs : List Char) : tokens? (' ' :: cs) = tokens? cs := by
  simp [tokens?]

/-- A token in front of a text. -/
theorem tokens?_of_take? {c : Char} {rest after : List Char} {token : Token} (hc : c ≠ ' ')
    (h : take? (c :: rest) = some (token, after)) :
    tokens? (c :: rest) = (tokens? after).map (token :: ·) := by
  rw [tokens?, if_neg hc]
  split
  next hn => simp [h] at hn
  next hs =>
    rw [h, Option.some.injEq, Prod.mk.injEq] at hs
    rw [hs.1, hs.2]

/-! ## Where a token ends -/

/-- A text that does not go on with a token in front of it. -/
def Breaks (rest : List Char) : Prop :=
  ∀ c ∈ rest.head?, c ≠ '"' ∧ isWordChar c = false

theorem Breaks.head?_ne {rest : List Char} (h : Breaks rest) : rest.head? ≠ some '"' :=
  fun hq => (h _ hq).1 rfl

theorem breaks_nil : Breaks [] := by
  simp [Breaks]

theorem breaks_cons {c : Char} (rest : List Char) (hq : c ≠ '"') (hw : isWordChar c = false) :
    Breaks (c :: rest) := by
  simp [Breaks, hq, hw]

theorem Breaks.append {a b : List Char} (ha : Breaks a) (hb : Breaks b) : Breaks (a ++ b) := by
  cases a with
  | nil => exact hb
  | cons c a => exact ha

theorem isWordChar_of_isDigit {c : Char} (h : c.isDigit = true) : isWordChar c = true := by
  simp [isWordChar, Char.isAlphanum, h]

/-- The longest run of characters of a class ends where the class does. -/
theorem takeWhile_append_of_breaks {p : Char → Bool} {cs rest : List Char}
    (hp : ∀ c, p c = true → isWordChar c = true) (hcs : ∀ c ∈ cs, p c = true)
    (hr : Breaks rest) : (cs ++ rest).takeWhile p = cs ∧ (cs ++ rest).dropWhile p = rest := by
  rw [List.takeWhile_append_of_pos hcs, List.dropWhile_append_of_pos hcs]
  cases rest with
  | nil => simp
  | cons c rest =>
    have hc : p c = false := by
      have := (hr c (by simp)).2
      cases h : p c with
      | false => rfl
      | true => simp [hp c h] at this
    simp [hc]

/-! ## What gives which tokens -/

/-- A text gives these tokens, in front of any that does not go on with the last
of them. -/
def Splits (cs : List Char) (ts : List Token) : Prop :=
  ∀ rest, Breaks rest → tokens? (cs ++ rest) = (tokens? rest).map (ts ++ ·)

theorem Splits.tokens?_eq {cs : List Char} {ts : List Token} (h : Splits cs ts) :
    tokens? cs = some ts := by
  simpa using h [] breaks_nil

theorem Splits.nil : Splits [] [] := by
  intro rest _
  simp

theorem Splits.append {a b : List Char} {s t : List Token} (ha : Splits a s) (hb : Splits b t)
    (hbreak : Breaks b) : Splits (a ++ b) (s ++ t) := by
  intro rest hr
  rw [List.append_assoc, ha _ (hbreak.append hr), hb rest hr, Option.map_map]
  simp only [Function.comp_def, List.append_assoc]

theorem Splits.blank {cs : List Char} {ts : List Token} (h : Splits cs ts) :
    Splits (' ' :: cs) ts := by
  intro rest hr
  rw [List.cons_append, tokens?_blank, h rest hr]

theorem Splits.cons {cs : List Char} {ts : List Token} {c : Char} {t : Token} (h : Splits cs ts)
    (hc : c ≠ ' ') (ht : ∀ rest, take? (c :: rest) = some (t, rest)) : Splits (c :: cs) (t :: ts) := by
  intro rest hr
  rw [List.cons_append, tokens?_of_take? hc (ht _), h rest hr, Option.map_map]
  rfl

/-- A blank goes between two texts. -/
theorem Splits.spaced {a b : List Char} {s t : List Token} (ha : Splits a s) (hb : Splits b t) :
    Splits (a ++ ' ' :: b) (s ++ t) :=
  ha.append hb.blank (breaks_cons _ (by decide) (by decide))

/-! ### Names -/

/-- A name between quotes is read to its end: what a character of it is does not
matter. -/
theorem identifier?_doubled (name : List Char) {rest : List Char} (hr : rest.head? ≠ some '"') :
    identifier? (name.flatMap (fun c => if c = '"' then ['"', '"'] else [c]) ++ '"' :: rest) =
      some (name, rest) := by
  induction name with
  | nil =>
    have hq : ∀ after, rest = '"' :: after → False := by
      rintro after rfl
      exact hr rfl
    rw [List.flatMap_nil, List.nil_append, identifier?.eq_3 rest hq]
  | cons c name ih =>
    rw [List.flatMap_cons, List.append_assoc]
    by_cases hc : c = '"'
    · simp [hc, identifier?, ih]
    · simp [hc, identifier?, ih]

/-- A quoted name is one token, in front of any text that starts with no quote. -/
theorem take?_quotedName (name : String) {rest : List Char} (hr : rest.head? ≠ some '"') :
    take? (quotedName name ++ rest) = some (.name name, rest) := by
  simp [quotedName, take?, identifier?_doubled name.toList hr]

theorem splits_name (name : String) : Splits (quotedName name) [.name name] := by
  intro rest hr
  exact tokens?_of_take? (by decide) (take?_quotedName name hr.head?_ne)

/-! ### Words and numbers -/

/-- The characters of a word: no digit comes first. -/
def isWord : List Char → Bool
  | [] => false
  | c :: cs => !c.isDigit && (c :: cs).all isWordChar

theorem splits_word {word : String} (h : isWord word.toList = true) :
    Splits word.toList [.word word] := by
  intro rest hr
  cases hw : word.toList with
  | nil => simp [hw, isWord] at h
  | cons c cs =>
    simp only [hw, isWord, Bool.and_eq_true, Bool.not_eq_true', List.all_eq_true] at h
    obtain ⟨hd, hcs⟩ := h
    have hc : isWordChar c = true := hcs c (by simp)
    have ne {d : Char} (h : isWordChar d = false) : c ≠ d := by
      rintro rfl
      simp [h] at hc
    obtain ⟨htake, hdrop⟩ := takeWhile_append_of_breaks (fun _ h => h) hcs hr
    have ht : take? (c :: (cs ++ rest)) = some (.word word, rest) := by
      rw [List.cons_append] at htake hdrop
      rw [take?, if_neg (ne (by decide)), if_neg (ne (by decide)), hd, hc, htake, hdrop, ← hw,
        String.ofList_toList]
      rfl
    rw [List.cons_append, tokens?_of_take? (ne (by decide)) ht]
    rfl

/-- Words with a blank behind each of them, in front of a text. -/
theorem Splits.after_words {cs : List Char} {ts : List Token} (h : Splits cs ts)
    (words : List String) (hwords : words.all (isWord ·.toList) = true) :
    Splits (words.flatMap (·.toList ++ [' ']) ++ cs) (words.map .word ++ ts) := by
  induction words with
  | nil => exact h
  | cons word words ih =>
    rw [List.all_cons, Bool.and_eq_true] at hwords
    have hfirst := (splits_word hwords.1).spaced (ih hwords.2)
    simpa using hfirst

theorem digits_toDigits (n : Nat) {rest : List Char} (hr : Breaks rest) :
    digits (Nat.toDigits 10 n ++ rest) = (n, rest) := by
  have hd : ∀ c ∈ Nat.toDigits 10 n, c.isDigit = true := fun c hc =>
    Nat.isDigit_of_mem_toDigits (by decide) (by decide) hc
  obtain ⟨htake, hdrop⟩ :=
    takeWhile_append_of_breaks (fun _ h => isWordChar_of_isDigit h) hd hr
  rw [digits, htake, hdrop, Nat.ofDigitChars_toDigits (by decide) (by decide)]

theorem splits_number (n : Nat) : Splits (Nat.toDigits 10 n) [.number n] := by
  intro rest hr
  have hn := digits_toDigits n hr
  cases h : Nat.toDigits 10 n with
  | nil => exact absurd h (by simp)
  | cons c cs =>
    have hd : c.isDigit = true :=
      Nat.isDigit_of_mem_toDigits (b := 10) (n := n) (by decide) (by decide) (by simp [h])
    have ne {d : Char} (h : d.isDigit = false) : c ≠ d := by
      rintro rfl
      simp [h] at hd
    have ht : take? (c :: (cs ++ rest)) = some (.number n, rest) := by
      rw [h, List.cons_append] at hn
      rw [take?, if_neg (ne (by decide)), if_neg (ne (by decide)), if_pos hd, hn]
    rw [List.cons_append, tokens?_of_take? (ne (by decide)) ht]
    rfl

theorem splits_place (n : Nat) : Splits (placeText n) [.place n] := by
  intro rest hr
  have ht : take? ('$' :: (Nat.toDigits 10 n ++ rest)) = some (.place n, rest) := by
    simp [take?, digits_toDigits n hr]
  rw [placeText, List.cons_append, tokens?_of_take? (by decide) ht]
  rfl

/-! ### Lists -/

/-- Lists of tokens with commas between. -/
def commaTokens : List (List Token) → List Token
  | [] => []
  | [ts] => ts
  | ts :: rest => ts ++ .mark ',' :: commaTokens rest

theorem Splits.commaSeparated {α : Type} {text : α → List Char} {ts : α → List Token}
    (h : ∀ a, Splits (text a) (ts a)) :
    ∀ as : List α, Splits (commaSeparated (as.map text)) (commaTokens (as.map ts))
  | [] => Splits.nil
  | [a] => h a
  | a :: b :: as =>
    (h a).append ((Splits.commaSeparated h (b :: as)).blank.cons (by decide) fun _ => rfl)
      (breaks_cons _ (by decide) (by decide))

/-- Lists of tokens in parentheses, with commas between. -/
def listTokens (tss : List (List Token)) : List Token :=
  .mark '(' :: (commaTokens tss ++ [.mark ')'])

theorem splits_close : Splits [')'] [.mark ')'] :=
  Splits.nil.cons (by decide) fun _ => rfl

theorem Splits.parenthesized {α : Type} {text : α → List Char} {ts : α → List Token}
    (h : ∀ a, Splits (text a) (ts a)) (as : List α) :
    Splits (parenthesized (as.map text)) (listTokens (as.map ts)) :=
  ((Splits.commaSeparated h as).append splits_close (breaks_cons _ (by decide) (by decide))).cons
    (by decide) fun _ => rfl

end PowerTelemetry.Sql
