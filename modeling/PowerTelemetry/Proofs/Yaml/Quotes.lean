import Mathlib.Data.List.Basic
import PowerTelemetry.Proofs.Yaml.Scalars
/-!
# Texts between double quotes

`ReadsAs` says that a text is read as another one wherever it stands between double quotes.  That
is so if each character of the one spells one of the other, as itself or by a backslash and a letter
(`readsAs_of_spells`).  So a text without quotes, backslashes and breaks is read as itself
(`readsAs_self`), and any text that YAML allows is read from the text with escapes
(`readsAs_escaped`).
-/

namespace PowerTelemetry.Yaml

/-- Between double quotes a text is read as another, whatever is in front of the quotes and
behind them. -/
structure ReadsAs (written text : List Char) : Prop where
  allowed : written.all isAllowed = true
  quoted : ∀ (c : Cursor) (after : List Char), c.rest = '"' :: (written ++ '"' :: after) →
    quoted? true c = some (text, c.advance (written.length + 2))

/-- A character that stands for itself between double quotes. -/
def isVerbatim (ch : Char) : Bool :=
  isAllowed ch && !isBreak ch && ch != '"' && ch != '\\'

theorem isVerbatim_cases {ch : Char} (h : isVerbatim ch = true) :
    isAllowed ch = true ∧ isBreak ch = false ∧ ch ≠ '"' ∧ ch ≠ '\\' := by
  simpa [isVerbatim, and_assoc] using h

/-- A character is spelled by itself or, unless it is a blank, by a letter after a backslash. -/
inductive Spells (ch : Char) : List Char → Prop
  | verbatim (h : isVerbatim ch = true) : Spells ch [ch]
  | escaped {letter : Char} (hallowed : isAllowed letter = true) (h : escaped? letter = some ch)
      (hblank : isBlank ch = false) : Spells ch ['\\', letter]

theorem Spells.all_isAllowed {ch : Char} {written : List Char} (h : Spells ch written) :
    written.all isAllowed = true := by
  cases h with
  | verbatim h => simpa using (isVerbatim_cases h).1
  | escaped hallowed _ _ =>
    have hslash : isAllowed '\\' = true := by decide
    simp [hslash, hallowed]

/-- Blanks are spelled by themselves. -/
theorem Spells.eq_singleton {ch : Char} {written : List Char} (h : Spells ch written)
    (hblank : isBlank ch = true) : written = [ch] := by
  cases h with
  | verbatim _ => rfl
  | escaped _ _ hnot => cases hblank.symm.trans hnot

theorem Cursor.advance_advance (c : Cursor) (i j : Nat) :
    (c.advance i).advance j = c.advance (i + j) := by
  simp [Cursor.advance, Nat.add_assoc]

@[simp] theorem Cursor.advance_zero (c : Cursor) : c.advance 0 = c := rfl

variable {c : Cursor} {n : Nat} {after : List Char}

variable {spell : Char → List Char}

/-- A word goes up to a blank or the quote. -/
theorem doubleQuotedWord?_spelled {word : List Char} (hrest : c.rest = word.flatMap spell ++ after)
    (hn : (word.flatMap spell).length ≤ n)
    (hword : ∀ ch ∈ word, Spells ch (spell ch) ∧ isBlank ch = false)
    (hafter : ∀ ch ∈ after.head?, ch = '"' ∨ isBlank ch = true) :
    doubleQuotedWord? n c = some ⟨word, c.advance (word.flatMap spell).length, false⟩ := by
  induction word generalizing c n with
  | nil =>
    cases n with
    | zero => rfl
    | succ n =>
      rw [doubleQuotedWord?_succ, Cursor.head?, hrest, List.flatMap_nil, List.nil_append]
      cases hhead : after.head? with
      | none => rfl
      | some ch =>
        have hstop : ch = '"' ∨ isBlank ch = true ∨ isBreak ch = true :=
          (hafter ch hhead).imp_right .inl
        simp [hstop]
  | cons ch word ih =>
    obtain ⟨hspells, hblank⟩ := hword ch List.mem_cons_self
    have hword : ∀ ch ∈ word, Spells ch (spell ch) ∧ isBlank ch = false :=
      fun x hx => hword x (List.mem_cons_of_mem _ hx)
    rw [List.flatMap_cons] at hrest hn ⊢
    generalize spell ch = written at hspells hrest hn ⊢
    cases hspells with
    | verbatim hverbatim =>
      obtain ⟨-, hbreak, hquote, hslash⟩ := isVerbatim_cases hverbatim
      obtain ⟨n, rfl⟩ : ∃ k, n = k + 1 := ⟨n - 1, by simp at hn; omega⟩
      have hn' : (word.flatMap spell).length ≤ n := by
        simp only [List.length_append, List.length_singleton] at hn
        omega
      have hnext : doubleQuotedWord? n (c.advance 1) = _ := ih (by simp [hrest]) hn' hword
      rw [Cursor.advance_advance, Nat.add_comm] at hnext
      simp [doubleQuotedWord?_succ, quotedChar?, Cursor.head?, hrest, hslash, hquote, hblank,
        hbreak, hnext]
    | @escaped letter _ hletter _ =>
      obtain ⟨n, rfl⟩ : ∃ k, n = k + 1 := ⟨n - 1, by simp at hn; omega⟩
      have hn' : (word.flatMap spell).length ≤ n := by
        simp only [List.length_append, List.length_cons, List.length_nil] at hn
        omega
      have hnext : doubleQuotedWord? n (c.advance 2) = _ := ih (by simp [hrest]) hn' hword
      rw [Cursor.advance_advance, Nat.add_comm] at hnext
      have hbreak := not_isBreak_of_escaped? hletter
      have hslash : isBlank '\\' = false ∧ isBreak '\\' = false := by decide
      simp [doubleQuotedWord?_succ, quotedChar?, escapedChar?, Cursor.head?, hrest, hslash, hbreak,
        hletter, hnext]

/-- A gap without breaks goes up to the next word or the quote. -/
theorem Gap.read?_blanks {tabFrom : Int} {front blanks : List Char} {ch : Char}
    (hrest : c.rest = blanks ++ ch :: after) (hn : blanks.length ≤ n)
    (hblanks : ∀ b ∈ blanks, isBlank b = true) (hblank : isBlank ch = false)
    (hbreak : isBreak ch = false) :
    Gap.read? tabFrom n (.blanks front) c =
      some (.blanks (front ++ blanks), c.advance blanks.length) := by
  induction blanks generalizing c n front with
  | nil =>
    cases n with
    | zero => simp [Gap.read?]
    | succ n => simp [Gap.read?, Cursor.head?, hrest, hblank, hbreak]
  | cons b blanks ih =>
    obtain ⟨n, rfl⟩ : ∃ k, n = k + 1 := ⟨n - 1, by simp at hn; omega⟩
    have hnext : Gap.read? tabFrom n (.blanks (front ++ [b])) (c.advance 1) =
        some (.blanks (front ++ [b] ++ blanks), (c.advance 1).advance blanks.length) :=
      ih (by simp [hrest]) (by simpa using hn) fun x hx => hblanks x (List.mem_cons_of_mem _ hx)
    rw [Cursor.advance_advance, Nat.add_comm] at hnext
    have hb := hblanks b List.mem_cons_self
    simp [Gap.read?, Cursor.head?, hrest, hb, hnext]

/-- The front of a text up to the first character that fulfils a condition. -/
theorem exists_front (p : Char → Bool) (l : List Char) :
    ∃ front back, l = front ++ back ∧ (∀ ch ∈ front, p ch = false) ∧
      ∀ ch ∈ back.head?, p ch = true := by
  refine ⟨l.takeWhile (!p ·), l.dropWhile (!p ·), List.takeWhile_append_dropWhile.symm,
    fun ch hch => by simpa using List.mem_takeWhile_imp hch, fun ch hch => ?_⟩
  have := List.head?_dropWhile_not (!p ·) l
  rw [hch] at this
  simpa using this

/-- A text is a word, the blanks behind it, and what follows these. -/
theorem exists_word_blanks (l : List Char) :
    ∃ word blanks back, l = word ++ (blanks ++ back) ∧ (∀ ch ∈ word, isBlank ch = false) ∧
      (∀ ch ∈ blanks, isBlank ch = true) ∧ (∀ ch ∈ back.head?, isBlank ch = false) ∧
      (blanks = [] → back = []) := by
  obtain ⟨word, more, rfl, hword, hmore⟩ := exists_front isBlank l
  obtain ⟨blanks, back, rfl, hblanks, hback⟩ := exists_front (!isBlank ·) more
  refine ⟨word, blanks, back, rfl, hword, by simpa using hblanks, by simpa using hback, ?_⟩
  rintro rfl
  cases back with
  | nil => rfl
  | cons b back =>
    have hblank : isBlank b = true := hmore b rfl
    simpa [hblank] using hback b rfl

/-- The blanks in front of spelled characters are a gap. -/
theorem gap?_spelled {word blanks back : List Char}
    (hrest : c.rest = blanks ++ (back.flatMap spell ++ '"' :: after))
    (hblanks : ∀ b ∈ blanks, isBlank b = true) (hhead : ∀ ch ∈ back.head?, isBlank ch = false)
    (hback : ∀ ch ∈ back, Spells ch (spell ch)) :
    QuotedWord.gap? ⟨word, c, false⟩ = some (.blanks blanks, c.advance blanks.length) := by
  obtain ⟨ch, after', hnext, hblank, hbreak⟩ : ∃ ch after',
      back.flatMap spell ++ '"' :: after = ch :: after' ∧
        isBlank ch = false ∧ isBreak ch = false := by
    cases back with
    | nil => exact ⟨'"', after, rfl, rfl, rfl⟩
    | cons d back =>
      have hspells := hback d List.mem_cons_self
      rw [List.flatMap_cons]
      generalize spell d = written at hspells ⊢
      cases hspells with
      | verbatim h =>
        exact ⟨d, _, rfl, hhead d rfl, (isVerbatim_cases h).2.1⟩
      | escaped _ _ _ => exact ⟨'\\', _, rfl, rfl, rfl⟩
  rw [hnext] at hrest
  exact Gap.read?_blanks hrest (by simp [hrest]) hblanks hblank hbreak

/-- The last word goes up to the quote. -/
theorem quotedPart?_closed {word : List Char} (hrest : c.rest = word.flatMap spell ++ '"' :: after)
    (hword : ∀ ch ∈ word, Spells ch (spell ch) ∧ isBlank ch = false) :
    quotedPart? true c = some (true, word, c.advance ((word.flatMap spell).length + 1)) := by
  have hread : quotedWord? true c = some ⟨word, c.advance (word.flatMap spell).length, false⟩ :=
    doubleQuotedWord?_spelled hrest (by simp [hrest]) hword (by simp)
  have hclosed : (c.advance (word.flatMap spell).length).startsWith (quoteMark true) = true := by
    simp [Cursor.startsWith, Cursor.head?, hrest, quoteMark]
  simp only [quotedPart?, hread, Option.bind_eq_bind, Option.bind_some, if_pos hclosed,
    Cursor.advance_advance]

/-- Another word goes up to the blanks behind it. -/
theorem quotedPart?_open {word blanks back : List Char} (hnil : blanks ≠ [])
    (hrest : c.rest = word.flatMap spell ++ (blanks ++ (back.flatMap spell ++ '"' :: after)))
    (hword : ∀ ch ∈ word, Spells ch (spell ch) ∧ isBlank ch = false)
    (hblanks : ∀ b ∈ blanks, isBlank b = true) (hhead : ∀ ch ∈ back.head?, isBlank ch = false)
    (hback : ∀ ch ∈ back, Spells ch (spell ch)) :
    quotedPart? true c =
      some (false, word ++ blanks, c.advance ((word.flatMap spell).length + blanks.length)) := by
  have hafter : (c.advance (word.flatMap spell).length).rest =
      blanks ++ (back.flatMap spell ++ '"' :: after) := by
    simp [hrest]
  obtain ⟨b, blanks, rfl⟩ := List.exists_cons_of_ne_nil hnil
  have hb : isBlank b = true := hblanks b List.mem_cons_self
  have hread : quotedWord? true c = some ⟨word, c.advance (word.flatMap spell).length, false⟩ :=
    doubleQuotedWord?_spelled hrest (by simp [hrest]) hword (by simp [hb])
  have hopen : ¬(c.advance (word.flatMap spell).length).startsWith (quoteMark true) = true := by
    have hquote : b ≠ '"' := by
      rintro rfl
      cases hb
    rw [Cursor.startsWith, Cursor.head?, hafter]
    simpa [quoteMark] using hquote
  simp only [quotedPart?, hread, Option.bind_eq_bind, Option.bind_some, if_neg hopen,
    gap?_spelled hafter hblanks hhead hback, Gap.text, Cursor.advance_advance]

/-- Spelled characters are read up to the quote. -/
theorem quotedRest?_spelled {text front : List Char} (hcolumn : 0 < c.column)
    (hrest : c.rest = text.flatMap spell ++ '"' :: after) (hn : (text.flatMap spell).length < n)
    (htext : ∀ ch ∈ text, Spells ch (spell ch)) :
    quotedRest? true n front c =
      some (front ++ text, c.advance ((text.flatMap spell).length + 1)) := by
  induction n generalizing front text c with
  | zero => omega
  | succ n ih =>
    have hmarker : (c.isDocumentMarker || c.rest.isEmpty) = false := by
      simp [Cursor.isDocumentMarker, Cursor.isMarker, hrest, Nat.ne_of_gt hcolumn]
    rw [quotedRest?_succ, hmarker, if_neg Bool.false_ne_true]
    obtain ⟨word, blanks, back, rfl, hword, hblanks, hhead, hlast⟩ := exists_word_blanks text
    simp only [List.forall_mem_append] at htext
    obtain ⟨hspells, hspace, hback⟩ := htext
    have hword : ∀ ch ∈ word, Spells ch (spell ch) ∧ isBlank ch = false :=
      fun ch hch => ⟨hspells ch hch, hword ch hch⟩
    by_cases hnil : blanks = []
    · obtain rfl := hnil
      obtain rfl := hlast rfl
      simp only [List.append_nil] at hrest ⊢
      rw [quotedPart?_closed hrest hword]
      rfl
    · have hsame : blanks.flatMap spell = blanks := by
        rw [List.flatMap_congr fun b hb => (hspace b hb).eq_singleton (hblanks b hb)]
        exact List.flatMap_singleton' blanks
      simp only [List.flatMap_append, hsame, List.append_assoc, List.length_append] at hrest hn ⊢
      rw [quotedPart?_open hnil hrest hword hblanks hhead hback]
      have hnext : (c.advance ((word.flatMap spell).length + blanks.length)).rest =
          back.flatMap spell ++ '"' :: after := by
        rw [Cursor.rest_advance, hrest, ← List.drop_drop, List.drop_left, List.drop_left]
      have hpos := List.length_pos_iff.mpr hnil
      refine (ih (by simp; omega) hnext (by omega) hback).trans ?_
      simp [Cursor.advance_advance, Nat.add_assoc]

theorem readsAs_of_spells {text : List Char} (h : ∀ ch ∈ text, Spells ch (spell ch)) :
    ReadsAs (text.flatMap spell) text where
  allowed := by
    rw [List.all_flatMap, List.all_eq_true]
    exact fun ch hch => (h ch hch).all_isAllowed
  quoted c after hrest := by
    have hnext : (c.advance 1).rest = text.flatMap spell ++ '"' :: after := by simp [hrest]
    rw [quoted?, quotedRest?_spelled (by simp) hnext (by simp [hrest]; omega) h,
      Cursor.advance_advance, Nat.add_comm 1]
    rfl

/-- A text without quotes, backslashes and breaks is read as itself. -/
theorem readsAs_self {text : List Char} (h : text.all isVerbatim = true) : ReadsAs text text := by
  have hreads : ReadsAs (text.flatMap fun ch => [ch]) text :=
    readsAs_of_spells fun ch hch => .verbatim (List.all_eq_true.mp h ch hch)
  rwa [List.flatMap_singleton'] at hreads

/-! ## Escapes -/

/-- The letter that stands for a character after a backslash, where one is needed. -/
def escapeLetter? : Char → Option Char
  | '"' => some '"'
  | '\\' => some '\\'
  | '\r' => some 'r'
  | '\n' => some 'n'
  | '\u0085' => some 'N'
  | '\u2028' => some 'L'
  | '\u2029' => some 'P'
  | _ => none

/-- A character with an escape, where one is needed. -/
def escape (ch : Char) : List Char :=
  match escapeLetter? ch with
  | some letter => ['\\', letter]
  | none => [ch]

theorem spells_escape {ch : Char} (h : isAllowed ch = true) : Spells ch (escape ch) := by
  rw [escape]
  cases hletter : escapeLetter? ch with
  | some letter =>
    unfold escapeLetter? at hletter
    split at hletter <;> cases hletter <;> exact .escaped (by decide) (by decide) (by decide)
  | none =>
    refine .verbatim ?_
    unfold escapeLetter? at hletter
    split at hletter
    case h_8 hquote hslash hreturn hfeed hnext hline hparagraph =>
      simp_all [isVerbatim, isBreak]
    all_goals cases hletter

/-- Any text that YAML allows is read from the text with escapes. -/
theorem readsAs_escaped {text : List Char} (h : text.all isAllowed = true) :
    ReadsAs (text.flatMap escape) text :=
  readsAs_of_spells fun ch hch => spells_escape (List.all_eq_true.mp h ch hch)

end PowerTelemetry.Yaml
