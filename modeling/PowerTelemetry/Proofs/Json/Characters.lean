import PowerTelemetry.Json.Reader
import PowerTelemetry.Proofs.Text.Hex
/-!
# The characters of a JSON text

A JSON text is made of plain characters: blanks, and characters that are no control
characters.  Inside of strings a control character has to be escaped, and outside
of them none but the blanks has a meaning.

`Leaves` says that a reader took only plain characters.  There is one lemma for each
reader, from digits and strings up to values (`takesPlain_readValue?`), and
`isPlain_of_parse?` says it of whole texts.
-/

namespace PowerTelemetry.Json

/-- A character that may stand in a JSON text: a blank, or one that is no control
character. -/
def IsPlain (c : Char) : Prop :=
  isBlank c = true ∨ 32 ≤ c.toNat

instance (c : Char) : Decidable (IsPlain c) :=
  inferInstanceAs (Decidable (_ ∨ _))

/-- `rest` is what is left of a text behind plain characters. -/
inductive Leaves : List Char → List Char → Prop where
  | refl (cs : List Char) : Leaves cs cs
  | cons {c : Char} {cs rest : List Char} (plain : IsPlain c) (later : Leaves cs rest) :
      Leaves (c :: cs) rest

variable {cs rest : List Char}

namespace Leaves

theorem trans {between : List Char} (h : Leaves cs between) (hlater : Leaves between rest) :
    Leaves cs rest := by
  induction h with
  | refl => exact hlater
  | cons plain _ ih => exact .cons plain (ih hlater)

/-- If what is left is plain, all of it was. -/
theorem isPlain (h : Leaves cs rest) (hrest : ∀ c ∈ rest, IsPlain c) : ∀ c ∈ cs, IsPlain c := by
  induction h with
  | refl => exact hrest
  | cons plain _ ih =>
    intro c hc
    rcases List.mem_cons.mp hc with rfl | hc
    · exact plain
    · exact ih hrest c hc

theorem dropWhile {p : Char → Bool} (hp : ∀ c, p c = true → IsPlain c) (cs : List Char) :
    Leaves cs (cs.dropWhile p) := by
  induction cs with
  | nil => exact .refl []
  | cons c cs ih =>
    rw [List.dropWhile_cons]
    split
    · rename_i hc
      exact .cons (hp c hc) ih
    · exact .refl (c :: cs)

end Leaves

theorem leaves_skipBlanks (cs : List Char) : Leaves cs (skipBlanks cs) :=
  .dropWhile (fun _ hc => .inl hc) cs

theorem leaves_after? {word : List Char} (hword : ∀ c ∈ word, IsPlain c)
    (h : after? word cs = some rest) : Leaves cs rest := by
  simp only [after?, Option.ite_none_right_eq_some, Option.some.injEq,
    List.isPrefixOf_iff_prefix] at h
  obtain ⟨⟨tail, rfl⟩, rfl⟩ := h
  rw [List.drop_left]
  induction word with
  | nil => exact .refl tail
  | cons c word ih =>
    exact .cons (hword c List.mem_cons_self)
      (ih fun d hd => hword d (List.mem_cons_of_mem c hd))

/-! ## Numbers -/

theorem isPlain_of_isDigit {c : Char} (h : c.isDigit = true) : IsPlain c := by
  have hc : 48 ≤ c.toNat ∧ c.toNat ≤ 57 := by
    simpa [Char.isDigit, UInt32.le_iff_toNat_le] using h
  exact .inr (by omega)

theorem leaves_digits (cs : List Char) : Leaves cs (cs.dropWhile Char.isDigit) :=
  .dropWhile (fun _ hc => isPlain_of_isDigit hc) cs

theorem leaves_takeSignificand (significand count : Nat) (cs : List Char) :
    Leaves cs (takeSignificand significand count cs).2.2 := by
  induction cs generalizing significand count with
  | nil => exact .refl []
  | cons c cs ih =>
    simp only [takeSignificand]
    split
    · rename_i hc
      split
      · exact .cons (isPlain_of_isDigit hc) (ih _ _)
      · exact .refl (c :: cs)
    · exact .refl (c :: cs)

variable {negative : Bool} {significand dropped : Nat} {exponent : Int} {n : JsonNumber}

theorem leaves_readExponent?
    (h : readExponent? negative significand exponent cs = some (n, rest)) : Leaves cs rest := by
  simp only [readExponent?] at h
  split at h
  · rename_i c after
    split at h
    · rename_i hc
      have hletter : IsPlain c := by
        rcases hc with rfl | rfl <;> decide
      apply Leaves.cons hletter
      -- The sign is one character more.
      split at h <;>
        simp only [Option.ite_none_left_eq_some, Option.map_eq_some_iff, Prod.mk.injEq] at h <;>
        obtain ⟨_, _, _, _, rfl⟩ := h
      · exact .cons (by decide) (leaves_digits _)
      · exact .cons (by decide) (leaves_digits _)
      · exact leaves_digits _
    · simp only [Option.map_eq_some_iff, Prod.mk.injEq] at h
      obtain ⟨_, _, _, rfl⟩ := h
      exact .refl _
  · simp only [Option.map_eq_some_iff, Prod.mk.injEq] at h
    obtain ⟨_, _, _, rfl⟩ := h
    exact .refl []

theorem leaves_readFraction?
    (h : readFraction? negative significand dropped cs = some (n, rest)) : Leaves cs rest := by
  simp only [readFraction?] at h
  split at h
  · split at h
    · cases h
    · exact .cons (by decide) ((leaves_digits _).trans (leaves_readExponent? h))
  · split at h
    · exact leaves_readExponent? h
    · obtain ⟨_, rfl⟩ := Prod.mk.inj (Option.some.inj h)
      exact .refl _
  · split at h
    · exact leaves_readExponent? h
    · obtain ⟨_, rfl⟩ := Prod.mk.inj (Option.some.inj h)
      exact .refl []

theorem leaves_readUnsigned? (h : readUnsigned? negative cs = some (n, rest)) :
    Leaves cs rest := by
  simp only [readUnsigned?] at h
  split at h
  · apply Leaves.cons (by decide)
    split at h
    · split at h
      · cases h
      · exact leaves_readFraction? h
    · exact leaves_readFraction? h
  · split at h
    · exact (leaves_takeSignificand 0 0 _).trans ((leaves_digits _).trans (leaves_readFraction? h))
    · cases h
  · cases h

/-! ## Strings -/

theorem isPlain_of_hexNumber? {digits : List Char} {k : Nat}
    (h : Text.hexNumber? digits = some k) : ∀ c ∈ digits, IsPlain c := by
  intro c hc
  obtain ⟨v, hv⟩ := Text.exists_hexDigit?_of_hexNumber? h c hc
  have hcode : 48 ≤ c.toNat ∧ _ ∨ 97 ≤ c.toNat ∧ _ ∨ 65 ≤ c.toNat ∧ _ := Text.hexDigit?_cases hv
  exact .inr (by omega)

/-- The digits of an escape are plain. -/
theorem Leaves.hexDigits {a b c d : Char} {k : Nat} (h : Text.hexNumber? [a, b, c, d] = some k)
    (later : Leaves cs rest) : Leaves (a :: b :: c :: d :: cs) rest := by
  have hplain := isPlain_of_hexNumber? h
  simp only [List.mem_cons, forall_eq_or_imp] at hplain
  obtain ⟨ha, hb, hc, hd, -⟩ := hplain
  exact .cons ha (.cons hb (.cons hc (.cons hd later)))

theorem isPlain_of_escape? {c e : Char} (h : escape? c = some e) : IsPlain c := by
  have hc : c = '"' ∨ c = '\\' ∨ c = '/' ∨ c = 'b' ∨ c = 'f' ∨ c = 'n' ∨ c = 'r' ∨ c = 't' := by
    simp only [escape?] at h
    grind
  rcases hc with rfl | rfl | rfl | rfl | rfl | rfl | rfl | rfl <;> decide

theorem leaves_readChars? {text : List Char} (h : readChars? cs = some (text, rest)) :
    Leaves cs rest := by
  fun_induction readChars? cs generalizing text with
  | case1 => cases h
  | case2 after =>
    obtain ⟨_, rfl⟩ := Prod.mk.inj (Option.some.inj h)
    exact .cons (by decide) (.refl _)
  | case3 a b c d after hpair hsingle =>
    simp only [Option.bind_eq_bind, Option.bind_eq_some_iff] at h
    obtain ⟨unit, hunit, h⟩ := h
    apply Leaves.cons (by decide)
    apply Leaves.cons (by decide)
    apply Leaves.hexDigits hunit
    split at h
    · cases h
    · split at h
      · split at h
        · simp only [Option.bind_eq_some_iff] at h
          obtain ⟨low, hlow, h⟩ := h
          apply Leaves.cons (by decide)
          apply Leaves.cons (by decide)
          apply Leaves.hexDigits hlow
          split at h
          · simp only [Option.bind_eq_some_iff, Option.some.injEq, Prod.mk.injEq] at h
            obtain ⟨r, hread, -, rfl⟩ := h
            exact hpair hread
          · cases h
        · cases h
      · simp only [Option.bind_eq_some_iff, Option.some.injEq, Prod.mk.injEq] at h
        obtain ⟨r, hread, -, rfl⟩ := h
        exact hsingle hread
  | case4 c after _ ih =>
    simp only [Option.bind_eq_bind, Option.bind_eq_some_iff, Option.some.injEq,
      Prod.mk.injEq] at h
    obtain ⟨e, hescape, r, hread, -, rfl⟩ := h
    exact .cons (by decide) (.cons (isPlain_of_escape? hescape) (ih hread))
  | case5 => cases h
  | case6 c after _ _ _ hprinted ih =>
    simp only [Option.bind_eq_bind, Option.bind_eq_some_iff, Option.some.injEq,
      Prod.mk.injEq] at h
    obtain ⟨r, hread, -, rfl⟩ := h
    exact .cons (.inr (by omega)) (ih hread)

/-! ## Values -/

/-- A reader that takes only plain characters. -/
def TakesPlain {α : Type} (read : List Char → Option (α × List Char)) : Prop :=
  ∀ cs a rest, read cs = some (a, rest) → Leaves cs rest

/-- What is made of the result does not matter. -/
theorem TakesPlain.leaves_of_map {α β : Type} {read : List Char → Option (α × List Char)}
    (hread : TakesPlain read) {f : α → β} {b : β}
    (h : (read cs).map (fun r => (f r.1, r.2)) = some (b, rest)) : Leaves cs rest := by
  obtain ⟨r, hr, heq⟩ := Option.map_eq_some_iff.mp h
  obtain ⟨_, rfl⟩ := Prod.mk.inj heq
  exact hread cs r.1 r.2 hr

theorem leaves_of_word {word : List Char} {j k : Json} (hword : word.all (IsPlain ·) = true)
    (h : (after? word cs).map (j, ·) = some (k, rest)) : Leaves cs rest := by
  obtain ⟨after, hafter, heq⟩ := Option.map_eq_some_iff.mp h
  obtain ⟨_, rfl⟩ := Prod.mk.inj heq
  have hplain : ∀ c ∈ word, IsPlain c := by simpa using hword
  exact leaves_after? hplain hafter

section Values

variable {fuel : Nat}

theorem takesPlain_readValue? (hitems : ∀ depth, TakesPlain (readItems? fuel depth))
    (hmembers : ∀ depth, TakesPlain (readMembers? fuel depth)) (depth : Nat) :
    TakesPlain (readValue? (fuel + 1) depth) := by
  intro cs j rest h
  rw [readValue?] at h
  apply (leaves_skipBlanks cs).trans
  generalize skipBlanks cs = text at h
  have hnumber : ∀ negative, TakesPlain (readUnsigned? negative) :=
    fun _ _ _ _ hread => leaves_readUnsigned? hread
  split at h
  · exact .cons (by decide) (leaves_of_word (by decide) h)
  · exact .cons (by decide) (leaves_of_word (by decide) h)
  · exact .cons (by decide) (leaves_of_word (by decide) h)
  · have hstring : TakesPlain readChars? := fun _ _ _ hread => leaves_readChars? hread
    exact .cons (by decide) (hstring.leaves_of_map (f := fun cs => string (String.ofList cs)) h)
  · apply Leaves.cons (by decide)
    split at h
    · cases h
    · apply (leaves_skipBlanks _).trans
      split at h
      · rename_i hend
        obtain ⟨_, rfl⟩ := Prod.mk.inj (Option.some.inj h)
        rw [hend]
        exact .cons (by decide) (.refl _)
      · exact (hitems _).leaves_of_map h
  · apply Leaves.cons (by decide)
    split at h
    · cases h
    · apply (leaves_skipBlanks _).trans
      split at h
      · rename_i hend
        obtain ⟨_, rfl⟩ := Prod.mk.inj (Option.some.inj h)
        rw [hend]
        exact .cons (by decide) (.refl _)
      · exact (hmembers _).leaves_of_map h
  · exact .cons (by decide) ((hnumber true).leaves_of_map h)
  · exact (hnumber false).leaves_of_map h

theorem takesPlain_readItems? (hvalue : ∀ depth, TakesPlain (readValue? fuel depth))
    (hitems : ∀ depth, TakesPlain (readItems? fuel depth)) (depth : Nat) :
    TakesPlain (readItems? (fuel + 1) depth) := by
  intro cs items rest h
  rw [readItems?] at h
  simp only [Option.bind_eq_bind, Option.bind_eq_some_iff] at h
  obtain ⟨⟨item, after⟩, hitem, h⟩ := h
  apply (hvalue depth cs item after hitem).trans
  apply (leaves_skipBlanks after).trans
  dsimp only at h
  split at h
  · rename_i hcomma
    simp only [Option.bind_eq_some_iff, Option.some.injEq, Prod.mk.injEq] at h
    obtain ⟨r, hread, -, rfl⟩ := h
    rw [hcomma]
    exact .cons (by decide) (hitems depth _ r.1 r.2 hread)
  · rename_i hend
    obtain ⟨_, rfl⟩ := Prod.mk.inj (Option.some.inj h)
    rw [hend]
    exact .cons (by decide) (.refl _)
  · cases h

theorem takesPlain_readMembers? (hvalue : ∀ depth, TakesPlain (readValue? fuel depth))
    (hmembers : ∀ depth, TakesPlain (readMembers? fuel depth)) (depth : Nat) :
    TakesPlain (readMembers? (fuel + 1) depth) := by
  intro cs members rest h
  rw [readMembers?] at h
  apply (leaves_skipBlanks cs).trans
  split at h
  · rename_i hquote
    simp only [Option.bind_eq_bind, Option.bind_eq_some_iff] at h
    obtain ⟨⟨name, afterName⟩, hname, h⟩ := h
    rw [hquote]
    apply Leaves.cons (by decide)
    apply (leaves_readChars? hname).trans
    apply (leaves_skipBlanks afterName).trans
    dsimp only at h
    split at h
    · rename_i hcolon
      simp only [Option.bind_eq_some_iff] at h
      obtain ⟨⟨value, afterValue⟩, hread, h⟩ := h
      rw [hcolon]
      apply Leaves.cons (by decide)
      apply (hvalue depth _ value afterValue hread).trans
      apply (leaves_skipBlanks afterValue).trans
      dsimp only at h
      split at h
      · rename_i hcomma
        simp only [Option.bind_eq_some_iff, Option.some.injEq, Prod.mk.injEq] at h
        obtain ⟨r, hlater, -, rfl⟩ := h
        rw [hcomma]
        exact .cons (by decide) (hmembers depth _ r.1 r.2 hlater)
      · rename_i hend
        obtain ⟨_, rfl⟩ := Prod.mk.inj (Option.some.inj h)
        rw [hend]
        exact .cons (by decide) (.refl _)
      · cases h
    · cases h
  · cases h

end Values

/-- The readers of values, items and members, by induction on the steps that they
may take. -/
theorem takesPlain_all (fuel : Nat) :
    (∀ depth, TakesPlain (readValue? fuel depth)) ∧
      (∀ depth, TakesPlain (readItems? fuel depth)) ∧
      ∀ depth, TakesPlain (readMembers? fuel depth) := by
  induction fuel with
  | zero =>
    refine ⟨?_, ?_, ?_⟩ <;>
      · intro depth cs a rest h
        cases h
  | succ fuel ih =>
    obtain ⟨hvalue, hitems, hmembers⟩ := ih
    exact ⟨takesPlain_readValue? hitems hmembers, takesPlain_readItems? hvalue hitems,
      takesPlain_readMembers? hvalue hmembers⟩

/-- A text that spells a JSON value has only plain characters. -/
theorem isPlain_of_parse? {s : String} {j : Json} (h : parse? s = some j) :
    ∀ c ∈ s.toList, IsPlain c := by
  obtain ⟨value, hread, -⟩ := Option.map_eq_some_iff.mp h
  simp only [read?, readChars, readWithin] at hread
  split at hread
  · rename_i k after hvalue
    split at hread
    · rename_i hend
      have hleft : Leaves after [] := by
        rw [← List.isEmpty_iff.mp hend]
        exact leaves_skipBlanks after
      have htaken := (takesPlain_all _).1 _ _ _ _ hvalue
      exact (htaken.trans hleft).isPlain (by simp)
    · cases hread
  · cases hread

end PowerTelemetry.Json
