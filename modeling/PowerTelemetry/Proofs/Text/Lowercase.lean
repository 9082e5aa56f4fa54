import PowerTelemetry.Text.Lowercase
/-!
# Lower-case texts stay as they are

A text that was lowered once is its own lower-case form: no lower-case letter of the
table has a lower-case letter itself, and there is no capital sigma left that would have
to look at its neighbours.

* `CaseRun.misses` compares two runs of the table without going through their letters,
  and `misses_of_mem` says that the letters which a run maps to are in no run.
* `lowerChar_cases` says what one character becomes, `isLowered_lowerChar` that it stays
  so, and `le_of_lowerChar_ascii` that an ASCII letter but `k` comes from ASCII.
* `lowerAfter_of_isLowered` and `isLowered_of_mem_lowerAfter` take this to texts, and
  `lowercase_lowercase` is the result.
* `lowerAfter_append_before` and `lowerAfter_append` say that words do not count beyond
  their ends, so that `lowercase_underscore` lowers the parts of a text by themselves.
* `infix_lowerAfter_iff` says that a part without a sigma is looked for in the characters
  lowered one by one.
* `not_lowerAfter_lt` says that among ASCII texts the lower-case form is the last one.
-/

namespace PowerTelemetry.Text

/-! ## The table -/

namespace CaseRun

/-- The code point of the first lower-case letter. -/
def low (r : CaseRun) : Nat :=
  ((r.first : Int) + r.offset).toNat

/-- The code point of the last lower-case letter. -/
def high (r : CaseRun) : Nat :=
  ((r.last : Int) + r.offset).toNat

/-- The lower-case letters of `r` are not among the letters of `s`: they lie below or
above these, or all of them between two of these. -/
def misses (r s : CaseRun) : Bool :=
  s.last.blt r.low || r.high.blt s.first ||
    ((r.first.beq r.last || (r.step % s.step).beq 0)
      && !(r.low % s.step).beq (s.first % s.step))

/-- The lower-case letters are characters. -/
def isValid (r : CaseRun) : Prop :=
  0 ≤ r.first + r.offset ∧
    (r.last + r.offset < 0xD800 ∨ 0xDFFF < r.first + r.offset ∧ r.last + r.offset < 0x110000)

instance (r : CaseRun) : Decidable r.isValid :=
  inferInstanceAs (Decidable (_ ∧ (_ ∨ _ ∧ _)))

variable {r s : CaseRun} {n : Nat}

theorem holds_iff : r.holds n ↔ r.first ≤ n ∧ n ≤ r.last ∧ (n - r.first) % r.step = 0 :=
  decide_eq_true_iff

/-- The letters of a run leave one residue. -/
theorem mod_eq_of_holds {d : Nat} (h : r.holds n) (hd : d ∣ r.step) : n % d = r.first % d := by
  obtain ⟨hfirst, -, hstep⟩ := holds_iff.mp h
  obtain ⟨k, hk⟩ := Nat.dvd_trans hd (Nat.dvd_of_mod_eq_zero hstep)
  obtain rfl : n = r.first + d * k := by omega
  exact Nat.add_mul_mod_self_left r.first d k

/-- Their lower-case letters do so, too. -/
theorem mod_eq_low {d m : Nat} (hvalid : r.isValid) (h : r.holds n)
    (hd : r.first = r.last ∨ d ∣ r.step) (hm : (m : Int) = n + r.offset) : m % d = r.low % d := by
  obtain ⟨hfirst, hlast, hstep⟩ := holds_iff.mp h
  obtain ⟨hlow, -⟩ := hvalid
  rcases hd with hone | hd
  · rw [low, show m = (r.first + r.offset).toNat by omega]
  · obtain ⟨k, hk⟩ := Nat.dvd_trans hd (Nat.dvd_of_mod_eq_zero hstep)
    rw [low, show m = (r.first + r.offset).toNat + d * k by omega]
    exact Nat.add_mul_mod_self_left _ d k

theorem not_holds_of_misses {m : Nat} (h : r.misses s) (hvalid : r.isValid) (hn : r.holds n)
    (hm : (m : Int) = n + r.offset) : ¬s.holds m := by
  intro hs
  obtain ⟨hfirst, hlast, -⟩ := holds_iff.mp hn
  obtain ⟨hfirst', hlast', -⟩ := holds_iff.mp hs
  simp only [misses, Bool.or_eq_true, Bool.and_eq_true, Nat.blt_eq, Nat.beq_eq,
    Bool.not_eq_true', ← Bool.not_eq_true] at h
  rcases h with (hbelow | habove) | ⟨hsteps, hbetween⟩
  · rw [low] at hbelow
    omega
  · rw [high] at habove
    omega
  · apply hbetween
    rw [← mod_eq_of_holds hs (Nat.dvd_refl _)]
    exact (mod_eq_low hvalid hn (hsteps.imp_right Nat.dvd_of_mod_eq_zero) hm).symm

end CaseRun

/-- The capital letters of ASCII. -/
def asciiCapitals : CaseRun :=
  ⟨0x41, 0x5A, 1, 32⟩

/-- The one letter whose lower-case form is two characters. -/
def dottedCapital : CaseRun :=
  ⟨0x130, 0x130, 1, 0⟩

theorem asciiCapitals_mem : asciiCapitals ∈ lowerRuns :=
  List.mem_cons_self

/-- The letters that a run maps to are in no run. -/
theorem misses_of_mem {r s : CaseRun} (hr : r ∈ lowerRuns) (hs : s ∈ dottedCapital :: lowerRuns) :
    r.misses s := by
  have hall : (lowerRuns.all fun r => (dottedCapital :: lowerRuns).all r.misses) = true := by
    decide +kernel
  exact List.all_eq_true.mp (List.all_eq_true.mp hall r hr) s hs

theorem isValid_of_mem : ∀ r ∈ lowerRuns, r.isValid := by
  decide +kernel

/-- Two runs map to ASCII letters: their capitals, and the Kelvin sign. -/
theorem ascii_of_mem : ∀ r ∈ lowerRuns, r.first + r.offset < 128 →
    r.offset = 32 ∨ r.first = 0x212A ∧ r.last = 0x212A ∧ r.offset = -8383 := by
  decide +kernel

/-! ## One character -/

/-- A character that is its own lower-case form. -/
def IsLowered (c : Char) : Prop :=
  lowerChar c = c ∧ c ≠ 'İ'

instance (c : Char) : Decidable (IsLowered c) :=
  inferInstanceAs (Decidable (_ ∧ _))

theorem IsLowered.ne_sigma {c : Char} (h : IsLowered c) : c ≠ 'Σ' := by
  rintro rfl
  exact absurd h (by decide +kernel)

theorem isLowered_of_all {l : List Char} (h : l.all (IsLowered ·) = true) :
    ∀ c ∈ l, IsLowered c := by
  simpa using h

theorem isCapital_iff_holds {c : Char} :
    (c.val ≥ 'A'.val ∧ c.val ≤ 'Z'.val) ↔ asciiCapitals.holds c.toNat := by
  simp [CaseRun.holds_iff, asciiCapitals, UInt32.le_iff_toNat_le, Nat.mod_one]

theorem lowerChar_of_not_holds {c : Char} (h : ∀ r ∈ lowerRuns, ¬r.holds c.toNat) :
    lowerChar c = c := by
  rw [lowerChar]
  split
  · exact dif_neg (mt isCapital_iff_holds.mp (h asciiCapitals asciiCapitals_mem))
  · rw [List.find?_eq_none.mpr h]

/-- A character becomes itself, or the letter that a run maps it to. -/
theorem lowerChar_cases (c : Char) :
    lowerChar c = c ∨
      ∃ r ∈ lowerRuns, r.holds c.toNat ∧ ((lowerChar c).toNat : Int) = c.toNat + r.offset := by
  rw [lowerChar]
  split
  · by_cases hcapital : c.val ≥ 'A'.val ∧ c.val ≤ 'Z'.val
    · have hholds := isCapital_iff_holds.mp hcapital
      obtain ⟨-, hlast, -⟩ := CaseRun.holds_iff.mp hholds
      refine .inr ⟨asciiCapitals, asciiCapitals_mem, hholds, ?_⟩
      have hlower : c.toLower.toNat = (c.val + 32).toNat :=
        congrArg Char.toNat (dif_pos hcapital)
      have hoffset : asciiCapitals.offset = 32 := rfl
      have hvalue : c.val.toNat = c.toNat := rfl
      have hthirtyTwo : (32 : UInt32).toNat = 32 := rfl
      have hle : c.toNat ≤ 0x5A := hlast
      rw [hlower, hoffset, UInt32.toNat_add]
      omega
    · exact .inl (dif_neg hcapital)
  · split
    · rename_i r hfind
      have hr : r ∈ lowerRuns := List.mem_of_find?_eq_some hfind
      have hholds : r.holds c.toNat := by
        simpa using List.find?_some hfind
      obtain ⟨hfirst, hlast, -⟩ := CaseRun.holds_iff.mp hholds
      obtain ⟨hlow, hrange⟩ := isValid_of_mem r hr
      have hvalid : ((c.toNat : Int) + r.offset).toNat.isValidChar := by
        rw [Nat.isValidChar]
        omega
      refine .inr ⟨r, hr, hholds, ?_⟩
      rw [Char.ofNat, dif_pos hvalid]
      change ((((c.toNat : Int) + r.offset).toNat : Nat) : Int) = c.toNat + r.offset
      omega
    · exact .inl rfl

/-- What a character becomes stays so. -/
theorem isLowered_lowerChar {c : Char} (h : c ≠ 'İ') : IsLowered (lowerChar c) := by
  rcases lowerChar_cases c with hsame | ⟨r, hr, hholds, hcode⟩
  · rw [hsame]
    exact ⟨hsame, h⟩
  · have hnot : ∀ s ∈ dottedCapital :: lowerRuns, ¬s.holds (lowerChar c).toNat := by
      intro s hs
      exact CaseRun.not_holds_of_misses (misses_of_mem hr hs) (isValid_of_mem r hr) hholds hcode
    refine ⟨lowerChar_of_not_holds fun s hs => hnot s (List.mem_cons_of_mem _ hs), ?_⟩
    intro hdotted
    exact hnot dottedCapital List.mem_cons_self (hdotted ▸ rfl)

/-- An ASCII letter comes from itself or its capital, but for the one that the Kelvin
sign becomes. -/
theorem le_of_lowerChar_ascii {c : Char} (hascii : (lowerChar c).toNat < 128)
    (hkelvin : lowerChar c ≠ 'k') : c.toNat ≤ (lowerChar c).toNat := by
  rcases lowerChar_cases c with hsame | ⟨r, hr, hholds, hcode⟩
  · exact Nat.le_of_eq (congrArg Char.toNat hsame.symm)
  · obtain ⟨hfirst, hlast, -⟩ := CaseRun.holds_iff.mp hholds
    rcases ascii_of_mem r hr (by omega) with hoffset | ⟨hone, hone', hoffset⟩
    · omega
    · refine absurd ?_ hkelvin
      rw [← Char.ofNat_toNat (lowerChar c), show (lowerChar c).toNat = 107 by omega]

/-! ## Texts -/

theorem lowerAfter_of_isLowered {l : List Char} (h : ∀ c ∈ l, IsLowered c) (before : List Char) :
    lowerAfter before l = l := by
  induction l generalizing before with
  | nil => rfl
  | cons c rest ih =>
    obtain ⟨hc, hrest⟩ := List.forall_mem_cons.mp h
    rw [lowerAfter, ih hrest, if_neg hc.ne_sigma, if_neg hc.2, hc.1]
    rfl

theorem isLowered_of_mem_lowerAfter {c : Char} {before l : List Char}
    (h : c ∈ lowerAfter before l) : IsLowered c := by
  induction l generalizing before with
  | nil => exact absurd h List.not_mem_nil
  | cons d rest ih =>
    rw [lowerAfter, List.mem_append] at h
    rcases h with h | h
    · split at h
      · rcases List.mem_singleton.mp h with rfl
        split <;> decide +kernel
      · split at h
        · exact isLowered_of_all (l := ['i', '\u0307']) (by decide +kernel) c h
        · rename_i hdotted
          rcases List.mem_singleton.mp h with rfl
          exact isLowered_lowerChar hdotted
    · exact ih h

/-- A text that was lowered is its own lower-case form. -/
theorem lowercase_lowercase (s : String) : lowercase (lowercase s) = lowercase s := by
  have hlowered : ∀ c ∈ (lowercase s).toList, IsLowered c := by
    rw [lowercase, String.toList_ofList]
    exact fun c => isLowered_of_mem_lowerAfter
  rw [lowercase, lowerAfter_of_isLowered hlowered, String.ofList_toList]

/-! ## Texts in parts -/

/-- A character that words end at: no letter, and not passed over between letters. -/
def EndsWord (c : Char) : Prop :=
  caseIgnorable.contains c = false ∧ casedLetters.contains c = false

instance (c : Char) : Decidable (EndsWord c) :=
  inferInstanceAs (Decidable (_ ∧ _))

variable {c : Char}

theorem nextIsCased_append (h : EndsWord c) (front rest : List Char) :
    nextIsCased (front ++ c :: rest) = nextIsCased front := by
  induction front with
  | nil => simp [nextIsCased, h.1, h.2]
  | cons d front ih =>
    by_cases hd : caseIgnorable.contains d = true
    · simpa [nextIsCased, hd] using ih
    · simp [nextIsCased, hd]

/-- What is before the end of a word does not count behind it. -/
theorem lowerAfter_append_before (h : EndsWord c) (before more l : List Char) :
    lowerAfter (before ++ c :: more) l = lowerAfter before l := by
  induction l generalizing before with
  | nil => rfl
  | cons d rest ih =>
    rw [lowerAfter, lowerAfter, nextIsCased_append h, ← List.cons_append, ih]

/-- What is behind the end of a word does not count before it. -/
theorem lowerAfter_append (h : EndsWord c) (before front rest : List Char) :
    lowerAfter before (front ++ c :: rest)
      = lowerAfter before front ++ lowerAfter (front.reverse ++ before) (c :: rest) := by
  induction front generalizing before with
  | nil => rfl
  | cons d front ih =>
    simp only [lowerAfter, nextIsCased_append h, ih, List.append_assoc,
      List.reverse_cons, List.cons_append, List.nil_append]

/-- The parts of a text on both sides of an underscore are lowered by themselves. -/
theorem lowercase_underscore (s t : String) :
    lowercase (s ++ "_" ++ t) = lowercase s ++ "_" ++ lowercase t := by
  have hends : EndsWord '_' := by decide +kernel
  have hsame : ∀ before rest, lowerAfter before ('_' :: rest) = '_' :: lowerAfter [] rest := by
    intro before rest
    have hpast := lowerAfter_append_before hends [] before rest
    rw [List.nil_append] at hpast
    rw [lowerAfter, hpast, if_neg (by decide), if_neg (by decide)]
    rfl
  have hparts : (s ++ "_" ++ t).toList = s.toList ++ '_' :: t.toList := by
    simp
  simp only [lowercase, hparts, lowerAfter_append hends, hsame]
  simp [← String.toList_inj]

/-! ## Parts of texts -/

/-- The lower-case form of a character without neighbours. -/
def lowerAlone (c : Char) : List Char :=
  if c = 'Σ' then ['σ'] else if c = 'İ' then ['i', '\u0307'] else [lowerChar c]

/-- The form of a sigma within words, for each of its two forms. -/
def medial (c : Char) : Char :=
  if c = 'ς' then 'σ' else c

/-- But for the forms of sigma, each character is lowered by itself. -/
theorem map_medial_lowerAfter (before l : List Char) :
    (lowerAfter before l).map medial = (l.flatMap lowerAlone).map medial := by
  induction l generalizing before with
  | nil => rfl
  | cons c rest ih =>
    rw [lowerAfter, List.flatMap_cons, List.map_append, List.map_append, ih]
    congr 1
    rw [lowerAlone]
    split
    · split <;> rfl
    · rfl

/-- Where no sigma stands afterwards, nothing has changed. -/
theorem map_medial_eq_self {l : List Char} (h : 'σ' ∉ l.map medial) : l.map medial = l := by
  refine (List.map_congr_left fun c hc => ?_).trans (List.map_id l)
  by_cases hfinal : c = 'ς'
  · have hmedial : medial c = 'σ' := if_pos hfinal
    exact absurd (hmedial ▸ List.mem_map_of_mem hc) h
  · exact if_neg hfinal

/-- The forms of sigma make no difference to where a run without a sigma is. -/
theorem infix_map_medial_iff {run : List Char} (h : 'σ' ∉ run ∧ 'ς' ∉ run) (l : List Char) :
    run <:+: l.map medial ↔ run <:+: l := by
  constructor
  · rintro ⟨front, back, heq⟩
    obtain ⟨most, after, rfl, hmost, -⟩ := List.map_eq_append_iff.mp heq.symm
    obtain ⟨before, part, rfl, -, rfl⟩ := List.map_eq_append_iff.mp hmost
    rw [map_medial_eq_self h.1]
    exact ⟨before, after, rfl⟩
  · intro hrun
    have hsame : run.map medial = run := by
      refine (List.map_congr_left fun c hc => ?_).trans (List.map_id run)
      exact if_neg (ne_of_mem_of_not_mem hc h.2)
    rw [← hsame]
    exact hrun.map medial

/-- A run without a sigma is a part of a text that was lowered if it is one of the characters
lowered by themselves. -/
theorem infix_lowerAfter_iff {run : List Char} (h : 'σ' ∉ run ∧ 'ς' ∉ run)
    (before l : List Char) : run <:+: lowerAfter before l ↔ run <:+: l.flatMap lowerAlone := by
  rw [← infix_map_medial_iff h, map_medial_lowerAfter, infix_map_medial_iff h]

/-! ## ASCII texts -/

/-- A text whose lower-case form is ASCII has no letters but those of runs. -/
theorem lowerAfter_cons_of_ascii {c : Char} {before rest : List Char}
    (h : ∀ d ∈ lowerAfter before (c :: rest), d.toNat < 128) :
    lowerAfter before (c :: rest) = lowerChar c :: lowerAfter (c :: before) rest := by
  rw [lowerAfter] at h ⊢
  split at h
  · have hsigma := h _ List.mem_cons_self
    split at hsigma <;> exact absurd hsigma (by decide)
  · rename_i hsigma
    split at h
    · have hdot := h _ (List.mem_cons_of_mem _ List.mem_cons_self)
      exact absurd hdot (by decide)
    · rename_i hdotted
      rw [if_neg hsigma, if_neg hdotted, List.singleton_append]

/-- The lower-case form of such a text does not come before it, unless this has a `k`:
capital letters come before small ones. -/
theorem not_lowerAfter_lt {l before : List Char}
    (h : ∀ c ∈ lowerAfter before l, c.toNat < 128 ∧ c ≠ 'k') : ¬lowerAfter before l < l := by
  induction l generalizing before with
  | nil => exact List.not_lt_nil _
  | cons c rest ih =>
    have hcons := lowerAfter_cons_of_ascii fun d hd => (h d hd).1
    rw [hcons] at h ⊢
    obtain ⟨⟨hascii, hkelvin⟩, hrest⟩ := List.forall_mem_cons.mp h
    have hle := le_of_lowerChar_ascii hascii hkelvin
    rw [List.cons_lt_cons_iff]
    rintro (hlt | ⟨-, hlater⟩)
    · exact Nat.not_lt.mpr hle hlt
    · exact ih hrest hlater

end PowerTelemetry.Text
