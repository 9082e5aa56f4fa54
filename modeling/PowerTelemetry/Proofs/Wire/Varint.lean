import Mathlib.Algebra.Group.Nat.Defs
import PowerTelemetry.Wire.Varint
/-!
# What a variable-length integer is

`IsVarint v n` says, without a reader, that the bytes `v` spell the number `n`:
at most ten bytes, the top bit set on all but the last one, seven bits each, and
a number below `2^64`.  Longer forms of a number than needed count.

`readVarint?_eq_some_iff` says that this is what `readVarint?` reads, and
`isVarint_writeVarint` that `writeVarint` writes one.
-/

namespace PowerTelemetry.Wire

/-- The number whose seven-bit groups are these bytes, the lowest first. -/
def groupsValue : List UInt8 → Nat
  | [] => 0
  | b :: rest => b.toNat % 128 + 128 * groupsValue rest

/-- Bytes that spell a number, at most `count` of them. -/
structure IsGroups (count : Nat) (v : List UInt8) (n : Nat) : Prop where
  short : v.length ≤ count
  shape : ∃ init last, v = init ++ [last] ∧ (∀ b ∈ init, 128 ≤ b.toNat) ∧ last.toNat < 128
  value : n = groupsValue v
  fits : n < 2 * 128 ^ (count - 1)

/-- Bytes that spell a number below `2^64`. -/
def IsVarint (v : List UInt8) (n : Nat) : Prop :=
  IsGroups 10 v n

/-! ## One byte more -/

theorem not_isGroups_nil (count n : Nat) : ¬ IsGroups count [] n := by
  rintro ⟨_, ⟨init, last, h, _⟩, _, _⟩
  simp at h

theorem IsVarint.ne_nil {v : List UInt8} {n : Nat} (h : IsVarint v n) : v ≠ [] := by
  rintro rfl
  exact not_isGroups_nil 10 n h

/-- One byte spells itself. -/
theorem isGroups_singleton {count n : Nat} {b : UInt8} :
    IsGroups (count + 1) [b] n ↔ b.toNat < 128 ∧ n = b.toNat ∧ n < 2 * 128 ^ count := by
  constructor
  · rintro ⟨_, ⟨init, last, hv, _, hlast⟩, hvalue, hfits⟩
    obtain ⟨rfl, rfl⟩ : init = [] ∧ b = last := by
      cases init with
      | nil => simpa using hv
      | cons c rest => simp at hv
    simp only [groupsValue] at hvalue
    refine ⟨hlast, by omega, ?_⟩
    simpa using hfits
  · rintro ⟨hb, rfl, hfits⟩
    refine ⟨by simp, ⟨[], b, rfl, by simp, hb⟩, ?_, by simpa using hfits⟩
    simp only [groupsValue]
    omega

/-- A byte with its top bit set adds seven bits below those of the bytes after
it. -/
theorem isGroups_cons {count n : Nat} {b : UInt8} {v : List UInt8} (hv : v ≠ []) :
    IsGroups (count + 1) (b :: v) n
      ↔ 128 ≤ b.toNat ∧ ∃ m, IsGroups count v m ∧ n = b.toNat - 128 + 128 * m := by
  have hb := b.toNat_lt
  constructor
  · rintro ⟨hshort, ⟨init, last, hspell, hinit, hlast⟩, hvalue, hfits⟩
    cases init with
    | nil =>
      obtain ⟨_, rfl⟩ := List.cons.inj hspell
      exact absurd rfl hv
    | cons c init =>
      obtain ⟨rfl, htail⟩ := List.cons.inj hspell
      obtain rfl : v = init ++ [last] := htail
      have htop : 128 ≤ b.toNat := hinit b (by simp)
      have hcount : 0 < count := by
        simp only [List.length_cons, List.length_append] at hshort
        omega
      simp only [groupsValue] at hvalue
      refine ⟨htop, groupsValue (init ++ [last]), ⟨?_, ?_, rfl, ?_⟩, ?_⟩
      · simp only [List.length_cons] at hshort
        omega
      · exact ⟨init, last, rfl, fun c hc => hinit c (List.mem_cons_of_mem _ hc), hlast⟩
      · have hpow : 128 ^ count = 128 * 128 ^ (count - 1) := by
          rw [← Nat.pow_succ', Nat.succ_eq_add_one, Nat.sub_add_cancel hcount]
        simp only [Nat.add_sub_cancel, hpow] at hfits
        omega
      · omega
  · rintro ⟨htop, m, ⟨hshort, ⟨init, last, rfl, hinit, hlast⟩, rfl, hfits⟩, rfl⟩
    have hcount : 0 < count := by
      simp only [List.length_append, List.length_singleton] at hshort
      omega
    refine ⟨?_, ⟨b :: init, last, rfl, ?_, hlast⟩, ?_, ?_⟩
    · simp only [List.length_cons]
      omega
    · intro c hc
      rcases List.mem_cons.mp hc with rfl | hc
      · exact htop
      · exact hinit c hc
    · simp only [groupsValue]
      omega
    · have hpow : 128 ^ count = 128 * 128 ^ (count - 1) := by
        rw [← Nat.pow_succ', Nat.succ_eq_add_one, Nat.sub_add_cancel hcount]
      simp only [Nat.add_sub_cancel, hpow]
      omega

/-- The last byte of a number, or one with more bytes after it. -/
theorem isGroups_cons_iff {count n : Nat} {b : UInt8} {v : List UInt8} :
    IsGroups (count + 1) (b :: v) n
      ↔ (v = [] ∧ b.toNat < 128 ∧ n = b.toNat ∧ n < 2 * 128 ^ count) ∨
        (128 ≤ b.toNat ∧ ∃ m, IsGroups count v m ∧ n = b.toNat - 128 + 128 * m) := by
  by_cases hv : v = []
  · subst hv
    rw [isGroups_singleton]
    constructor
    · intro h
      exact .inl ⟨rfl, h⟩
    · rintro (⟨_, h⟩ | ⟨_, m, hm, _⟩)
      · exact h
      · exact absurd hm (not_isGroups_nil count m)
  · rw [isGroups_cons hv]
    constructor
    · intro h
      exact .inr h
    · rintro (⟨hnil, _⟩ | h)
      · exact absurd hnil hv
      · exact h

/-- The last byte that there is room for holds one bit. -/
theorem lt_two_mul_pow_iff {count b : Nat} (hb : b < 128) :
    b < 2 * 128 ^ count ↔ ¬ (count = 0 ∧ 2 ≤ b) := by
  cases count with
  | zero => omega
  | succ count =>
    have hpow : 0 < 128 ^ count := Nat.pow_pos (by decide)
    rw [Nat.pow_succ]
    omega

/-- What is at the front starts with the first byte. -/
theorem exists_isGroups_cons {count n : Nat} {b : UInt8} {tail rest : List UInt8} :
    (∃ v, b :: tail = v ++ rest ∧ IsGroups count v n)
      ↔ ∃ v, tail = v ++ rest ∧ IsGroups count (b :: v) n := by
  constructor
  · rintro ⟨v, hspell, hv⟩
    cases v with
    | nil => exact absurd hv (not_isGroups_nil _ n)
    | cons c v =>
      obtain ⟨rfl, htail⟩ := List.cons.inj hspell
      exact ⟨v, htail, hv⟩
  · rintro ⟨v, rfl, hv⟩
    exact ⟨b :: v, rfl, hv⟩

/-! ## Reading -/

/-- A byte without its top bit is read as itself, if there is room for it. -/
theorem readGroups?_last {count n : Nat} {b : UInt8} {tail rest : List UInt8}
    (hb : b.toNat < 128) :
    readGroups? (count + 1) (b :: tail) = some (n, rest)
      ↔ tail = rest ∧ n = b.toNat ∧ n < 2 * 128 ^ count := by
  rw [readGroups?, if_pos hb]
  constructor
  · intro h
    split at h
    · cases h
    · rename_i hroom
      obtain ⟨rfl, rfl⟩ := Prod.mk.inj (Option.some.inj h)
      exact ⟨rfl, rfl, (lt_two_mul_pow_iff hb).mpr hroom⟩
  · rintro ⟨rfl, rfl, hfits⟩
    rw [if_neg ((lt_two_mul_pow_iff hb).mp hfits)]

/-- A byte with its top bit is read with those behind it. -/
theorem readGroups?_more {count n : Nat} {b : UInt8} {tail rest : List UInt8}
    (hb : 128 ≤ b.toNat) :
    readGroups? (count + 1) (b :: tail) = some (n, rest)
      ↔ ∃ m, readGroups? count tail = some (m, rest) ∧ n = b.toNat - 128 + 128 * m := by
  rw [readGroups?, if_neg (Nat.not_lt.mpr hb)]
  constructor
  · intro h
    obtain ⟨⟨m, after⟩, hread, heq⟩ := Option.map_eq_some_iff.mp h
    obtain ⟨rfl, rfl⟩ := Prod.mk.inj heq
    exact ⟨m, hread, rfl⟩
  · rintro ⟨m, hread, rfl⟩
    rw [hread]
    rfl

/-- The reader finds the number that the front spells. -/
theorem readGroups?_eq_some_iff {count n : Nat} {bytes rest : List UInt8} :
    readGroups? count bytes = some (n, rest) ↔ ∃ v, bytes = v ++ rest ∧ IsGroups count v n := by
  induction count generalizing bytes n with
  | zero =>
    constructor
    · intro h
      cases h
    · rintro ⟨v, rfl, hv⟩
      have hnil : v = [] := List.length_eq_zero_iff.mp (Nat.le_zero.mp hv.short)
      exact absurd (hnil ▸ hv) (not_isGroups_nil 0 n)
  | succ count ih =>
    cases bytes with
    | nil =>
      constructor
      · intro h
        cases h
      · rintro ⟨v, hspell, hv⟩
        have hnil : v = [] := (List.append_eq_nil_iff.mp hspell.symm).1
        exact absurd (hnil ▸ hv) (not_isGroups_nil _ n)
    | cons b tail =>
      rw [exists_isGroups_cons]
      simp only [isGroups_cons_iff]
      by_cases hb : b.toNat < 128
      · rw [readGroups?_last hb]
        constructor
        · rintro ⟨rfl, hn, hfits⟩
          exact ⟨[], rfl, .inl ⟨rfl, hb, hn, hfits⟩⟩
        · rintro ⟨v, rfl, ⟨rfl, -, hn, hfits⟩ | ⟨htop, -⟩⟩
          · exact ⟨rfl, hn, hfits⟩
          · omega
      · rw [readGroups?_more (by omega)]
        constructor
        · rintro ⟨m, hread, hn⟩
          obtain ⟨v, hspell, hv⟩ := ih.mp hread
          exact ⟨v, hspell, .inr ⟨by omega, m, hv, hn⟩⟩
        · rintro ⟨v, hspell, ⟨-, hlast, -⟩ | ⟨-, m, hm, hn⟩⟩
          · omega
          · exact ⟨m, ih.mpr ⟨v, hspell, hm⟩, hn⟩

/-- The reader finds the number at the front, and fails if there is none. -/
theorem readVarint?_eq_some_iff {n : Nat} {bytes rest : List UInt8} :
    readVarint? bytes = some (n, rest) ↔ ∃ v, bytes = v ++ rest ∧ IsVarint v n :=
  readGroups?_eq_some_iff

theorem readVarint?_append {v : List UInt8} {n : Nat} (h : IsVarint v n) (rest : List UInt8) :
    readVarint? (v ++ rest) = some (n, rest) :=
  readVarint?_eq_some_iff.mpr ⟨v, rfl, h⟩

/-! ## Writing -/

/-- A number below 256 is the byte of that number. -/
private theorem toNat_byte {n : Nat} (h : n < 256) : (UInt8.ofNat n).toNat = n :=
  UInt8.toNat_ofNat_of_lt h

/-- The writer spells the number that it is given. -/
theorem isGroups_writeGroups {count n : Nat} (h : n < 2 * 128 ^ count) :
    IsGroups (count + 1) (writeGroups (count + 1) n) n := by
  induction count generalizing n with
  | zero =>
    have hn : n < 128 := by omega
    have hbyte : (UInt8.ofNat n).toNat = n := toNat_byte (by omega)
    rw [writeGroups, if_pos hn]
    exact isGroups_singleton.mpr ⟨by omega, hbyte.symm, h⟩
  | succ count ih =>
    rw [writeGroups]
    split
    · rename_i hn
      have hbyte : (UInt8.ofNat n).toNat = n := toNat_byte (by omega)
      exact isGroups_singleton.mpr ⟨by omega, hbyte.symm, h⟩
    · have hbyte : (UInt8.ofNat (n % 128 + 128)).toNat = n % 128 + 128 :=
        toNat_byte (by omega)
      have hrest : n / 128 < 2 * 128 ^ count := by
        rw [Nat.pow_succ] at h
        omega
      exact isGroups_cons_iff.mpr (.inr ⟨by omega, n / 128, ih hrest, by omega⟩)

theorem isVarint_writeVarint {n : Nat} (h : n < 2 ^ 64) : IsVarint (writeVarint n) n :=
  isGroups_writeGroups h

end PowerTelemetry.Wire
