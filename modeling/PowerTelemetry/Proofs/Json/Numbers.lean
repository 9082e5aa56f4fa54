import PowerTelemetry.Json.Reader
import PowerTelemetry.Proofs.Binary64.Finite
/-!
# The numbers of a JSON text

Every number that is read from a JSON text is finite.  A number above the largest
double is refused.  One that is scaled down starts from a significand of 64 bits, and
no division by a power of ten can make it an infinity.

`Finite` says so of all numbers in a value.  There is one lemma for each reader, from
scaled significands up to values (`finite_readValue?`), and `finite_of_read?` says it of
whole texts.
-/

namespace PowerTelemetry

open Json (powerOfTen maxPower scaleDown scaled? takeSignificand)

/-- A number that is no infinity. -/
def JsonNumber.IsFinite : JsonNumber → Prop
  | .float x => x.isFinite
  | .natural _ | .negative _ => True

namespace Json

/-- All numbers in a value are finite. -/
inductive Finite : Json → Prop where
  | null : Finite .null
  | bool (b : Bool) : Finite (.bool b)
  | number {n : JsonNumber} (finite : n.IsFinite) : Finite (.number n)
  | string (s : String) : Finite (.string s)
  | array {items : List Json} (finite : ∀ item ∈ items, Finite item) : Finite (.array items)
  | object {members : List (String × Json)} (finite : ∀ m ∈ members, Finite m.2) :
      Finite (.object members)

/-! ## Numbers -/

/-- A power of ten in reach is a double that is at least one. -/
theorem exponentField_powerOfTen {e : Nat} (h : e ≤ maxPower) :
    1023 ≤ (powerOfTen e).exponentField ∧ (powerOfTen e).exponentField < 2047 := by
  have hall : ∀ e < maxPower + 1,
      1023 ≤ (powerOfTen e).exponentField ∧ (powerOfTen e).exponentField < 2047 := by
    decide +kernel
  exact hall e (by omega)

/-- Each step may round up to the next exponent. -/
theorem exponentField_scaleDown_le {fuel k : Nat} {x : Binary64} (e : Nat)
    (hx : x.exponentField ≤ k + 1023) (hk : k + fuel ≤ 1023) :
    (scaleDown fuel x e).exponentField ≤ k + fuel + 1023 := by
  induction fuel generalizing k x e with
  | zero => exact hx
  | succ fuel ih =>
    have hstep {e : Nat} (he : e ≤ maxPower) :
        (x.div (powerOfTen e)).exponentField ≤ k + 1 + 1023 := by
      obtain ⟨hlow, hhigh⟩ := exponentField_powerOfTen he
      exact Binary64.exponentField_div_le hx (by omega) hlow hhigh
    rw [scaleDown]
    split
    · rename_i he
      have := hstep he
      omega
    · split
      · omega
      · have := ih (e - maxPower) (hstep (Nat.le_refl maxPower)) (by omega)
        omega

theorem isFinite_scaled? {negative : Bool} {significand : Nat} {exponent : Int} {x : Binary64}
    (hsignificand : significand < 2 ^ 64)
    (h : scaled? negative significand exponent = some x) : x.isFinite := by
  have hsigned (y : Binary64) (hy : y.isFinite) : (if negative then y.neg else y).isFinite := by
    cases negative <;> simpa using hy
  have hstart := Binary64.exponentField_ofNat_le hsignificand
  simp only [scaled?] at h
  split at h
  · obtain rfl := Option.some.inj h
    have hdown : (scaleDown 4 (Binary64.ofNat significand) exponent.natAbs).exponentField
        ≤ 64 + 4 + 1023 := exponentField_scaleDown_le _ hstart (by decide)
    exact hsigned _ (Binary64.isFinite_of_exponentField_lt (by omega))
  · split at h
    · split at h
      · rename_i hfinite
        obtain rfl := Option.some.inj h
        exact hsigned _ hfinite
      · cases h
    · split at h
      · obtain rfl := Option.some.inj h
        exact hsigned _ (Binary64.isFinite_ofNat hsignificand)
      · cases h

theorem takeSignificand_lt {significand : Nat} (h : significand < 2 ^ 64) (count : Nat)
    (cs : List Char) : (takeSignificand significand count cs).1 < 2 ^ 64 := by
  induction cs generalizing significand count with
  | nil => exact h
  | cons c cs ih =>
    simp only [takeSignificand]
    split
    · split
      · exact ih ‹_› _
      · exact h
    · exact h

variable {negative : Bool} {significand dropped fuel : Nat} {exponent : Int} {n : JsonNumber}
  {cs rest : List Char}

theorem isFinite_readExponent? (hsignificand : significand < 2 ^ 64)
    (h : readExponent? negative significand exponent cs = some (n, rest)) : n.IsFinite := by
  have hfloat {total : Int} {after : List Char}
      (h : (scaled? negative significand total).map (fun x => (JsonNumber.float x, after))
        = some (n, rest)) : n.IsFinite := by
    obtain ⟨x, hx, heq⟩ := Option.map_eq_some_iff.mp h
    rw [← (Prod.mk.inj heq).1]
    exact isFinite_scaled? hsignificand hx
  simp only [readExponent?] at h
  split at h
  · split at h
    · split at h <;> exact hfloat (Option.ite_none_left_eq_some.mp h).2
    · exact hfloat h
  · exact hfloat h

theorem isFinite_readFraction? (hsignificand : significand < 2 ^ 64)
    (h : readFraction? negative significand dropped cs = some (n, rest)) : n.IsFinite := by
  have hwhole : (readFraction?.whole negative significand).IsFinite := by
    rw [readFraction?.whole]
    split
    · trivial
    · split
      · exact (Binary64.isFinite_neg _).trans (Binary64.isFinite_ofNat hsignificand)
      · trivial
  simp only [readFraction?] at h
  split at h
  · split at h
    · cases h
    · exact isFinite_readExponent? (takeSignificand_lt hsignificand _ _) h
  · split at h
    · exact isFinite_readExponent? hsignificand h
    · rw [← (Prod.mk.inj (Option.some.inj h)).1]
      exact hwhole
  · split at h
    · exact isFinite_readExponent? hsignificand h
    · rw [← (Prod.mk.inj (Option.some.inj h)).1]
      exact hwhole

theorem isFinite_readUnsigned? (h : readUnsigned? negative cs = some (n, rest)) : n.IsFinite := by
  simp only [readUnsigned?] at h
  split at h
  · split at h
    · split at h
      · cases h
      · exact isFinite_readFraction? (by decide) h
    · exact isFinite_readFraction? (by decide) h
  · split at h
    · exact isFinite_readFraction? (takeSignificand_lt (by decide) _ _) h
    · cases h
  · cases h

/-! ## Values -/

/-- A reader that gives only what has a property. -/
def Gives {α : Type} (P : α → Prop) (read : List Char → Option (α × List Char)) : Prop :=
  ∀ cs a rest, read cs = some (a, rest) → P a

theorem Gives.of_map {α β : Type} {P : α → Prop} {Q : β → Prop}
    {read : List Char → Option (α × List Char)} (hread : Gives P read) {f : α → β}
    (hf : ∀ a, P a → Q (f a)) {b : β}
    (h : (read cs).map (fun r => (f r.1, r.2)) = some (b, rest)) : Q b := by
  obtain ⟨r, hr, heq⟩ := Option.map_eq_some_iff.mp h
  rw [← (Prod.mk.inj heq).1]
  exact hf r.1 (hread cs r.1 r.2 hr)

theorem finite_of_word {word : List Char} {j k : Json} (hj : Finite j)
    (h : (after? word cs).map (j, ·) = some (k, rest)) : Finite k := by
  obtain ⟨_, -, heq⟩ := Option.map_eq_some_iff.mp h
  rwa [← (Prod.mk.inj heq).1]

/-- All numbers in the items of an array are finite. -/
def FiniteItems (items : List Json) : Prop :=
  ∀ item ∈ items, Finite item

/-- All numbers in the members of an object are finite. -/
def FiniteMembers (members : List (String × Json)) : Prop :=
  ∀ m ∈ members, Finite m.2

theorem finite_readValue? (hitems : ∀ depth, Gives FiniteItems (readItems? fuel depth))
    (hmembers : ∀ depth, Gives FiniteMembers (readMembers? fuel depth)) (depth : Nat) :
    Gives Finite (readValue? (fuel + 1) depth) := by
  intro cs j rest h
  rw [readValue?] at h
  have hnumber (negative : Bool) : Gives JsonNumber.IsFinite (readUnsigned? negative) :=
    fun _ _ _ hread => isFinite_readUnsigned? hread
  split at h
  · exact finite_of_word .null h
  · exact finite_of_word (.bool true) h
  · exact finite_of_word (.bool false) h
  · obtain ⟨r, -, heq⟩ := Option.map_eq_some_iff.mp h
    rw [← (Prod.mk.inj heq).1]
    exact .string _
  · split at h
    · cases h
    · split at h
      · rw [← (Prod.mk.inj (Option.some.inj h)).1]
        exact .array (by simp)
      · exact (hitems _).of_map (fun _ => Finite.array) h
  · split at h
    · cases h
    · split at h
      · rw [← (Prod.mk.inj (Option.some.inj h)).1]
        exact .object (by simp)
      · exact (hmembers _).of_map (fun _ => Finite.object) h
  · exact (hnumber true).of_map (fun _ => Finite.number) h
  · exact (hnumber false).of_map (fun _ => Finite.number) h

theorem finite_readItems? (hvalue : ∀ depth, Gives Finite (readValue? fuel depth))
    (hitems : ∀ depth, Gives FiniteItems (readItems? fuel depth)) (depth : Nat) :
    Gives FiniteItems (readItems? (fuel + 1) depth) := by
  intro cs items rest h
  rw [readItems?] at h
  simp only [Option.bind_eq_bind, Option.bind_eq_some_iff] at h
  obtain ⟨⟨item, after⟩, hitem, h⟩ := h
  have hfirst : Finite item := hvalue depth cs item after hitem
  dsimp only at h
  split at h
  · simp only [Option.bind_eq_some_iff, Option.some.injEq, Prod.mk.injEq] at h
    obtain ⟨r, hread, rfl, -⟩ := h
    exact List.forall_mem_cons.mpr ⟨hfirst, hitems depth _ r.1 r.2 hread⟩
  · rw [← (Prod.mk.inj (Option.some.inj h)).1]
    exact List.forall_mem_singleton.mpr hfirst
  · cases h

theorem finite_readMembers? (hvalue : ∀ depth, Gives Finite (readValue? fuel depth))
    (hmembers : ∀ depth, Gives FiniteMembers (readMembers? fuel depth)) (depth : Nat) :
    Gives FiniteMembers (readMembers? (fuel + 1) depth) := by
  intro cs members rest h
  rw [readMembers?] at h
  split at h
  · simp only [Option.bind_eq_bind, Option.bind_eq_some_iff] at h
    obtain ⟨⟨name, afterName⟩, -, h⟩ := h
    dsimp only at h
    split at h
    · simp only [Option.bind_eq_some_iff] at h
      obtain ⟨⟨value, afterValue⟩, hread, h⟩ := h
      have hfirst : Finite value := hvalue depth _ value afterValue hread
      dsimp only at h
      split at h
      · simp only [Option.bind_eq_some_iff, Option.some.injEq, Prod.mk.injEq] at h
        obtain ⟨r, hlater, rfl, -⟩ := h
        exact List.forall_mem_cons.mpr ⟨hfirst, hmembers depth _ r.1 r.2 hlater⟩
      · rw [← (Prod.mk.inj (Option.some.inj h)).1]
        exact List.forall_mem_singleton.mpr hfirst
      · cases h
    · cases h
  · cases h

/-- The readers of values, items and members, by induction on the steps that they
may take. -/
theorem finite_all (fuel : Nat) :
    (∀ depth, Gives Finite (readValue? fuel depth)) ∧
      (∀ depth, Gives FiniteItems (readItems? fuel depth)) ∧
      ∀ depth, Gives FiniteMembers (readMembers? fuel depth) := by
  induction fuel with
  | zero =>
    refine ⟨?_, ?_, ?_⟩ <;>
      · intro depth cs a rest h
        cases h
  | succ fuel ih =>
    obtain ⟨hvalue, hitems, hmembers⟩ := ih
    exact ⟨finite_readValue? hitems hmembers, finite_readItems? hvalue hitems,
      finite_readMembers? hvalue hmembers⟩

/-- All numbers that a text spells are finite. -/
theorem finite_of_read? {s : String} {j : Json} (h : read? s = some j) : Finite j := by
  simp only [read?, readChars, readWithin] at h
  split at h
  · rename_i value after hvalue
    obtain ⟨-, hvalue'⟩ := Option.ite_none_right_eq_some.mp h
    rw [← Option.some.inj hvalue']
    exact (finite_all _).1 _ _ _ _ hvalue
  · cases h

end Json

end PowerTelemetry
