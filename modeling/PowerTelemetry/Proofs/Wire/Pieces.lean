import PowerTelemetry.Proofs.Wire.Writing
/-!
# Messages as pieces

A message is pieces one after another, each the bytes of one field.  `Runs` says what
a reader makes of a list of pieces, one step for each (`Takes`).

A sender of another time may write the same message in other ways.  In `Rearranged`
pieces, fields of different numbers may have changed places and fields that nobody
declared may stand anywhere.

* `Rearranged.steps` takes a rearrangement apart, one piece at a time.
* A reader that passes over unknown fields (`Skips`) and does not care in which order
  fields of different numbers come (`Independent`) makes of rearranged pieces what it
  makes of the original ones (`Runs.rearranged`).
-/

namespace PowerTelemetry.Wire

/-! ## Pieces -/

/-- One field of a message, with its key. -/
structure Piece where
  number : Nat
  bytes : List UInt8
  deriving DecidableEq, Repr

/-- The bytes of pieces one after another. -/
def joined (pieces : List Piece) : List UInt8 :=
  pieces.flatMap (·.bytes)

@[simp] theorem joined_nil : joined [] = [] := rfl

@[simp] theorem joined_cons (p : Piece) (pieces : List Piece) :
    joined (p :: pieces) = p.bytes ++ joined pieces :=
  List.flatMap_cons

@[simp] theorem joined_append (before after : List Piece) :
    joined (before ++ after) = joined before ++ joined after :=
  List.flatMap_append

/-- What a field of a layout holds.  Groups are left out. -/
def IsContent : WireType → List UInt8 → Prop
  | .varint, content => ∃ n, IsVarint content n
  | .fixed64, content => content.length = 8
  | .fixed32, content => content.length = 4
  | .delimited, content => ∃ length body, content = length ++ body ∧ IsVarint length body.length
  | .groupStart, _ => False
  | .groupEnd, _ => False

/-- A well-formed field whose number is not declared. -/
structure Piece.IsUnknown (declared : List Nat) (p : Piece) : Prop where
  undeclared : p.number ∉ declared
  fits : 0 < p.number ∧ p.number < 2 ^ 29
  shape : ∃ key wire content, p.bytes = key ++ content ∧
    IsVarint key (8 * p.number + wire.code) ∧ IsContent wire content

/-- Pieces that hold the same declared fields as the original ones.  Of one number
they stand in the same order; all others may stand anywhere. -/
structure Rearranged (declared : List Nat) (original pieces : List Piece) : Prop where
  same : ∀ n ∈ declared, pieces.filter (·.number = n) = original.filter (·.number = n)
  unknown : ∀ p ∈ pieces, p.number ∉ declared → p.IsUnknown declared

namespace Rearranged

variable {declared : List Nat} {original pieces : List Piece} {p : Piece}

/-- Pieces that all are declared may stay as they are. -/
theorem refl (h : ∀ p ∈ original, p.number ∈ declared) :
    Rearranged declared original original :=
  ⟨fun _ _ => rfl, fun p hp hnumber => absurd (h p hp) hnumber⟩

/-- Nothing declared is left out. -/
theorem original_eq_nil (h : Rearranged declared original [])
    (hdeclared : ∀ p ∈ original, p.number ∈ declared) : original = [] := by
  rw [List.eq_nil_iff_forall_not_mem]
  intro p hp
  have hmem : p ∈ original.filter (·.number = p.number) :=
    List.mem_filter.mpr ⟨hp, by simp⟩
  rw [← h.same p.number (hdeclared p hp)] at hmem
  cases hmem

/-- A declared piece in front is the first of its number in the original. -/
theorem exists_first (h : Rearranged declared original (p :: pieces)) (hp : p.number ∈ declared) :
    ∃ before after, original = before ++ p :: after ∧ (∀ q ∈ before, q.number ≠ p.number) ∧
      Rearranged declared (before ++ after) pieces := by
  have hfirst := h.same p.number hp
  rw [List.filter_cons_of_pos (by simp)] at hfirst
  obtain ⟨before, after, rfl, hbefore, -, hafter⟩ := List.filter_eq_cons_iff.mp hfirst.symm
  have hne : ∀ q ∈ before, q.number ≠ p.number := by
    intro q hq
    simpa using hbefore q hq
  refine ⟨before, after, rfl, hne, ?_, fun q hq => h.unknown q (List.mem_cons_of_mem p hq)⟩
  intro n hn
  by_cases heq : p.number = n
  · subst heq
    have hnone : before.filter (·.number = p.number) = [] :=
      List.filter_eq_nil_iff.mpr hbefore
    rw [List.filter_append, hnone, List.nil_append, hafter]
  · simpa [List.filter_cons_of_neg, heq] using h.same n hn

/-- An unknown piece in front is left out of the original. -/
theorem tail (h : Rearranged declared original (p :: pieces)) (hp : p.number ∉ declared) :
    Rearranged declared original pieces := by
  refine ⟨?_, fun q hq => h.unknown q (List.mem_cons_of_mem p hq)⟩
  intro n hn
  have hne : p.number ≠ n := by
    rintro rfl
    exact hp hn
  have hsame := h.same n hn
  rwa [List.filter_cons_of_neg (by simpa using hne)] at hsame

end Rearranged

/-- Pieces rearranged one by one: each is the first of its number in what is left of
the original, or unknown. -/
inductive Steps (declared : List Nat) : List Piece → List Piece → Prop where
  | nil : Steps declared [] []
  | known {before after pieces : List Piece} {p : Piece}
      (first : ∀ q ∈ before, q.number ≠ p.number)
      (later : Steps declared (before ++ after) pieces) :
      Steps declared (before ++ p :: after) (p :: pieces)
  | unknown {original pieces : List Piece} {p : Piece} (unknown : p.IsUnknown declared)
      (later : Steps declared original pieces) : Steps declared original (p :: pieces)

/-- Every rearrangement goes piece by piece. -/
theorem Rearranged.steps {declared : List Nat} {original pieces : List Piece}
    (h : Rearranged declared original pieces) (hdeclared : ∀ p ∈ original, p.number ∈ declared) :
    Steps declared original pieces := by
  induction pieces generalizing original with
  | nil =>
    rw [h.original_eq_nil hdeclared]
    exact .nil
  | cons p pieces ih =>
    by_cases hp : p.number ∈ declared
    · obtain ⟨before, after, rfl, hfirst, hrest⟩ := h.exists_first hp
      refine .known hfirst (ih hrest ?_)
      intro q hq
      apply hdeclared
      rcases List.mem_append.mp hq with hq | hq
      · exact List.mem_append_left _ hq
      · exact List.mem_append_right before (List.mem_cons_of_mem p hq)
    · exact .unknown (h.unknown p List.mem_cons_self hp) (ih (h.tail hp) hdeclared)

/-- Rearranged pieces are not shorter than the original ones. -/
theorem Steps.length_le {declared : List Nat} {original pieces : List Piece}
    (h : Steps declared original pieces) : (joined original).length ≤ (joined pieces).length := by
  induction h with
  | nil => exact Nat.le_refl _
  | known _ _ ih =>
    simp only [joined_append, joined_cons, List.length_append] at ih ⊢
    omega
  | unknown _ _ ih =>
    rw [joined_cons, List.length_append]
    omega

/-! ## Readers -/

section Readers

variable {α : Type}
  (readField : α → Nat → WireType → List UInt8 → Except DecodeError (α × List UInt8))

/-- A field with this content is taken in, whatever bytes follow. -/
def Consumes (a : α) (number : Nat) (wire : WireType) (content : List UInt8) (b : α) : Prop :=
  ∀ rest, readField a number wire (content ++ rest) = .ok (b, rest)

/-- A piece is taken in, whatever bytes follow. -/
def Takes (a : α) (p : Piece) (b : α) : Prop :=
  ∃ wire content, (∀ rest, readKey (p.bytes ++ rest) = .ok (p.number, wire, content ++ rest)) ∧
    Consumes readField a p.number wire content b

/-- Pieces taken in one after another. -/
inductive Runs : α → List Piece → α → Prop where
  | nil (a : α) : Runs a [] a
  | cons {a b c : α} {p : Piece} {pieces : List Piece} (takes : Takes readField a p b)
      (later : Runs b pieces c) : Runs a (p :: pieces) c

/-- Two fields of different numbers may change places. -/
def Independent : Prop :=
  ∀ {a b c : α} {m n : Nat} {v w : WireType} {x y : List UInt8}, m ≠ n →
    Consumes readField a m v x b → Consumes readField b n w y c →
      ∃ d, Consumes readField a n w y d ∧ Consumes readField d m v x c

/-- Fields that are not declared are passed over. -/
def Skips (declared : List Nat) : Prop :=
  ∀ {number : Nat} {wire : WireType} {content : List UInt8}, number ∉ declared →
    IsContent wire content → ∀ a, Consumes readField a number wire content a

variable {readField} {a b c : α} {pieces : List Piece}

/-- An unknown field changes nothing. -/
theorem Skips.takes {declared : List Nat} (hreader : Skips readField declared) {p : Piece}
    (h : p.IsUnknown declared) (a : α) : Takes readField a p a := by
  obtain ⟨key, wire, content, hbytes, hkey, hcontent⟩ := h.shape
  refine ⟨wire, content, fun rest => ?_, hreader h.undeclared hcontent a⟩
  rw [hbytes, List.append_assoc]
  exact readKey_append hkey h.fits.1 h.fits.2 _

theorem Runs.append {later : List Piece} (h : Runs readField a pieces b)
    (hlater : Runs readField b later c) : Runs readField a (pieces ++ later) c := by
  induction h with
  | nil => exact hlater
  | cons takes _ ih => exact .cons takes (ih hlater)

/-- The bytes of pieces are read field by field. -/
theorem Runs.reads (h : Runs readField a pieces b) (rest : List UInt8) :
    Reads readField a (joined pieces ++ rest) b rest := by
  induction h with
  | nil a => exact .done a rest
  | cons takes _ ih =>
    obtain ⟨wire, content, hkey, hread⟩ := takes
    rw [joined_cons, List.append_assoc]
    exact .field (hkey _) (hread _) ih

/-- A piece may be read before those of other numbers in front of it. -/
theorem Runs.bring_forward (hreader : Independent readField) {before after : List Piece}
    {p : Piece} (hbefore : ∀ q ∈ before, q.number ≠ p.number)
    (h : Runs readField a (before ++ p :: after) c) :
    Runs readField a (p :: (before ++ after)) c := by
  induction before generalizing a with
  | nil => exact h
  | cons q before ih =>
    obtain ⟨b, hq, hrest⟩ : ∃ b, Takes readField a q b ∧
        Runs readField b (before ++ p :: after) c := by
      cases h with
      | cons takes later => exact ⟨_, takes, later⟩
    have hforward := ih (fun r hr => hbefore r (List.mem_cons_of_mem q hr)) hrest
    cases hforward with
    | cons hp later =>
      obtain ⟨wq, xq, hkeyq, hq⟩ := hq
      obtain ⟨wp, xp, hkeyp, hp⟩ := hp
      obtain ⟨d, hp', hq'⟩ := hreader (hbefore q List.mem_cons_self) hq hp
      exact .cons ⟨wp, xp, hkeyp, hp'⟩ (.cons ⟨wq, xq, hkeyq, hq'⟩ later)

/-- Rearranged pieces are read as the original ones. -/
theorem Runs.rearranged {declared : List Nat} {original : List Piece}
    (hreader : Independent readField) (hskips : Skips readField declared)
    (hsteps : Steps declared original pieces) (h : Runs readField a original b) :
    Runs readField a pieces b := by
  induction hsteps generalizing a with
  | nil => exact h
  | known first _ ih =>
    cases h.bring_forward hreader first with
    | cons takes later => exact .cons takes (ih later)
  | unknown unknown _ ih => exact .cons (hskips.takes unknown a) (ih h)

end Readers

/-! ## Fields that are passed over -/

theorem dropBytes_append {count : Nat} {content : List UInt8} (h : content.length = count)
    (rest : List UInt8) : dropBytes count (content ++ rest) = .ok rest := by
  subst h
  rw [dropBytes, if_neg (by simp), List.drop_left]

/-- The content of a field is skipped, and no more than that. -/
theorem skip_append {depth : Nat} {wire : WireType} {content : List UInt8}
    (h : IsContent wire content) (hdepth : 0 < depth) (number : Nat) (rest : List UInt8) :
    skip depth wire number (content ++ rest) = .ok rest := by
  obtain ⟨depth, rfl⟩ : ∃ k, depth = k + 1 := ⟨depth - 1, by omega⟩
  cases wire with
  | varint =>
    obtain ⟨n, hn⟩ := h
    rw [skip, readNumber_append hn]
    rfl
  | fixed64 => exact dropBytes_append h rest
  | fixed32 => exact dropBytes_append h rest
  | delimited =>
    obtain ⟨length, body, rfl, hlength⟩ := h
    rw [skip, readDelimited_append hlength]
    rfl
  | groupStart => cases h
  | groupEnd => cases h

end PowerTelemetry.Wire
