import Mathlib.Data.List.Forall2
import PowerTelemetry.Frame
import PowerTelemetry.Proofs.Wire.Scalars
/-!
# Packs

A pack has scalar fields and items, each of which is a message inside a field.  It is
read by an independent reader that passes over unknown fields
(`PowerPack.independent_readField`, `PowerPack.skips_readField`), first as a run over
its scalar fields (`PowerPack.runs_scalars`), then as one over its items
(`PowerPack.runs_items`).

Main results: an extension of a pack, with extensions of its items, is read as the pack
(`PowerPack.read_extension`), and so is the written pack (`PowerPack.read_write`).
-/

namespace PowerTelemetry.Frame

open Wire (Values Piece WellNumbered WireType Runs Consumes Independent Skips Rearranged joined)

theorem wellNumbered_powerFields : WellNumbered powerFields :=
  ⟨by decide, by decide⟩

theorem wellNumbered_packFields : WellNumbered packFields :=
  ⟨by decide, by decide⟩

namespace PowerPack

/-- The numbers of the fields of a pack. -/
def declared : List Nat :=
  itemsNumber :: packFields.map (·.number)

/-- The fields of a pack that are not items. -/
def scalars (p : PowerPack) : Values packFields :=
  (p.sequence, ())

/-- The piece of an item. -/
def itemPiece (body : List UInt8) : Piece :=
  ⟨itemsNumber, Wire.writeKey itemsNumber .delimited ++ Wire.writeDelimited body⟩

/-- Bytes that hold the fields of a pack, its items in their order, with unknown fields
anywhere between them and inside of the items. -/
def IsExtension (p : PowerPack) (bytes : List UInt8) : Prop :=
  ∃ bodies l, List.Forall₂ (Values.IsExtension powerFields) p.items bodies ∧
    Rearranged declared (Values.pieces packFields p.scalars ++ bodies.map itemPiece) l ∧
    bytes = joined l

/-! ### Readers -/

variable {p q : PowerPack} {number : Nat} {wire : WireType} {content : List UInt8}

/-- An item is added behind the items that a pack has, whatever these are. -/
theorem consumes_item_iff :
    Consumes readField p itemsNumber wire content q ↔
      wire = .delimited ∧ ∃ item, q = ⟨p.sequence, p.items ++ [item]⟩ ∧
        ∀ rest, Wire.readEmbedded (Values.readField "PowerItem" (Wire.maxDepth - 1) powerFields)
          (Values.empty powerFields) (content ++ rest) = .ok (item, rest) := by
  constructor
  · intro h
    have hread : ∀ rest, wire = .delimited ∧ ∃ item, q = ⟨p.sequence, p.items ++ [item]⟩ ∧
        Wire.readEmbedded (Values.readField "PowerItem" (Wire.maxDepth - 1) powerFields)
          (Values.empty powerFields) (content ++ rest) = .ok (item, rest) := by
      intro rest
      have hfield := h rest
      rw [readField, if_pos rfl] at hfield
      by_cases hwire : wire = .delimited
      · rw [if_pos hwire] at hfield
        dsimp only at hfield
        split at hfield
        · rename_i item after hitem
          obtain ⟨rfl, rfl⟩ := Prod.mk.inj (Except.ok.inj hfield)
          exact ⟨hwire, item, rfl, hitem⟩
        · cases hfield
      · rw [if_neg hwire] at hfield
        cases hfield
    obtain ⟨hwire, item, hq, -⟩ := hread []
    refine ⟨hwire, item, hq, fun rest => ?_⟩
    -- What follows does not change which item it is.
    obtain ⟨-, item', hq', hitem⟩ := hread rest
    rw [hq, PowerPack.mk.injEq, List.append_cancel_left_eq, List.singleton_inj] at hq'
    rw [hq'.2]
    exact hitem
  · rintro ⟨rfl, item, rfl, hitem⟩ rest
    rw [readField, if_pos rfl, if_pos rfl, hitem]

/-- A field that is not an item goes to the scalar fields. -/
theorem consumes_iff_of_ne (hne : number ≠ itemsNumber) :
    Consumes readField p number wire content q ↔
      q.items = p.items ∧
        Consumes (Values.readField packName Wire.maxDepth packFields) p.scalars number wire content
          q.scalars := by
  constructor
  · intro h
    have hread : ∀ rest, q.items = p.items ∧
        Values.readField packName Wire.maxDepth packFields p.scalars number wire (content ++ rest)
          = .ok (q.scalars, rest) := by
      intro rest
      have hfield := h rest
      rw [readField, if_neg hne] at hfield
      split at hfield
      · rename_i v after hscalar
        obtain ⟨rfl, rfl⟩ := Prod.mk.inj (Except.ok.inj hfield)
        exact ⟨rfl, hscalar⟩
      · cases hfield
    exact ⟨(hread []).1, fun rest => (hread rest).2⟩
  · rintro ⟨hitems, hscalar⟩ rest
    have hvalues := hscalar rest
    rw [scalars] at hvalues
    rw [readField, if_neg hne, hvalues, ← hitems]
    rfl

theorem independent_readField : Independent readField := by
  intro a b c m n v w x y hne hm hn
  by_cases hitem : m = itemsNumber
  · subst hitem
    obtain ⟨hwire, item, rfl, hread⟩ := consumes_item_iff.mp hm
    obtain ⟨hitems, hscalar⟩ := (consumes_iff_of_ne (Ne.symm hne)).mp hn
    refine ⟨⟨c.sequence, a.items⟩, (consumes_iff_of_ne (Ne.symm hne)).mpr ⟨rfl, hscalar⟩, ?_⟩
    apply consumes_item_iff.mpr
    exact ⟨hwire, item, congrArg (PowerPack.mk c.sequence) hitems, hread⟩
  · obtain ⟨hitems, hscalar⟩ := (consumes_iff_of_ne hitem).mp hm
    by_cases hother : n = itemsNumber
    · subst hother
      obtain ⟨hwire, item, rfl, hread⟩ := consumes_item_iff.mp hn
      refine ⟨⟨a.sequence, a.items ++ [item]⟩, consumes_item_iff.mpr ⟨hwire, item, rfl, hread⟩, ?_⟩
      apply (consumes_iff_of_ne hitem).mpr
      exact ⟨congrArg (· ++ [item]) hitems, hscalar⟩
    · obtain ⟨hitems', hscalar'⟩ := (consumes_iff_of_ne hother).mp hn
      obtain ⟨d, hfirst, hsecond⟩ := Values.independent_readField hne hscalar hscalar'
      refine ⟨⟨d.1, a.items⟩, (consumes_iff_of_ne hother).mpr ⟨rfl, hfirst⟩, ?_⟩
      exact (consumes_iff_of_ne hitem).mpr ⟨hitems'.trans hitems, hsecond⟩

theorem skips_readField : Skips readField declared := by
  intro number wire content hnumber hcontent p
  rw [declared, List.mem_cons, not_or] at hnumber
  apply (consumes_iff_of_ne hnumber.1).mpr
  exact ⟨rfl, Values.skips_readField (by decide) hnumber.2 hcontent _⟩

/-! ### Packs and their extensions -/

/-- The pieces of the scalar fields leave the items as they are. -/
theorem runs_scalars {u w : Values packFields} {l : List Piece} (items : List PowerItem)
    (hl : ∀ piece ∈ l, piece.number ≠ itemsNumber)
    (h : Runs (Values.readField packName Wire.maxDepth packFields) u l w) :
    Runs readField ⟨u.1, items⟩ l ⟨w.1, items⟩ := by
  induction h with
  | nil u => exact .nil _
  | @cons u v w piece l takes _ ih =>
    obtain ⟨wire, content, hkey, hread⟩ := takes
    have hne := hl piece List.mem_cons_self
    have htaken : Consumes readField ⟨u.1, items⟩ piece.number wire content ⟨v.1, items⟩ :=
      (consumes_iff_of_ne hne).mpr ⟨rfl, hread⟩
    exact .cons ⟨wire, content, hkey, htaken⟩
      (ih fun other hother => hl other (List.mem_cons_of_mem piece hother))

/-- The pieces of items are read as the items, each of which may be an extension. -/
theorem runs_items {items : List PowerItem} {bodies : List (List UInt8)}
    (hitems : List.Forall₂ (Values.IsExtension powerFields) items bodies) (p : PowerPack)
    (hlength : (joined (bodies.map itemPiece)).length < 2 ^ 64) :
    Runs readField p (bodies.map itemPiece) ⟨p.sequence, p.items ++ items⟩ := by
  induction hitems generalizing p with
  | nil =>
    rw [List.append_nil]
    exact .nil p
  | @cons item body items bodies hitem _ ih =>
    rw [List.map_cons, Wire.joined_cons, List.length_append] at hlength
    have hbody : body.length < 2 ^ 64 := by
      have hle := Wire.length_le_writeDelimited body
      simp only [itemPiece, List.length_append] at hlength
      omega
    have hlater := ih ⟨p.sequence, p.items ++ [item]⟩ (by omega)
    rw [List.append_assoc, List.singleton_append] at hlater
    refine .cons ⟨.delimited, Wire.writeDelimited body, fun rest => ?_, ?_⟩ hlater
    · rw [itemPiece, List.append_assoc]
      exact Wire.readKey_writeKey (by decide) (by decide) .delimited _
    · apply consumes_item_iff.mpr
      refine ⟨rfl, item, rfl, fun rest => ?_⟩
      exact Wire.readEmbedded_of_reads (fun _ _ _ _ _ _ hfield => Values.length_readField hfield)
        hbody (Values.reads_extension "PowerItem" (by decide) wellNumbered_powerFields hitem hbody
          rest)

/-- A field of a pack leaves no more bytes than there were. -/
theorem length_readField {p q : PowerPack} {number : Nat} {wire : Wire.WireType}
    {bytes rest : List UInt8} (h : readField p number wire bytes = .ok (q, rest)) :
    rest.length ≤ bytes.length := by
  rw [readField] at h
  split at h
  · by_cases hwire : wire = .delimited
    · rw [if_pos hwire] at h
      dsimp only at h
      split at h
      · rename_i hitem
        obtain ⟨_, rfl⟩ := Prod.mk.inj (Except.ok.inj h)
        exact Nat.le_of_lt (Wire.length_readEmbedded hitem)
      · cases h
    · rw [if_neg hwire] at h
      cases h
  · split at h
    · rename_i hscalar
      obtain ⟨_, rfl⟩ := Prod.mk.inj (Except.ok.inj h)
      exact Values.length_readField hscalar
    · cases h

/-- An extension of a pack is read as the pack. -/
theorem read_extension {p : PowerPack} {bytes : List UInt8} (h : IsExtension p bytes)
    (hlength : bytes.length < 2 ^ 64) : PowerPack.read bytes = .ok p := by
  obtain ⟨bodies, l, hitems, hl, rfl⟩ := h
  have hscalar : ∀ piece ∈ Values.pieces packFields p.scalars,
      piece.number ∈ packFields.map (·.number) :=
    fun _ hpiece => Values.number_mem_of_mem_pieces hpiece
  have hne : ∀ piece ∈ Values.pieces packFields p.scalars, piece.number ≠ itemsNumber := by
    intro piece hpiece heq
    have hnumber := hscalar piece hpiece
    rw [heq] at hnumber
    revert hnumber
    decide
  have hsteps := hl.steps (by
    intro piece hpiece
    rcases List.mem_append.mp hpiece with hpiece | hpiece
    · exact List.mem_cons_of_mem itemsNumber (hscalar piece hpiece)
    · obtain ⟨body, -, rfl⟩ := List.mem_map.mp hpiece
      exact List.mem_cons_self)
  have hle := hsteps.length_le
  rw [Wire.joined_append, List.length_append, Values.joined_pieces] at hle
  have hsequence := runs_scalars [] hne
    (Values.runs_pieces packName Wire.maxDepth wellNumbered_packFields p.scalars (by omega))
  have hruns := hsequence.append (runs_items hitems ⟨p.sequence, []⟩ (by omega))
  have hreads := (hruns.rearranged independent_readField skips_readField hsteps).reads []
  rw [List.append_nil] at hreads
  exact Wire.readMessage_of_reads (fun _ _ _ _ _ _ hfield => length_readField hfield) hreads

/-- A written pack is an extension of itself. -/
theorem isExtension_write (p : PowerPack) : IsExtension p p.write := by
  have hpieces : ∀ piece ∈ Values.pieces packFields p.scalars
      ++ (p.items.map (Values.write powerFields)).map itemPiece, piece.number ∈ declared := by
    intro piece hpiece
    rcases List.mem_append.mp hpiece with hpiece | hpiece
    · exact List.mem_cons_of_mem itemsNumber (Values.number_mem_of_mem_pieces hpiece)
    · obtain ⟨body, -, rfl⟩ := List.mem_map.mp hpiece
      exact List.mem_cons_self
  refine ⟨p.items.map (Values.write powerFields), _, ?_, .refl hpieces, ?_⟩
  · rw [List.forall₂_map_right_iff, List.forall₂_same]
    exact fun item _ => Values.isExtension_write item
  · rw [Wire.joined_append, Values.joined_pieces, joined, List.map_map, List.flatMap_map]
    rfl

/-- A pack is read as it was written. -/
theorem read_write (p : PowerPack) (hlength : p.write.length < 2 ^ 64) :
    PowerPack.read p.write = .ok p :=
  read_extension (isExtension_write p) hlength

end PowerPack

end PowerTelemetry.Frame
