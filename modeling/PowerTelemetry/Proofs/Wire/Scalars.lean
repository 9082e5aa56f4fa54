import PowerTelemetry.Proofs.Wire.Pieces
/-!
# Messages of scalar fields

A message of scalar fields is read by an independent reader that passes over unknown
fields (`Values.independent_readField`, `Values.skips_readField`), and the pieces of a
written message give the message (`Values.runs_pieces`).  So a message whose fields have
different numbers is read as it was written (`Values.readMessage_write`), and so is every
extension of it (`Values.reads_extension`).
-/

namespace PowerTelemetry.Wire

namespace Values

variable {message : String} {depth : Nat} {f : Field} {fs : List Field}

/-! ## Readers -/

theorem skips_readField (hdepth : 0 < depth) :
    Skips (readField message depth fs) (fs.map (·.number)) := by
  intro number wire content hnumber hcontent v rest
  induction fs with
  | nil => rw [readField, skip_append hcontent hdepth]
  | cons f fs ih =>
    rw [List.map_cons, List.mem_cons, not_or] at hnumber
    rw [readField, if_neg (Ne.symm hnumber.1), ih hnumber.2]
    rfl

/-- The first field takes in what has its number. -/
theorem consumes_self_iff {v w : Values (f :: fs)} {wire : WireType} {content : List UInt8} :
    Consumes (readField message depth (f :: fs)) v f.number wire content w ↔
      ∃ x, w = cons (some x) v.2 ∧
        ∀ rest, f.kind.read wire (content ++ rest) = .ok (x, rest) := by
  constructor
  · intro h
    obtain ⟨x, hw⟩ : ∃ x, w = cons (some x) v.2 := by
      have hread := h []
      rw [readField, if_pos rfl] at hread
      split at hread
      · exact ⟨_, (Prod.mk.inj (Except.ok.inj hread)).1.symm⟩
      · cases hread
    refine ⟨x, hw, ?_⟩
    intro rest
    have hread := h rest
    rw [readField, if_pos rfl, hw] at hread
    split at hread
    · rename_i y after hkind
      obtain ⟨hvalues, rfl⟩ := Prod.mk.inj (Except.ok.inj hread)
      obtain rfl := Option.some.inj (Prod.mk.inj hvalues).1
      exact hkind
    · cases hread
  · rintro ⟨x, rfl, hkind⟩ rest
    rw [readField, if_pos rfl, hkind]
    rfl

/-- What has another number is left to the later fields. -/
theorem consumes_iff_of_ne {v w : Values (f :: fs)} {number : Nat} {wire : WireType}
    {content : List UInt8} (hne : f.number ≠ number) :
    Consumes (readField message depth (f :: fs)) v number wire content w ↔
      w.1 = v.1 ∧ Consumes (readField message depth fs) v.2 number wire content w.2 := by
  constructor
  · intro h
    have hread : ∀ rest, w.1 = v.1 ∧
        readField message depth fs v.2 number wire (content ++ rest) = .ok (w.2, rest) := by
      intro rest
      have hread := h rest
      rw [readField, if_neg hne] at hread
      split at hread
      · rename_i u after hlater
        obtain ⟨rfl, rfl⟩ := Prod.mk.inj (Except.ok.inj hread)
        exact ⟨rfl, hlater⟩
      · cases hread
    exact ⟨(hread []).1, fun rest => (hread rest).2⟩
  · rintro ⟨hfirst, hlater⟩ rest
    rw [readField, if_neg hne, hlater, ← hfirst]
    rfl

theorem independent_readField : Independent (readField message depth fs) := by
  intro u v w m n k l x y hne hm hn
  induction fs with
  | nil => exact ⟨u, hn, hm⟩
  | cons f fs ih =>
    by_cases hfm : f.number = m
    · subst hfm
      obtain ⟨z, rfl, hkind⟩ := consumes_self_iff.mp hm
      obtain ⟨hfirst, hlater⟩ := (consumes_iff_of_ne hne).mp hn
      refine ⟨cons u.1 w.2, (consumes_iff_of_ne hne).mpr ⟨rfl, hlater⟩, ?_⟩
      exact consumes_self_iff.mpr ⟨z, Prod.ext hfirst rfl, hkind⟩
    · obtain ⟨hfirst, hlater⟩ := (consumes_iff_of_ne hfm).mp hm
      by_cases hfn : f.number = n
      · subst hfn
        obtain ⟨z, rfl, hkind⟩ := consumes_self_iff.mp hn
        refine ⟨cons (some z) u.2, consumes_self_iff.mpr ⟨z, rfl, hkind⟩, ?_⟩
        exact (consumes_iff_of_ne hfm).mpr ⟨rfl, hlater⟩
      · obtain ⟨hfirst', hlater'⟩ := (consumes_iff_of_ne hfn).mp hn
        obtain ⟨d, hd, hd'⟩ := ih hlater hlater'
        refine ⟨cons u.1 d, (consumes_iff_of_ne hfn).mpr ⟨rfl, hd⟩, ?_⟩
        exact (consumes_iff_of_ne hfm).mpr ⟨hfirst'.trans hfirst, hd'⟩

/-! ## Written messages -/

/-- The pieces of a written message, one for each field that is there. -/
def pieces : (fs : List Field) → Values fs → List Piece
  | [], _ => []
  | _ :: fs, (none, rest) => pieces fs rest
  | f :: fs, (some x, rest) =>
    ⟨f.number, writeKey f.number f.kind.wire ++ f.kind.write x⟩ :: pieces fs rest

theorem joined_pieces (v : Values fs) : joined (pieces fs v) = write fs v := by
  induction fs with
  | nil => rfl
  | cons f fs ih =>
    obtain ⟨x, w⟩ := v
    cases x with
    | none => exact ih w
    | some x => rw [pieces, joined_cons, write, ih w]

theorem number_mem_of_mem_pieces {v : Values fs} {p : Piece} (h : p ∈ pieces fs v) :
    p.number ∈ fs.map (·.number) := by
  induction fs with
  | nil => cases h
  | cons f fs ih =>
    obtain ⟨x, w⟩ := v
    cases x with
    | none => exact List.mem_cons_of_mem f.number (ih h)
    | some x =>
      rcases List.mem_cons.mp h with rfl | h
      · exact List.mem_cons_self
      · exact List.mem_cons_of_mem f.number (ih h)

theorem takes_cons {u w : Values fs} {p : Piece} (x : Option f.kind.Carrier)
    (hne : f.number ≠ p.number) (h : Takes (readField message depth fs) u p w) :
    Takes (readField message depth (f :: fs)) (cons x u) p (cons x w) := by
  obtain ⟨wire, content, hkey, hread⟩ := h
  refine ⟨wire, content, hkey, ?_⟩
  exact (consumes_iff_of_ne (v := cons x u) (w := cons x w) hne).mpr ⟨rfl, hread⟩

/-- Pieces of later fields leave the first field as it is. -/
theorem runs_cons {u w : Values fs} {l : List Piece} (x : Option f.kind.Carrier)
    (hl : ∀ p ∈ l, f.number ≠ p.number) (h : Runs (readField message depth fs) u l w) :
    Runs (readField message depth (f :: fs)) (cons x u) l (cons x w) := by
  induction h with
  | nil u => exact .nil (cons x u)
  | cons takes _ ih =>
    exact .cons (takes_cons x (hl _ List.mem_cons_self) takes)
      (ih fun p hp => hl p (List.mem_cons_of_mem _ hp))

/-- The pieces of a written message give the message. -/
theorem runs_pieces (message : String) (depth : Nat) (hfs : WellNumbered fs) (v : Values fs)
    (hlength : (write fs v).length < 2 ^ 64) :
    Runs (readField message depth fs) (empty fs) (pieces fs v) v := by
  induction fs with
  | nil => exact .nil v
  | cons f fs ih =>
    obtain ⟨x, w⟩ := v
    have hne : ∀ p ∈ pieces fs w, f.number ≠ p.number := by
      intro p hp
      obtain ⟨g, hg, hnumber⟩ := List.mem_map.mp (number_mem_of_mem_pieces hp)
      rw [← hnumber]
      exact hfs.number_ne hg
    cases x with
    | none => exact runs_cons none hne (ih hfs.tail w hlength)
    | some x =>
      obtain ⟨hpos, hlt⟩ := hfs.fits f List.mem_cons_self
      simp only [write, List.length_append] at hlength
      have hlater := runs_cons (some x) hne (ih hfs.tail w (by omega))
      refine .cons ⟨f.kind.wire, f.kind.write x, ?_, ?_⟩ hlater
      · intro rest
        rw [List.append_assoc]
        exact readKey_writeKey hpos hlt f.kind.wire _
      · apply consumes_self_iff.mpr
        refine ⟨x, rfl, fun rest => ?_⟩
        rw [Kind.read, if_pos rfl]
        exact f.kind.readContent_write x (by omega) rest

/-- The run over a written message. -/
theorem reads_write (message : String) (depth : Nat) (hfs : WellNumbered fs) (v : Values fs)
    (hlength : (write fs v).length < 2 ^ 64) (rest : List UInt8) :
    Reads (readField message depth fs) (empty fs) (write fs v ++ rest) v rest := by
  rw [← joined_pieces]
  exact (runs_pieces message depth hfs v hlength).reads rest

/-- A written message is read as it was written. -/
theorem readMessage_write (message : String) (depth : Nat) (hfs : WellNumbered fs) (v : Values fs)
    (hlength : (write fs v).length < 2 ^ 64) :
    readMessage (readField message depth fs) (empty fs) (write fs v) = .ok v := by
  have hreads := reads_write message depth hfs v hlength []
  rw [List.append_nil] at hreads
  exact readMessage_of_reads (fun _ _ _ _ _ _ hfield => length_readField hfield) hreads

/-! ## Extensions -/

/-- Bytes that hold the fields of a message in some order, with unknown fields anywhere
between them. -/
def IsExtension (fs : List Field) (v : Values fs) (bytes : List UInt8) : Prop :=
  ∃ l, Rearranged (fs.map (·.number)) (pieces fs v) l ∧ bytes = joined l

/-- A written message is an extension of itself. -/
theorem isExtension_write (v : Values fs) : IsExtension fs v (write fs v) :=
  ⟨pieces fs v, .refl fun _ hp => number_mem_of_mem_pieces hp, (joined_pieces v).symm⟩

/-- An extension of a message is read as the message. -/
theorem reads_extension (message : String) {depth : Nat} (hdepth : 0 < depth)
    (hfs : WellNumbered fs) {v : Values fs} {bytes : List UInt8} (h : IsExtension fs v bytes)
    (hlength : bytes.length < 2 ^ 64) (rest : List UInt8) :
    Reads (readField message depth fs) (empty fs) (bytes ++ rest) v rest := by
  obtain ⟨l, hl, rfl⟩ := h
  have hsteps := hl.steps fun _ hp => number_mem_of_mem_pieces hp
  have hwritten : (write fs v).length < 2 ^ 64 := by
    rw [← joined_pieces]
    exact Nat.lt_of_le_of_lt hsteps.length_le hlength
  have hruns := runs_pieces message depth hfs v hwritten
  exact (hruns.rearranged independent_readField (skips_readField hdepth) hsteps).reads rest

/-- An extension that stands alone is read as the message. -/
theorem readMessage_extension (message : String) {depth : Nat} (hdepth : 0 < depth)
    (hfs : WellNumbered fs) {v : Values fs} {bytes : List UInt8} (h : IsExtension fs v bytes)
    (hlength : bytes.length < 2 ^ 64) :
    readMessage (readField message depth fs) (empty fs) bytes = .ok v := by
  have hreads := reads_extension message hdepth hfs h hlength []
  rw [List.append_nil] at hreads
  exact readMessage_of_reads (fun _ _ _ _ _ _ hfield => length_readField hfield) hreads

end Values

end PowerTelemetry.Wire
