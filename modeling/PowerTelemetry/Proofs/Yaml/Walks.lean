import PowerTelemetry.Proofs.Yaml.Scanning
/-!
# Walks of the scanner

The scanner goes from token to token: over the space in front of the next one (`ready?`), and
over the token itself (`token?`).  `walk?` goes on to the end, `upTo?` to the first token that
starts behind a place, and a walk to the end leads over that token (`walk?_of_upTo?`).

A walk does the same in two texts with different ends: up to the ends (`twin_upTo?`), and behind
different fronts up to the end (`twin_walk?`).
-/

namespace PowerTelemetry.Yaml

namespace Scanner

variable {s s' : Scanner}

/-! ## Between tokens -/

/-- A space, or a tab where it counts as one. -/
def isSpace (s : Scanner) (ch : Char) : Bool :=
  ch == ' ' || ((s.flow != 0 || !s.keyAllowed) && ch == '\t')

theorem isBlank_of_isSpace {ch : Char} (h : s.isSpace ch = true) : isBlank ch = true := by
  simp only [isSpace, Bool.or_eq_true, Bool.and_eq_true, beq_iff_eq] at h
  rcases h with rfl | ⟨-, rfl⟩ <;> rfl

theorem not_isBreak_of_isSpace {ch : Char} (h : s.isSpace ch = true) : isBreak ch = false :=
  not_isBreak_of_isBlank (isBlank_of_isSpace h)

/-- The place behind the blanks and the comment of a line. -/
def spaceEnd (s : Scanner) : Cursor :=
  let place := ((skipMark s.place).span s.isSpace).2
  if place.startsWith '#' then place.skipLine else place

/-- The scanner in the next line. -/
def nextLine (s : Scanner) : Scanner :=
  { s with
    place := s.spaceEnd.takeBreak.2
    keyAllowed := if s.flow = 0 then true else s.keyAllowed }

theorem skipSpace_succ (n : Nat) (s : Scanner) :
    skipSpace (n + 1) s =
      if s.spaceEnd.head?.any isBreak then skipSpace n s.nextLine
      else { s with place := s.spaceEnd } := rfl

theorem passes_skipMark (c : Cursor) : c.Passes (skipMark c) := by
  rw [skipMark]
  split
  · rename_i hmark
    have hhead : c.head? = some byteOrderMark := by simpa [Cursor.startsWith] using hmark.2
    exact Cursor.passes_advance_one hhead (by decide)
  · exact .refl c

theorem passes_spaceEnd (s : Scanner) : s.place.Passes s.spaceEnd := by
  have hspaces : s.place.Passes ((skipMark s.place).span s.isSpace).2 :=
    (passes_skipMark s.place).trans (Cursor.passes_span fun _ => not_isBreak_of_isSpace)
  exact hspaces.trans (mirrored_skipComment _).passes

theorem passes_nextLine (s : Scanner) : s.place.Passes s.nextLine.place :=
  s.passes_spaceEnd.trans (Cursor.passes_takeBreak _)

theorem length_nextLine_lt (h : s.spaceEnd.head?.any isBreak = true) :
    s.nextLine.place.rest.length < s.place.rest.length :=
  (Cursor.length_takeBreak_lt h).trans_le s.passes_spaceEnd.length_le

theorem passes_skipSpace (n : Nat) (s : Scanner) : s.place.Passes (skipSpace n s).place := by
  induction n generalizing s with
  | zero => exact .refl _
  | succ n ih =>
    rw [skipSpace_succ]
    split
    · exact (passes_nextLine s).trans (ih _)
    · exact s.passes_spaceEnd

theorem keys_skipSpace (n : Nat) (s : Scanner) : (skipSpace n s).keys = s.keys := by
  induction n generalizing s with
  | zero => rfl
  | succ n ih =>
    rw [skipSpace_succ]
    split
    · exact ih _
    · rfl

end Scanner

namespace Ends.TwinScan

open Scanner (skipMark)

variable {e : Ends} {old new : List Token} {s t : Scanner}

theorem skipMark (h : e.TwinScan old new s t) (hbounds : e.Bounds (skipMark s.place)) :
    e.Twin (Scanner.skipMark s.place) (Scanner.skipMark t.place) := by
  simp only [Scanner.skipMark, h.place.column, h.place.startsWith] at hbounds ⊢
  split at hbounds
  · rename_i hmark
    rw [if_pos hmark, if_pos hmark]
    exact h.place.advance hbounds
  · rename_i hmark
    rw [if_neg hmark, if_neg hmark]
    exact h.place

theorem spaceEnd (h : e.TwinScan old new s t) (hbounds : e.Bounds s.spaceEnd) :
    e.Twin s.spaceEnd t.spaceEnd := by
  have hspace : t.isSpace = s.isSpace := by
    funext ch
    simp only [Scanner.isSpace, h.flow, h.keyAllowed]
  have hspaces (hb : e.Bounds ((Scanner.skipMark s.place).span s.isSpace).2) :
      e.Twin ((Scanner.skipMark s.place).span s.isSpace).2
        ((Scanner.skipMark t.place).span t.isSpace).2 := by
    rw [hspace]
    refine ((h.skipMark (hb.of_passes ?_)).span hb).2
    exact Cursor.passes_span fun _ => Scanner.not_isBreak_of_isSpace
  have hcomment := mirrored_skipComment ((Scanner.skipMark s.place).span s.isSpace).2
  exact hcomment.twin_move (hspaces (hbounds.of_passes hcomment.passes)) hbounds

theorem nextLine (h : e.TwinScan old new s t) (hbounds : e.Bounds s.nextLine.place) :
    e.TwinScan old new s.nextLine t.nextLine where
  __ := h
  place := ((h.spaceEnd (hbounds.of_passes (Cursor.passes_takeBreak _))).takeBreak hbounds).2
  keyAllowed := by simp only [Scanner.nextLine, h.flow, h.keyAllowed]

theorem skipSpace {n m : Nat} (h : e.TwinScan old new s t) (hn : s.place.rest.length < n)
    (hm : t.place.rest.length < m) (hbounds : e.Bounds (Scanner.skipSpace n s).place) :
    e.TwinScan old new (Scanner.skipSpace n s) (Scanner.skipSpace m t) := by
  induction n generalizing s t m with
  | zero => omega
  | succ n ih =>
    obtain ⟨m, rfl⟩ : ∃ k, m = k + 1 := ⟨m - 1, by omega⟩
    rw [Scanner.skipSpace_succ] at hbounds ⊢
    rw [Scanner.skipSpace_succ]
    split at hbounds
    · rename_i hbreak
      have hbounds₁ := hbounds.of_passes (Scanner.passes_skipSpace n s.nextLine)
      have hend := h.spaceEnd (hbounds₁.of_passes (Cursor.passes_takeBreak _))
      have hbreak' : t.spaceEnd.head?.any isBreak = true := hend.head? ▸ hbreak
      rw [if_pos hbreak, if_pos hbreak']
      have hlt := Scanner.length_nextLine_lt hbreak
      have hlt' := Scanner.length_nextLine_lt hbreak'
      exact ih (h.nextLine hbounds₁) (by omega) (by omega) hbounds
    · rename_i hbreak
      have hend := h.spaceEnd hbounds
      rw [if_neg hbreak, if_neg (hend.head? ▸ hbreak)]
      exact { h with place := hend }

end Ends.TwinScan

namespace Scanner

variable {s s' z : Scanner} {n m left : Nat} {ch : Char}

/-- The scanner at its next token. -/
def ready? (s : Scanner) : Option Scanner :=
  (skipSpace (s.place.rest.length + 1) s).dropStale?.map fun s => s.closeTo s.place.column

theorem ready?_eq_some (h : s.ready? = some s') :
    ∃ s₁, (skipSpace (s.place.rest.length + 1) s).dropStale? = some s₁ ∧
      s₁.closeTo s₁.place.column = s' :=
  Option.map_eq_some_iff.mp h

theorem place_dropStale? (h : s.dropStale? = some s') : s'.place = s.place := by
  obtain ⟨keys, -, rfl⟩ := Option.map_eq_some_iff.mp h
  rfl

theorem place_ready? (h : s.ready? = some s') :
    s'.place = (skipSpace (s.place.rest.length + 1) s).place := by
  obtain ⟨s₁, hdrop, rfl⟩ := ready?_eq_some h
  exact (stays_closeTo s₁ _).place.trans (place_dropStale? hdrop)

theorem passes_ready? (h : s.ready? = some s') : s.place.Passes s'.place :=
  place_ready? h ▸ passes_skipSpace _ s

theorem stillKey?_eq_some {c : Cursor} {k : KeyCandidate} {l : Option KeyCandidate}
    (h : stillKey? c l = some (some k)) : l = some k ∧ c.line ≤ k.line := by
  cases l with
  | none => cases h
  | some l =>
    simp only [stillKey?] at h
    split at h
    · split at h <;> simp at h
    · obtain rfl : l = k := by simpa using h
      exact ⟨rfl, by omega⟩

theorem exists_of_mem_mapM {α β : Type} {f : α → Option β} {l : List α} {l' : List β} {b : β}
    (h : l.mapM f = some l') (hb : b ∈ l') : ∃ a ∈ l, f a = some b := by
  induction l generalizing l' with
  | nil =>
    obtain rfl := Option.some.inj h
    cases hb
  | cons a l ih =>
    simp only [List.mapM_cons, Option.bind_eq_bind, Option.bind_eq_some_iff] at h
    obtain ⟨b', hb', rest, hrest, h⟩ := h
    obtain rfl := Option.some.inj h
    rcases List.mem_cons.mp hb with rfl | hmem
    · exact ⟨a, List.mem_cons_self, hb'⟩
    · obtain ⟨a', ha', heq⟩ := ih hrest hmem
      exact ⟨a', List.mem_cons_of_mem _ ha', heq⟩

/-- The candidates that are left are those of the line. -/
theorem keys_dropStale? {k : KeyCandidate} (h : s.dropStale? = some s') (hk : some k ∈ s'.keys) :
    some k ∈ s.keys ∧ s.place.line ≤ k.line := by
  obtain ⟨keys, hkeys, rfl⟩ := Option.map_eq_some_iff.mp h
  obtain ⟨l, hl, hstill⟩ := exists_of_mem_mapM hkeys hk
  obtain ⟨rfl, hline⟩ := stillKey?_eq_some hstill
  exact ⟨hl, hline⟩

theorem keys_closeTo (s : Scanner) (column : Int) : (s.closeTo column).keys = s.keys := by
  rw [closeTo]
  generalize s.outer.length + 1 = fuel
  induction fuel generalizing s with
  | zero => rfl
  | succ fuel ih =>
    rw [closeBlocks]
    split
    · exact ih _
    · rfl

theorem keys_ready? {k : KeyCandidate} (h : s.ready? = some s') (hk : some k ∈ s'.keys) :
    some k ∈ s.keys ∧ s'.place.line ≤ k.line := by
  obtain ⟨s₁, hdrop, rfl⟩ := ready?_eq_some h
  rw [keys_closeTo] at hk
  obtain ⟨hmem, hline⟩ := keys_dropStale? hdrop hk
  rw [keys_skipSpace] at hmem
  rw [(stays_closeTo s₁ _).place, place_dropStale? hdrop]
  exact ⟨hmem, hline⟩

/-! ## Walks to the end -/

theorem scan?_succ (n : Nat) (s : Scanner) :
    scan? (n + 1) s = s.ready?.bind fun s =>
      match s.place.head? with
      | none => s.finish?
      | some ch => (s.token? ch).bind (scan? n) := by
  rw [scan?, ready?]
  cases (skipSpace (s.place.rest.length + 1) s).dropStale? <;> rfl

/-- It does not matter how many tokens more there may be than there are characters. -/
theorem scan?_eq_of_length_lt (hn : s.place.rest.length < n) (hm : s.place.rest.length < m) :
    scan? n s = scan? m s := by
  induction n generalizing s m with
  | zero => omega
  | succ n ih =>
    obtain ⟨m, rfl⟩ : ∃ k, m = k + 1 := ⟨m - 1, by omega⟩
    rw [scan?_succ, scan?_succ]
    cases hready : s.ready? with
    | none => rfl
    | some s₁ =>
      cases hhead : s₁.place.head? with
      | none => simp [hhead]
      | some ch =>
        cases htoken : s₁.token? ch with
        | none => simp [hhead, htoken]
        | some s₂ =>
          have hle := (passes_ready? hready).length_le
          have hlt := (steps_token? hhead htoken).shorter
          simpa [hhead, htoken] using ih (s := s₂) (m := m) (by omega) (by omega)

/-- All that is left taken apart. -/
def walk? (s : Scanner) : Option Scanner :=
  scan? (s.place.rest.length + 1) s

/-- All that is left taken apart, by a scanner at a token. -/
def walkOn? (s : Scanner) : Option Scanner :=
  match s.place.head? with
  | none => s.finish?
  | some ch => (s.token? ch).bind walk?

theorem walk?_eq (s : Scanner) : s.walk? = s.ready?.bind walkOn? := by
  rw [walk?, scan?_succ]
  cases hready : s.ready? with
  | none => rfl
  | some s₁ =>
    simp only [Option.bind_some, walkOn?]
    cases hhead : s₁.place.head? with
    | none => rfl
    | some ch =>
      cases htoken : s₁.token? ch with
      | none => simp [htoken]
      | some s₂ =>
        have hle := (passes_ready? hready).length_le
        have hlt := (steps_token? hhead htoken).shorter
        simp only [htoken, Option.bind_some, walk?]
        exact scan?_eq_of_length_lt (by omega) (by omega)

theorem skipSpace_eq_of_length_lt (hn : s.place.rest.length < n) (hm : s.place.rest.length < m) :
    skipSpace n s = skipSpace m s := by
  induction n generalizing s m with
  | zero => omega
  | succ n ih =>
    obtain ⟨m, rfl⟩ : ∃ k, m = k + 1 := ⟨m - 1, by omega⟩
    rw [skipSpace_succ, skipSpace_succ]
    split
    · rename_i hbreak
      have hlt := length_nextLine_lt hbreak
      exact ih (by omega) (by omega)
    · rfl

/-- A walk goes on in the next line. -/
theorem walk?_nextLine (h : s.spaceEnd.head?.any isBreak = true) : s.walk? = s.nextLine.walk? := by
  have hspace : skipSpace (s.place.rest.length + 1) s =
      skipSpace (s.nextLine.place.rest.length + 1) s.nextLine := by
    rw [skipSpace_succ, if_pos h]
    exact skipSpace_eq_of_length_lt (length_nextLine_lt h) (Nat.lt_succ_self _)
  rw [walk?_eq, walk?_eq, ready?, ready?, hspace]

/-- The scanner at the first token with so many characters left or fewer. -/
def upTo? (left : Nat) : (fuel : Nat) → Scanner → Option Scanner
  | 0, _ => none
  | fuel + 1, s => do
    let s ← s.ready?
    if s.place.rest.length ≤ left then return s
    else upTo? left fuel (← s.token? (← s.place.head?))

theorem passes_upTo? (h : upTo? left n s = some s') : s.place.Passes s'.place := by
  induction n generalizing s with
  | zero => cases h
  | succ n ih =>
    obtain ⟨s₁, hready, h⟩ := Option.bind_eq_some_iff.mp h
    have hpasses := passes_ready? hready
    split at h
    · obtain rfl := Option.some.inj h
      exact hpasses
    · obtain ⟨ch, hhead, h⟩ := Option.bind_eq_some_iff.mp h
      obtain ⟨s₂, htoken, h⟩ := Option.bind_eq_some_iff.mp h
      exact hpasses.trans ((steps_token? hhead htoken).passes.trans (ih h))

/-- A walk to the end leads over the first token behind a place. -/
theorem walk?_of_upTo? (h : upTo? left n s = some s') : s.walk? = s'.walkOn? := by
  induction n generalizing s with
  | zero => cases h
  | succ n ih =>
    obtain ⟨s₁, hready, h⟩ := Option.bind_eq_some_iff.mp h
    rw [walk?_eq, hready, Option.bind_some]
    split at h
    · obtain rfl := Option.some.inj h
      rfl
    · obtain ⟨ch, hhead, h⟩ := Option.bind_eq_some_iff.mp h
      obtain ⟨s₂, htoken, h⟩ := Option.bind_eq_some_iff.mp h
      rw [walkOn?, hhead]
      dsimp only
      rw [htoken, Option.bind_some, ih h]

end Scanner

/-! ## Twins -/

namespace Ends.TwinScan

open Scanner

variable {e : Ends} {old new : List Token} {s s' t z : Scanner} {n m : Nat}

theorem ready? (h : e.TwinScan old new s t) (hready : s.ready? = some s')
    (hbounds : e.Bounds s'.place) : ∃ t', t.ready? = some t' ∧ e.TwinScan old new s' t' := by
  obtain ⟨s₁, hdrop, rfl⟩ := ready?_eq_some hready
  rw [place_ready? hready] at hbounds
  have hspace := h.skipSpace (Nat.lt_succ_self _) (Nat.lt_succ_self _) hbounds
  obtain ⟨t₁, hdrop', htwin⟩ := hspace.dropStale? hdrop
  refine ⟨t₁.closeTo t₁.place.column, by simp [Scanner.ready?, hdrop'], ?_⟩
  rw [htwin.place.column]
  exact htwin.closeTo _

/-- Twins of a scanner behind whose places there is the same have the same tokens to come. -/
theorem walk? (h : e.TwinScan old new s t) (hwalk : s.walk? = some z) (hends : e.left = []) :
    ∃ z', t.walk? = some z' ∧ ∃ later, z.tokens = later ++ old ∧ z'.tokens = later ++ new := by
  have hbounds (c : Cursor) : e.Bounds c := by simp [Ends.Bounds, hends]
  induction hn : s.place.rest.length using Nat.strong_induction_on generalizing s t with
  | h n ih =>
    rw [walk?_eq] at hwalk
    obtain ⟨s₁, hready, hwalk⟩ := Option.bind_eq_some_iff.mp hwalk
    obtain ⟨t₁, hready', htwin⟩ := h.ready? hready (hbounds _)
    rw [walk?_eq, hready', Option.bind_some]
    rw [walkOn?] at hwalk ⊢
    rw [htwin.place.head?]
    cases hhead : s₁.place.head? with
    | none =>
      simp only [hhead] at hwalk
      obtain ⟨z', hfinish, htwin'⟩ := (htwin.closeTo (-1)).dropKey? hwalk
      exact ⟨z', hfinish, htwin'.tokens⟩
    | some ch =>
      simp only [hhead] at hwalk
      obtain ⟨s₂, htoken, hwalk⟩ := Option.bind_eq_some_iff.mp hwalk
      have hsteps := steps_token? hhead htoken
      obtain ⟨t₂, htoken', htwin'⟩ := hsteps.twin htwin (hbounds _)
      have hle := (passes_ready? hready).length_le
      have hlt := hsteps.shorter
      obtain ⟨z', hwalk', htokens⟩ := ih _ (by omega) htwin' hwalk rfl
      exact ⟨z', by simpa [htoken'] using hwalk', htokens⟩

/-- Twins come to the ends alike. -/
theorem upTo? (h : e.TwinScan old new s t) (hwalk : upTo? e.left.length n s = some s')
    (hend : s'.place.rest.length = e.left.length) (hm : t.place.rest.length < m) :
    ∃ t', Scanner.upTo? e.right.length m t = some t' ∧ e.TwinScan old new s' t' := by
  induction n generalizing s t m with
  | zero => cases hwalk
  | succ n ih =>
    obtain ⟨m, rfl⟩ : ∃ k, m = k + 1 := ⟨m - 1, by omega⟩
    obtain ⟨s₁, hready, hwalk⟩ := Option.bind_eq_some_iff.mp hwalk
    have hfront {c d : Cursor} (htwin : e.Twin c d) :
        d.rest.length ≤ e.right.length ↔ c.rest.length ≤ e.left.length := by
      obtain ⟨front, hc, hd⟩ := htwin.rest
      simp only [hc, hd, List.length_append]
      omega
    split at hwalk
    · obtain rfl := Option.some.inj hwalk
      obtain ⟨t₁, hready', htwin⟩ := h.ready? hready hend.ge
      refine ⟨t₁, ?_, htwin⟩
      simp only [Scanner.upTo?, hready', Option.bind_eq_bind, Option.bind_some,
        if_pos ((hfront htwin.place).mpr hend.le)]
      rfl
    · rename_i hmore
      obtain ⟨ch, hhead, hwalk⟩ := Option.bind_eq_some_iff.mp hwalk
      obtain ⟨s₂, htoken, hwalk⟩ := Option.bind_eq_some_iff.mp hwalk
      have hsteps := steps_token? hhead htoken
      have hbounds : e.Bounds s₂.place := hend.ge.trans (passes_upTo? hwalk).length_le
      obtain ⟨t₁, hready', htwin⟩ := h.ready? hready (hbounds.of_passes hsteps.passes)
      obtain ⟨t₂, htoken', htwin'⟩ := hsteps.twin htwin hbounds
      have hhead' : t₁.place.head? = some ch := htwin.place.head? ▸ hhead
      have hle := (passes_ready? hready').length_le
      have hlt := (steps_token? hhead' htoken').shorter
      obtain ⟨t', hwalk', htwin''⟩ := ih htwin' hwalk (m := m) (by omega)
      refine ⟨t', ?_, htwin''⟩
      simp only [Scanner.upTo?, hready', Option.bind_eq_bind, Option.bind_some, hhead', htoken',
        if_neg (fun hle => hmore ((hfront htwin.place).mp hle))]
      exact hwalk'

end Ends.TwinScan

namespace Scanner

/-! ## Where candidates stand -/

/-- A candidate for a key is a token that starts somewhere before a place in a text. -/
def Precedes (text : List Char) (c : Cursor) (k : KeyCandidate) : Prop :=
  ∃ c₀ : Cursor, c₀.rest <:+ text ∧ c₀.line = k.line ∧ c₀.Passes c ∧
    c.rest.length < c₀.rest.length ∧ ∃ ch, c₀.head? = some ch ∧ isBlank ch = false

/-- The scanner has a place in the text.  All candidates are tokens before it. -/
structure Within (text : List Char) (s : Scanner) : Prop where
  suffix : s.place.rest <:+ text
  keys : ∀ k, some k ∈ s.keys → Precedes text s.place k

variable {text : List Char} {s s' : Scanner} {n left : Nat} {ch : Char}

theorem Passes.suffix {c c' : Cursor} (h : c.Passes c') : c'.rest <:+ c.rest := by
  obtain ⟨taken, hrest, -⟩ := h
  exact ⟨taken, hrest.symm⟩

theorem Precedes.passes {c c' : Cursor} {k : KeyCandidate} (h : Precedes text c k)
    (hpasses : c.Passes c') : Precedes text c' k := by
  obtain ⟨c₀, hsuffix, hline, hbefore, hlt, hhead⟩ := h
  exact ⟨c₀, hsuffix, hline, hbefore.trans hpasses, hpasses.length_le.trans_lt hlt, hhead⟩

theorem within_start (text : List Char) : Within text (start text) where
  suffix := List.suffix_rfl
  keys k hk := by simp [start] at hk

theorem Within.ready? (h : Within text s) (hready : s.ready? = some s') : Within text s' where
  suffix := (Passes.suffix (passes_ready? hready)).trans h.suffix
  keys k hk := (h.keys k (keys_ready? hready hk).1).passes (passes_ready? hready)

theorem Within.token? (h : Within text s) (hhead : s.place.head? = some ch)
    (htoken : s.token? ch = some s') : Within text s' := by
  have htakes := (steps_token? hhead htoken).toTakes
  refine ⟨(Passes.suffix htakes.passes).trans h.suffix, fun k hk => ?_⟩
  rcases htakes.keys k hk with hold | hline
  · exact (h.keys k hold).passes htakes.passes
  · obtain ⟨ch, hstart, hblank, -⟩ := htakes.start
    exact ⟨s.place, h.suffix, hline.symm, htakes.passes, htakes.shorter, ch, hstart, hblank⟩

theorem Within.upTo? (h : Within text s) (hwalk : upTo? left n s = some s') : Within text s' := by
  induction n generalizing s with
  | zero => cases hwalk
  | succ n ih =>
    obtain ⟨s₁, hready, hwalk⟩ := Option.bind_eq_some_iff.mp hwalk
    have hwithin := h.ready? hready
    split at hwalk
    · obtain rfl := Option.some.inj hwalk
      exact hwithin
    · obtain ⟨ch, hhead, hwalk⟩ := Option.bind_eq_some_iff.mp hwalk
      obtain ⟨s₂, htoken, hwalk⟩ := Option.bind_eq_some_iff.mp hwalk
      exact ih (hwithin.token? hhead htoken) hwalk

/-- The last line of a text is blank. -/
def EndsBlank (front : List Char) : Prop :=
  (front.reverse.takeWhile inLine).all isBlank = true

instance (front : List Char) : Decidable (EndsBlank front) :=
  inferInstanceAs (Decidable (_ = true))

theorem line_le_of_upTo? {k : KeyCandidate} (hwalk : upTo? left n s = some s')
    (hk : some k ∈ s'.keys) : s'.place.line ≤ k.line := by
  induction n generalizing s with
  | zero => cases hwalk
  | succ n ih =>
    obtain ⟨s₁, hready, hwalk⟩ := Option.bind_eq_some_iff.mp hwalk
    split at hwalk
    · obtain rfl := Option.some.inj hwalk
      exact (keys_ready? hready hk).2
    · obtain ⟨ch, hhead, hwalk⟩ := Option.bind_eq_some_iff.mp hwalk
      obtain ⟨s₂, htoken, hwalk⟩ := Option.bind_eq_some_iff.mp hwalk
      exact ih hwalk

/-- No block is open that starts behind a column. -/
theorem indent_closeTo {column : Int} (hcolumn : -1 ≤ column) (hflow : (s.closeTo column).flow = 0) :
    (s.closeTo column).indent ≤ column := by
  have hclose (fuel : Nat) (s : Scanner) (hfuel : s.outer.length < fuel ∨ s.indent ≤ column)
      (hflow : (closeBlocks column fuel s).flow = 0) :
      (closeBlocks column fuel s).indent ≤ column := by
    induction fuel generalizing s with
    | zero => exact hfuel.resolve_left (Nat.not_lt_zero _)
    | succ fuel ih =>
      rw [closeBlocks] at hflow ⊢
      split at hflow
      · rename_i hopen
        rw [if_pos hopen]
        refine ih _ ?_ hflow
        cases houter : s.outer with
        | nil => exact .inr hcolumn
        | cons i outer =>
          rw [houter] at hfuel
          simp only [List.length_cons] at hfuel
          left
          simp only [List.drop_succ_cons, List.drop_zero]
          omega
      · rename_i hclosed
        rw [if_neg hclosed]
        by_contra hlt
        exact hclosed ⟨hflow, by omega⟩
  exact hclose _ s (.inl (Nat.lt_succ_self _)) hflow

theorem indent_le_of_upTo? (hwalk : upTo? left n s = some s') (hflow : s'.flow = 0) :
    s'.indent ≤ s'.place.column := by
  induction n generalizing s with
  | zero => cases hwalk
  | succ n ih =>
    obtain ⟨s₁, hready, hwalk⟩ := Option.bind_eq_some_iff.mp hwalk
    split at hwalk
    · obtain rfl := Option.some.inj hwalk
      obtain ⟨s₂, hdrop, rfl⟩ := ready?_eq_some hready
      rw [(stays_closeTo s₂ _).place]
      exact indent_closeTo (by omega) hflow
    · obtain ⟨ch, hhead, hwalk⟩ := Option.bind_eq_some_iff.mp hwalk
      obtain ⟨s₂, htoken, hwalk⟩ := Option.bind_eq_some_iff.mp hwalk
      exact ih hwalk

/-- Where only blanks are before a token in its line, there is no candidate. -/
theorem keys_eq_none (h : Within text s) (hwalk : upTo? left n s = some s') {front : List Char}
    (htext : text = front ++ s'.place.rest) (hblank : EndsBlank front) (k : Option KeyCandidate)
    (hk : k ∈ s'.keys) : k = none := by
  cases k with
  | none => rfl
  | some k =>
    obtain ⟨c, ⟨pre, hpre⟩, hline, hpasses, hlt, ch, hhead, hnonblank⟩ :=
      (h.upTo? hwalk).keys k hk
    obtain ⟨taken, hrest, hle, hbreaks⟩ := hpasses
    have hsame := hbreaks (le_antisymm (hline ▸ line_le_of_upTo? hwalk hk) hle)
    have hfront : front = pre ++ taken := by
      rw [hrest, ← List.append_assoc] at hpre
      exact List.append_cancel_right (htext.symm.trans hpre.symm)
    obtain ⟨back, rfl⟩ : ∃ back, taken = ch :: back := by
      cases taken with
      | nil => simp [hrest] at hlt
      | cons a back =>
        obtain rfl : a = ch := by simpa [Cursor.head?, hrest] using hhead
        exact ⟨back, rfl⟩
    have hmem : ch ∈ front.reverse.takeWhile inLine := by
      rw [hfront, List.reverse_append, List.takeWhile_append_of_pos]
      · simp
      · intro b hb
        simpa [inLine] using hsame b (List.mem_reverse.mp hb)
    have := List.all_eq_true.mp hblank ch hmem
    simp [hnonblank] at this

end Scanner

end PowerTelemetry.Yaml
