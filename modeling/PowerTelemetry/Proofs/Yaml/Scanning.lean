import Mathlib.Data.List.Forall2
import PowerTelemetry.Proofs.Yaml.Tags
import PowerTelemetry.Yaml.Scanner
/-!
# Twin scanners

Two scanners are twins if they are at twin places and in the same state, but for tokens that
they have taken before.
-/

namespace PowerTelemetry.Yaml

/-! ## States -/

/-- Candidates at twin places, which stand behind so many tokens. -/
inductive Ends.TwinKey (e : Ends) (floor : Nat) : Option KeyCandidate → Option KeyCandidate → Prop where
  | none : TwinKey e floor none none
  | some {k l : KeyCandidate} (behind : floor ≤ k.position) (position : l.position = k.position)
      (index : (l.index : Int) = k.index + e.indexGap) (line : (l.line : Int) = k.line + e.lineGap)
      (column : l.column = k.column) (required : l.required = k.required) :
      TwinKey e floor (some k) (some l)

/-- Scanners at twin places.  They have the same tokens behind older ones, which they do not
look at any more. -/
structure Ends.TwinScan (e : Ends) (old new : List Token) (s t : Scanner) : Prop where
  place : e.Twin s.place t.place
  flow : t.flow = s.flow
  indent : t.indent = s.indent
  outer : t.outer = s.outer
  keyAllowed : t.keyAllowed = s.keyAllowed
  keys : List.Forall₂ (e.TwinKey old.length) s.keys t.keys
  tokens : ∃ later, s.tokens = later ++ old ∧ t.tokens = later ++ new
  length : new.length = old.length

/-- The scanner inside of one more bracket. -/
def Scanner.opened (s : Scanner) : Scanner :=
  { s with flow := s.flow + 1, keys := none :: s.keys }

/-- The scanner outside of the innermost bracket. -/
def Scanner.closed (s : Scanner) : Scanner :=
  if s.flow = 0 then s else { s with flow := s.flow - 1, keys := s.keys.drop 1 }

namespace Ends.TwinScan

variable {e : Ends} {old new : List Token} {s s' t : Scanner}

theorem length_tokens (h : e.TwinScan old new s t) : t.tokens.length = s.tokens.length := by
  obtain ⟨later, hs, ht⟩ := h.tokens
  simp [hs, ht, h.length]

theorem length_le (h : e.TwinScan old new s t) : old.length ≤ s.tokens.length := by
  obtain ⟨later, hs, -⟩ := h.tokens
  simp [hs]

theorem emit (h : e.TwinScan old new s t) (token : Token) :
    e.TwinScan old new (s.emit token) (t.emit token) where
  __ := h
  tokens := by
    obtain ⟨later, hs, ht⟩ := h.tokens
    exact ⟨token :: later, by simp [Scanner.emit, hs], by simp [Scanner.emit, ht]⟩

theorem emitAt (h : e.TwinScan old new s t) {position : Nat} (hposition : old.length ≤ position)
    (token : Token) : e.TwinScan old new (s.emitAt position token) (t.emitAt position token) where
  __ := h
  tokens := by
    obtain ⟨later, hs, ht⟩ := h.tokens
    have hback : s.tokens.length - position ≤ later.length := by
      simp only [hs, List.length_append]
      omega
    refine ⟨later.take (s.tokens.length - position) ++
      token :: later.drop (s.tokens.length - position), ?_, ?_⟩
    · simp only [Scanner.emitAt]
      rw [hs, List.take_append_of_le_length (hs ▸ hback), List.drop_append_of_le_length (hs ▸ hback)]
      simp
    · simp only [Scanner.emitAt, h.length_tokens]
      rw [ht, List.take_append_of_le_length hback, List.drop_append_of_le_length hback]
      simp

theorem openBlock (h : e.TwinScan old new s t) {column position : Nat}
    (hposition : old.length ≤ position) (token : Token) :
    e.TwinScan old new (s.openBlock column position token) (t.openBlock column position token) := by
  simp only [Scanner.openBlock, h.flow, h.indent]
  split
  · have hemit := h.emitAt hposition token
    exact { hemit with indent := rfl, outer := by simp only [h.outer] }
  · exact h

theorem closeBlocks (h : e.TwinScan old new s t) (column : Int) (fuel : Nat) :
    e.TwinScan old new (s.closeBlocks column fuel) (t.closeBlocks column fuel) := by
  induction fuel generalizing s t with
  | zero => exact h
  | succ fuel ih =>
    simp only [Scanner.closeBlocks, h.flow, h.indent]
    split
    · refine ih { h.emit .blockEnd with indent := ?_, outer := ?_ }
      all_goals simp only [h.outer]
    · exact h

theorem closeTo (h : e.TwinScan old new s t) (column : Int) :
    e.TwinScan old new (s.closeTo column) (t.closeTo column) := by
  rw [Scanner.closeTo, Scanner.closeTo, h.outer]
  exact h.closeBlocks column _

/-! ### Keys -/

theorem keys_drop (h : e.TwinScan old new s t) :
    List.Forall₂ (e.TwinKey old.length) (s.keys.drop 1) (t.keys.drop 1) := by
  cases hs : s.keys <;> cases ht : t.keys <;> have hkeys := h.keys <;> rw [hs, ht] at hkeys
  · exact .nil
  · cases hkeys
  · cases hkeys
  · exact (List.forall₂_cons.mp hkeys).2

theorem candidate (h : e.TwinScan old new s t) :
    e.TwinKey old.length s.candidate t.candidate := by
  have hkeys := h.keys
  rw [Scanner.candidate, Scanner.candidate]
  cases hs : s.keys <;> cases ht : t.keys <;> rw [hs, ht] at hkeys
  · exact .none
  · cases hkeys
  · cases hkeys
  · exact (List.forall₂_cons.mp hkeys).1

theorem candidate_eq_none (h : e.TwinScan old new s t) (hkey : s.candidate = none) :
    t.candidate = none := by
  have hcandidate := h.candidate
  rw [hkey] at hcandidate
  generalize t.candidate = l at hcandidate
  cases hcandidate
  rfl

theorem exists_candidate (h : e.TwinScan old new s t) {k : KeyCandidate}
    (hkey : s.candidate = some k) :
    ∃ l, t.candidate = some l ∧ old.length ≤ k.position ∧ l.position = k.position ∧
      l.column = k.column := by
  have hcandidate := h.candidate
  rw [hkey] at hcandidate
  generalize t.candidate = l at hcandidate
  cases hcandidate with
  | some hbehind hposition _ _ hcolumn _ => exact ⟨_, rfl, hbehind, hposition, hcolumn⟩

theorem setCandidate (h : e.TwinScan old new s t) {k l : Option KeyCandidate}
    (hkey : e.TwinKey old.length k l) :
    e.TwinScan old new (s.setCandidate k) (t.setCandidate l) :=
  { h with keys := .cons hkey h.keys_drop }

theorem dropKey? (h : e.TwinScan old new s t) (hdrop : s.dropKey? = some s') :
    ∃ t', t.dropKey? = some t' ∧ e.TwinScan old new s' t' := by
  rw [Scanner.dropKey?] at hdrop ⊢
  have hkey := h.candidate
  cases hs : s.candidate <;> cases ht : t.candidate <;> rw [hs, ht] at hkey <;> cases hkey
  case none.none =>
    rw [hs] at hdrop
    obtain rfl := Option.some.inj hdrop
    exact ⟨t, rfl, h⟩
  case some.some k l hbehind hposition hindex hline hcolumn hrequired =>
    simp only [hs] at hdrop
    split at hdrop
    · cases hdrop
    · rename_i hneeded
      obtain rfl := Option.some.inj hdrop
      exact ⟨_, if_neg (hrequired ▸ hneeded), h.setCandidate .none⟩

theorem noteKey? (h : e.TwinScan old new s t) (hnote : s.noteKey? = some s') :
    ∃ t', t.noteKey? = some t' ∧ e.TwinScan old new s' t' := by
  rw [Scanner.noteKey?, h.keyAllowed]
  rw [Scanner.noteKey?] at hnote
  split at hnote
  · rename_i hallowed
    obtain ⟨s₁, hdrop, hnote⟩ := Option.bind_eq_some_iff.mp hnote
    obtain rfl := Option.some.inj hnote
    obtain ⟨t₁, hdrop', h₁⟩ := h.dropKey? hdrop
    rw [if_pos hallowed, hdrop']
    refine ⟨_, rfl, h₁.setCandidate ?_⟩
    refine .some h₁.length_le h₁.length_tokens h₁.place.index h₁.place.line h₁.place.column ?_
    simp only [h₁.flow, h₁.indent, h₁.place.column]
  · rename_i hallowed
    obtain rfl := Option.some.inj hnote
    exact ⟨t, if_neg hallowed, h⟩

/-- A candidate is stale at both of twin places. -/
theorem stillKey? {place place' : Cursor} {floor : Nat} {k k' l : Option KeyCandidate}
    (hplace : e.Twin place place') (hkey : e.TwinKey floor k l)
    (hstill : Scanner.stillKey? place k = some k') :
    ∃ l', Scanner.stillKey? place' l = some l' ∧ e.TwinKey floor k' l' := by
  cases hkey with
  | none =>
    obtain rfl := Option.some.inj hstill
    exact ⟨none, rfl, .none⟩
  | @some k l hbehind hposition hindex hline hcolumn hrequired =>
    have hstale : (l.line < place'.line ∨ l.index + Scanner.longestKey < place'.index) ↔
        k.line < place.line ∨ k.index + Scanner.longestKey < place.index := by
      have := hplace.index
      have := hplace.line
      omega
    simp only [Scanner.stillKey?, hstale, hrequired] at hstill ⊢
    split at hstill
    · split at hstill
      · cases hstill
      · obtain rfl := Option.some.inj hstill
        exact ⟨none, by simp_all, .none⟩
    · rename_i hfresh
      obtain rfl := Option.some.inj hstill
      exact ⟨_, if_neg hfresh, .some hbehind hposition hindex hline hcolumn hrequired⟩

theorem dropStale? (h : e.TwinScan old new s t) (hdrop : s.dropStale? = some s') :
    ∃ t', t.dropStale? = some t' ∧ e.TwinScan old new s' t' := by
  obtain ⟨keys, hkeys, rfl⟩ := Option.map_eq_some_iff.mp hdrop
  suffices hmapped : ∃ keys', t.keys.mapM (Scanner.stillKey? t.place) = some keys' ∧
      List.Forall₂ (e.TwinKey old.length) keys keys' by
    obtain ⟨keys', hkeys', htwin⟩ := hmapped
    exact ⟨{ t with keys := keys' }, by simp [Scanner.dropStale?, hkeys'], { h with keys := htwin }⟩
  have htwin := h.keys
  clear hdrop
  generalize s.keys = from₁ at htwin hkeys
  generalize t.keys = from₂ at htwin
  induction htwin generalizing keys with
  | nil =>
    obtain rfl := Option.some.inj hkeys
    exact ⟨[], rfl, .nil⟩
  | cons hkey _ ih =>
    simp only [List.mapM_cons, Option.bind_eq_bind, Option.bind_eq_some_iff] at hkeys
    obtain ⟨k', hk', rest, hrest, hkeys⟩ := hkeys
    obtain rfl := Option.some.inj hkeys
    obtain ⟨l', hl', htwin'⟩ := stillKey? h.place hkey hk'
    obtain ⟨rest', hrest', htwin''⟩ := ih rest hrest
    exact ⟨l' :: rest', by simp [List.mapM_cons, hl', hrest'], .cons htwin' htwin''⟩

/-! ### Brackets -/

theorem opened (h : e.TwinScan old new s t) : e.TwinScan old new s.opened t.opened :=
  { h with flow := congrArg (· + 1) h.flow, keys := .cons .none h.keys }

theorem closed (h : e.TwinScan old new s t) : e.TwinScan old new s.closed t.closed := by
  rw [Scanner.closed, Scanner.closed, h.flow]
  split
  · exact h
  · exact { h with flow := rfl, keys := h.keys_drop }

/-! ### Tokens -/

theorem take (h : e.TwinScan old new s t) {c d : Cursor} (hplace : e.Twin c d) (token : Token)
    (allowed : Bool) :
    e.TwinScan old new { s.emit token with place := c, keyAllowed := allowed }
      { t.emit token with place := d, keyAllowed := allowed } :=
  { h.emit token with place := hplace, keyAllowed := rfl }

theorem mark (h : e.TwinScan old new s t) {width : Nat}
    (hbounds : e.Bounds (s.place.advance width)) (token : Token) (allowed : Bool) :
    e.TwinScan old new (s.mark token width allowed) (t.mark token width allowed) :=
  h.take (h.place.advance hbounds) token allowed

end Ends.TwinScan

namespace Scanner

variable {s s' s₁ : Scanner}

/-! ## Steps that stay at a place -/

/-- The scanner is where it was.  The candidates are old ones, or start in this line. -/
structure Stays (s s' : Scanner) : Prop where
  place : s'.place = s.place
  keys : ∀ k, some k ∈ s'.keys → some k ∈ s.keys ∨ k.line = s.place.line

theorem Stays.refl (s : Scanner) : s.Stays s :=
  ⟨rfl, fun _ => .inl⟩

theorem Stays.trans (h : s.Stays s₁) (h' : s₁.Stays s') : s.Stays s' where
  place := h'.place.trans h.place
  keys k hk := (h'.keys k hk).elim (h.keys k) fun hline => .inr (h.place ▸ hline)

theorem stays_setCandidate_none (s : Scanner) : s.Stays (s.setCandidate none) where
  place := rfl
  keys k hk := by
    rcases List.mem_cons.mp hk with heq | hmem
    · cases heq
    · exact .inl (List.mem_of_mem_drop hmem)

theorem stays_closeTo (s : Scanner) (column : Int) : s.Stays (s.closeTo column) := by
  rw [closeTo]
  generalize s.outer.length + 1 = fuel
  induction fuel generalizing s with
  | zero => exact .refl s
  | succ fuel ih =>
    rw [closeBlocks]
    split
    · refine .trans ?_ (ih _)
      exact ⟨rfl, fun _ => .inl⟩
    · exact .refl s

theorem stays_openBlock (s : Scanner) (column position : Nat) (token : Token) :
    s.Stays (s.openBlock column position token) := by
  rw [openBlock]
  split
  · exact ⟨rfl, fun _ => .inl⟩
  · exact .refl s

theorem stays_dropKey? (h : s.dropKey? = some s') : s.Stays s' := by
  rw [dropKey?] at h
  split at h
  · split at h
    · cases h
    · obtain rfl := Option.some.inj h
      exact stays_setCandidate_none s
  · obtain rfl := Option.some.inj h
    exact .refl s

theorem stays_noteKey? (h : s.noteKey? = some s') : s.Stays s' := by
  rw [noteKey?] at h
  split at h
  · obtain ⟨s₁, hdrop, h⟩ := Option.bind_eq_some_iff.mp h
    obtain rfl := Option.some.inj h
    refine .trans (stays_dropKey? hdrop) ⟨rfl, fun k hk => ?_⟩
    rcases List.mem_cons.mp hk with heq | hmem
    · obtain rfl := Option.some.inj heq
      exact .inr rfl
    · exact .inl (List.mem_of_mem_drop hmem)
  · obtain rfl := Option.some.inj h
    exact .refl s

theorem flow_openBlock (s : Scanner) (column position : Nat) (token : Token) :
    (s.openBlock column position token).flow = s.flow := by
  rw [openBlock]
  split <;> rfl

theorem flow_dropKey? (h : s.dropKey? = some s') : s'.flow = s.flow := by
  rw [dropKey?] at h
  split at h
  · split at h
    · cases h
    · obtain rfl := Option.some.inj h
      rfl
  · obtain rfl := Option.some.inj h
    rfl

theorem flow_noteKey? (h : s.noteKey? = some s') : s'.flow = s.flow := by
  rw [noteKey?] at h
  split at h
  · obtain ⟨s₁, hdrop, h⟩ := Option.bind_eq_some_iff.mp h
    obtain rfl := Option.some.inj h
    exact (flow_dropKey? hdrop : s₁.flow = s.flow)
  · obtain rfl := Option.some.inj h
    rfl

/-! ## Steps that take a token -/

/-- The scanner took a token. -/
structure Takes (s s' : Scanner) : Prop where
  start : ∃ ch, s.place.head? = some ch ∧ isBlank ch = false ∧ isBreak ch = false
  passes : s.place.Passes s'.place
  shorter : s'.place.rest.length < s.place.rest.length
  keys : ∀ k, some k ∈ s'.keys → some k ∈ s.keys ∨ k.line = s.place.line

/-- The scanner took a token with a step that all its twins can take too. -/
structure Steps (step? : Scanner → Option Scanner) (s s' : Scanner) : Prop extends Takes s s' where
  twin : ∀ {e : Ends} {old new : List Token} {t : Scanner}, e.TwinScan old new s t →
    e.Bounds s'.place → ∃ t', step? t = some t' ∧ e.TwinScan old new s' t'

/-- All twins can take a step that stays. -/
def Echoes (step? : Scanner → Option Scanner) (s s' : Scanner) : Prop :=
  ∀ {e : Ends} {old new : List Token} {t : Scanner}, e.TwinScan old new s t →
    ∃ t', step? t = some t' ∧ e.TwinScan old new s' t'

/-- The scanner after a token that ends at a place. -/
def taken (s : Scanner) (token : Token) (place : Cursor) (allowed : Bool) : Scanner :=
  { s.emit token with place := place, keyAllowed := allowed }

theorem Stays.takes (h : s.Stays s₁) {ch : Char} {c : Cursor} (hhead : s.place.head? = some ch)
    (hblank : isBlank ch = false) (hbreak : isBreak ch = false) (hpasses : s.place.Passes c)
    (hshorter : c.rest.length < s.place.rest.length) (token : Token) (allowed : Bool) :
    s.Takes (s₁.taken token c allowed) where
  start := ⟨ch, hhead, hblank, hbreak⟩
  passes := hpasses
  shorter := hshorter
  keys := h.keys

/-- A token that a reader finds, after a step that stays. -/
theorem steps_read {β : Type} [Placed β] (before? : Scanner → Option Scanner)
    (read? : Scanner → Cursor → Option β) (token : β → Token) (allowed : β → Bool) {r : β}
    {ch : Char} (hstays : s.Stays s₁) (hechoes : Echoes before? s s₁)
    (hread : Mirrored (fun _ => read? s₁) s.place r)
    (hstate : ∀ t : Scanner, t.flow = s₁.flow → t.indent = s₁.indent → read? t = read? s₁)
    (htoken : ∀ d, token (Placed.moved r d) = token r) (hallowed : ∀ d, allowed (Placed.moved r d) = allowed r)
    (hplace : ∀ d, Placed.place (Placed.moved r d) = d) (hhead : s.place.head? = some ch)
    (hblank : isBlank ch = false) (hbreak : isBreak ch = false)
    (hshorter : (Placed.place r).rest.length < s.place.rest.length) :
    Steps (fun t => do
      let t ← before? t
      let r ← read? t t.place
      return t.taken (token r) (Placed.place r) (allowed r)) s
      (s₁.taken (token r) (Placed.place r) (allowed r)) where
  toTakes := hstays.takes hhead hblank hbreak hread.passes hshorter _ _
  twin {e old new t} htwin hbounds := by
    obtain ⟨t₁, hbefore, htwin₁⟩ := hechoes htwin
    have hplace₁ : e.Twin s.place t₁.place := hstays.place ▸ htwin₁.place
    obtain ⟨d, hread', hplace'⟩ := hread.twin hplace₁ hbounds le_rfl
    refine ⟨t₁.taken (token r) d (allowed r), ?_, htwin₁.take hplace' _ _⟩
    simp only [hbefore, hstate t₁ htwin₁.flow htwin₁.indent, hread', Option.bind_eq_bind,
      Option.bind_some, htoken, hallowed, hplace]
    rfl

variable {ch : Char}

theorem steps_name? {token : String → Token} (hhead : s.place.head? = some ch)
    (hblank : isBlank ch = false) (hbreak : isBreak ch = false) (h : s.name? token = some s') :
    Steps (fun t => t.name? token) s s' := by
  obtain ⟨s₁, hnote, h⟩ := Option.bind_eq_some_iff.mp h
  obtain ⟨⟨name, c⟩, hname, h⟩ := Option.bind_eq_some_iff.mp h
  obtain rfl := Option.some.inj h
  have hstays := stays_noteKey? hnote
  rw [hstays.place] at hname
  exact steps_read noteKey? (fun _ => anchorName?) (fun r => token r.1) (fun _ => false) hstays
    (fun htwin => htwin.noteKey? hnote) (mirrored_anchorName? hhead hbreak hname)
    (fun _ _ _ => rfl) (fun _ => rfl) (fun _ => rfl) (fun _ => rfl) hhead hblank hbreak
    (length_anchorName?_lt hhead hname)

theorem steps_takeTag? (hhead : s.place.head? = some ch) (hblank : isBlank ch = false)
    (hbreak : isBreak ch = false) (h : s.takeTag? = some s') : Steps takeTag? s s' := by
  obtain ⟨s₁, hnote, h⟩ := Option.bind_eq_some_iff.mp h
  obtain ⟨⟨token, c⟩, htag, h⟩ := Option.bind_eq_some_iff.mp h
  obtain rfl := Option.some.inj h
  have hstays := stays_noteKey? hnote
  rw [hstays.place] at htag
  exact steps_read noteKey? (fun t => tag? (t.flow != 0)) (fun r => r.1) (fun _ => false) hstays
    (fun htwin => htwin.noteKey? hnote) (mirrored_tag? hhead hbreak htag)
    (fun t hflow _ => by rw [hflow]) (fun _ => rfl) (fun _ => rfl) (fun _ => rfl) hhead hblank hbreak
    (length_tag?_lt hhead htag)

theorem steps_takeQuoted? {double : Bool} (hhead : s.place.head? = some (quoteMark double))
    (h : s.takeQuoted? double = some s') : Steps (fun t => t.takeQuoted? double) s s' := by
  obtain ⟨s₁, hnote, h⟩ := Option.bind_eq_some_iff.mp h
  obtain ⟨⟨text, c⟩, hquoted, h⟩ := Option.bind_eq_some_iff.mp h
  obtain rfl := Option.some.inj h
  have hstays := stays_noteKey? hnote
  rw [hstays.place] at hquoted
  exact steps_read noteKey? (fun _ => quoted? double)
    (fun r => .scalar (if double then .doubleQuoted else .singleQuoted) (String.ofList r.1))
    (fun _ => false) hstays (fun htwin => htwin.noteKey? hnote) (mirrored_quoted? hhead hquoted)
    (fun _ _ _ => rfl) (fun _ => rfl) (fun _ => rfl) (fun _ => rfl) hhead
    (by cases double <;> rfl) (by cases double <;> rfl) (length_quoted?_lt hhead hquoted)

theorem steps_takeBlock? {folded : Bool} (hhead : s.place.head? = some ch)
    (hblank : isBlank ch = false) (hbreak : isBreak ch = false)
    (h : s.takeBlock? folded = some s') : Steps (fun t => t.takeBlock? folded) s s' := by
  obtain ⟨s₁, hdrop, h⟩ := Option.bind_eq_some_iff.mp h
  obtain ⟨⟨text, c⟩, hblock, h⟩ := Option.bind_eq_some_iff.mp h
  obtain rfl := Option.some.inj h
  have hstays := stays_dropKey? hdrop
  rw [hstays.place] at hblock
  exact steps_read dropKey? (fun t => block? folded t.indent)
    (fun r => .scalar (if folded then .folded else .literal) (String.ofList r.1)) (fun _ => true)
    hstays (fun htwin => htwin.dropKey? hdrop) (mirrored_block? hhead hbreak hblock)
    (fun t _ hindent => by rw [hindent]) (fun _ => rfl) (fun _ => rfl) (fun _ => rfl) hhead hblank
    hbreak (length_block?_lt hhead hblock)

theorem steps_takeDirective? (hhead : s.place.head? = some ch) (hblank : isBlank ch = false)
    (hbreak : isBreak ch = false) (h : s.takeDirective? = some s') : Steps takeDirective? s s' := by
  obtain ⟨s₁, hdrop, h⟩ := Option.bind_eq_some_iff.mp h
  obtain ⟨⟨token, c⟩, hdirective, h⟩ := Option.bind_eq_some_iff.mp h
  obtain rfl := Option.some.inj h
  have hstays := (stays_closeTo s (-1)).trans (stays_dropKey? hdrop)
  rw [hstays.place] at hdirective
  exact steps_read (fun t => (t.closeTo (-1)).dropKey?) (fun _ => directive?) (fun r => r.1)
    (fun _ => false) hstays (fun htwin => (htwin.closeTo (-1)).dropKey? hdrop)
    (mirrored_directive? hhead hbreak hdirective) (fun _ _ _ => rfl) (fun _ => rfl) (fun _ => rfl)
    (fun _ => rfl) hhead hblank hbreak (length_directive?_lt hhead hdirective)

/-- A character that starts a plain scalar is one of it. -/
theorem startsPlain_cases (h : s.startsPlain ch = true) :
    ch ≠ '#' ∧ isBlank ch = false ∧ isBreak ch = false ∧
      (ch == ':' && s.place.isSpaceAt 1 || (s.flow != 0) && isFlowMark ch) = false := by
  simp only [startsPlain, Bool.or_eq_true, Bool.and_eq_true, Bool.not_eq_true', beq_iff_eq] at h
  rcases h with (⟨⟨hmark, hblank⟩, hbreak⟩ | ⟨rfl, -⟩) | ⟨⟨hflow, rfl | rfl⟩, hspace⟩
  · have hother (x : Char) (hx : isMark x = true) : ch ≠ x := by
      rintro rfl
      simp [hmark] at hx
    refine ⟨hother _ (by decide), hblank, hbreak, ?_⟩
    have hcolon := hother ':' (by decide)
    have hflow : isFlowMark ch = false := by
      simp only [isFlowMark, Bool.or_eq_false_iff, beq_eq_false_iff_ne]
      exact ⟨⟨⟨⟨hother _ (by decide), hother _ (by decide)⟩, hother _ (by decide)⟩,
        hother _ (by decide)⟩, hother _ (by decide)⟩
    simp [hcolon, hflow]
  · exact ⟨by decide, rfl, rfl, by simp [isFlowMark]⟩
  · exact ⟨by decide, rfl, rfl, by simp [hflow]⟩
  · exact ⟨by decide, rfl, rfl, by simp [hflow, hspace]⟩

theorem steps_takePlain? (hhead : s.place.head? = some ch)
    (hmarker : s.place.isDocumentMarker = false) (hstart : s.startsPlain ch = true)
    (h : s.takePlain? = some s') : Steps takePlain? s s' := by
  obtain ⟨hcomment, hblank, hbreak, hend⟩ := startsPlain_cases hstart
  obtain ⟨s₁, hnote, h⟩ := Option.bind_eq_some_iff.mp h
  obtain ⟨r, hplain, h⟩ := Option.bind_eq_some_iff.mp h
  obtain rfl := Option.some.inj h
  have hstays := stays_noteKey? hnote
  rw [hstays.place] at hplain
  exact steps_read noteKey? (fun t => plain? (t.flow != 0) (t.indent + 1))
    (fun r => .scalar .plain (String.ofList r.text)) (fun r => r.broken) hstays
    (fun htwin => htwin.noteKey? hnote) (mirrored_plain? hplain)
    (fun t hflow hindent => by rw [hflow, hindent]) (fun _ => rfl) (fun _ => rfl) (fun _ => rfl) hhead
    hblank hbreak (length_plain?_lt hhead hmarker hcomment (by simp [hblank, hbreak])
      (flow_noteKey? hnote ▸ hend) hplain)

/-! ### Marks -/

/-- A mark of some characters, after a step that stays. -/
theorem steps_mark {before? : Scanner → Option Scanner} {width : Nat} {token : Token}
    {allowed : Bool} (hstays : s.Stays s₁) (hechoes : Echoes before? s s₁)
    (hhead : s.place.head? = some ch) (hblank : isBlank ch = false) (hwidth : 0 < width)
    (hbreaks : ∀ x ∈ s.place.rest.take width, isBreak x = false) :
    Steps (fun t => (before? t).map (·.mark token width allowed)) s
      (s₁.mark token width allowed) where
  toTakes := by
    rw [mark, hstays.place]
    refine hstays.takes hhead hblank ?_ (Cursor.passes_advance hbreaks) ?_ _ _
    · refine hbreaks ch ?_
      rw [Cursor.rest_of_head? hhead]
      obtain ⟨k, rfl⟩ : ∃ k, width = k + 1 := ⟨width - 1, by omega⟩
      simp
    · have hlength := Cursor.length_advance_one hhead
      simp only [Cursor.rest_advance, List.length_drop]
      omega
  twin {e old new t} htwin hbounds := by
    obtain ⟨t₁, hbefore, htwin₁⟩ := hechoes htwin
    exact ⟨_, by simp [hbefore], htwin₁.mark hbounds token allowed⟩

/-- Another step that does the same at all twins. -/
theorem Steps.congr {step? more? : Scanner → Option Scanner} (h : Steps step? s s')
    (heq : ∀ {e : Ends} {old new : List Token} {t : Scanner}, e.TwinScan old new s t →
      more? t = step? t) : Steps more? s s' where
  toTakes := h.toTakes
  twin htwin hbounds := heq htwin ▸ h.twin htwin hbounds

theorem steps_documentMark? {token : Token} (hmark : s.place.isMarker ch = true)
    (hblank : isBlank ch = false) (hbreak : isBreak ch = false)
    (h : s.documentMark? token = some s') : Steps (fun t => t.documentMark? token) s s' := by
  obtain ⟨s₁, hdrop, h⟩ := Option.bind_eq_some_iff.mp h
  obtain rfl := Option.some.inj h
  have hthree : s.place.rest.take 3 = [ch, ch, ch] := by
    simp only [Cursor.isMarker, Bool.and_eq_true, beq_iff_eq] at hmark
    exact hmark.1.2
  have hhead : s.place.head? = some ch := by
    simpa [Cursor.head?, List.head?_take] using congrArg List.head? hthree
  have hstays := (stays_closeTo s (-1)).trans (stays_dropKey? hdrop)
  refine (steps_mark hstays (fun htwin => (htwin.closeTo (-1)).dropKey? hdrop) hhead hblank
    (by omega) (by simp [hthree, hbreak])).congr fun {e old new t} htwin => ?_
  rw [documentMark?]
  cases (t.closeTo (-1)).dropKey? <;> rfl

/-- A mark of one character. -/
theorem steps_mark_one {before? : Scanner → Option Scanner} {token : Token} {allowed : Bool}
    (hstays : s.Stays s₁) (hechoes : Echoes before? s s₁) (hhead : s.place.head? = some ch)
    (hblank : isBlank ch = false) (hbreak : isBreak ch = false) :
    Steps (fun t => (before? t).map (·.mark token 1 allowed)) s (s₁.mark token 1 allowed) := by
  refine steps_mark hstays hechoes hhead hblank Nat.one_pos ?_
  rw [Cursor.rest_of_head? hhead]
  simpa using hbreak

theorem steps_flowEntry? (hhead : s.place.head? = some ',') (h : s.flowEntry? = some s') :
    Steps flowEntry? s s' := by
  obtain ⟨s₁, hdrop, h⟩ := Option.bind_eq_some_iff.mp h
  obtain rfl := Option.some.inj h
  refine (steps_mark_one (stays_dropKey? hdrop) (fun htwin => htwin.dropKey? hdrop) hhead rfl
    rfl).congr fun {e old new t} htwin => ?_
  unfold flowEntry?
  cases t.dropKey? <;> rfl

theorem stays_opened (s : Scanner) : s.Stays s.opened :=
  ⟨rfl, fun k hk => .inl (by simpa [opened] using hk)⟩

theorem stays_closed (s : Scanner) : s.Stays s.closed := by
  rw [closed]
  split
  · exact .refl s
  · exact ⟨rfl, fun k hk => .inl (List.mem_of_mem_drop hk)⟩

theorem steps_openFlow? {token : Token} (hhead : s.place.head? = some ch)
    (hblank : isBlank ch = false) (hbreak : isBreak ch = false) (h : s.openFlow? token = some s') :
    Steps (fun t => t.openFlow? token) s s' := by
  obtain ⟨s₁, hnote, h⟩ := Option.bind_eq_some_iff.mp h
  obtain rfl := Option.some.inj h
  have hechoes : Echoes (fun t => t.noteKey?.map opened) s s₁.opened := by
    intro e old new t htwin
    obtain ⟨t₁, hnote', htwin₁⟩ := htwin.noteKey? hnote
    exact ⟨t₁.opened, by simp [hnote'], htwin₁.opened⟩
  refine (steps_mark_one ((stays_noteKey? hnote).trans (stays_opened s₁)) hechoes hhead hblank
    hbreak).congr fun {e old new t} htwin => ?_
  rw [openFlow?]
  cases t.noteKey? <;> rfl

theorem steps_closeFlow? {token : Token} (hhead : s.place.head? = some ch)
    (hblank : isBlank ch = false) (hbreak : isBreak ch = false)
    (h : s.closeFlow? token = some s') : Steps (fun t => t.closeFlow? token) s s' := by
  obtain ⟨s₁, hdrop, h⟩ := Option.bind_eq_some_iff.mp h
  obtain rfl := Option.some.inj h
  have hechoes : Echoes (fun t => t.dropKey?.map closed) s s₁.closed := by
    intro e old new t htwin
    obtain ⟨t₁, hdrop', htwin₁⟩ := htwin.dropKey? hdrop
    exact ⟨t₁.closed, by simp [hdrop'], htwin₁.closed⟩
  refine (steps_mark_one ((stays_dropKey? hdrop).trans (stays_closed s₁)) hechoes hhead hblank
    hbreak).congr fun {e old new t} htwin => ?_
  rw [closeFlow?]
  cases t.dropKey? <;> rfl

/-- A block that may be opened here. -/
def blockHere (s : Scanner) (token : Token) : Scanner :=
  s.openBlock s.place.column s.tokens.length token

theorem stays_blockHere (s : Scanner) (token : Token) : s.Stays (s.blockHere token) :=
  stays_openBlock s _ _ token

theorem echoes_blockHere (s : Scanner) (token : Token) :
    Echoes (fun t => some (t.blockHere token)) s (s.blockHere token) := by
  intro e old new t htwin
  refine ⟨_, rfl, ?_⟩
  rw [blockHere, blockHere, htwin.place.column, htwin.length_tokens]
  exact htwin.openBlock htwin.length_le token

theorem echoes_dropKey?_blockHere {token : Token} (h : (s.blockHere token).dropKey? = some s₁) :
    Echoes (fun t => (t.blockHere token).dropKey?) s s₁ := by
  intro e old new t htwin
  obtain ⟨t₁, hblock, htwin₁⟩ := echoes_blockHere s token htwin
  obtain rfl := Option.some.inj hblock
  exact htwin₁.dropKey? h

theorem steps_blockEntry? (hhead : s.place.head? = some '-') (h : s.blockEntry? = some s') :
    Steps blockEntry? s s' := by
  unfold blockEntry? at h
  split at h
  · cases h
  rename_i hallowed
  obtain ⟨s₁, hdrop, h⟩ := Option.bind_eq_some_iff.mp h
  obtain rfl := Option.some.inj h
  have hstays := (stays_blockHere s .blockSequenceStart).trans (stays_dropKey? hdrop)
  refine (steps_mark_one hstays (echoes_dropKey?_blockHere hdrop) hhead rfl rfl).congr
    fun {e old new t} htwin => ?_
  rw [ blockEntry?, htwin.flow, htwin.keyAllowed, if_neg hallowed]
  cases hdrop' : (t.blockHere .blockSequenceStart).dropKey? <;> rw [blockHere] at hdrop' <;>
    simp only [hdrop'] <;> rfl

theorem steps_explicitKey? (hhead : s.place.head? = some '?') (h : s.explicitKey? = some s') :
    Steps explicitKey? s s' := by
  rw [explicitKey?] at h
  split at h
  · cases h
  rename_i hallowed
  obtain ⟨s₁, hdrop, h⟩ := Option.bind_eq_some_iff.mp h
  obtain rfl := Option.some.inj h
  have hstays := (stays_blockHere s .blockMappingStart).trans (stays_dropKey? hdrop)
  refine (steps_mark_one hstays (echoes_dropKey?_blockHere hdrop) hhead rfl rfl).congr
    fun {e old new t} htwin => ?_
  rw [explicitKey?, htwin.flow, htwin.keyAllowed, if_neg hallowed]
  cases hdrop' : (t.blockHere .blockMappingStart).dropKey? with
  | none =>
    rw [blockHere] at hdrop'
    simp only [hdrop']
    rfl
  | some t₁ =>
    have hflow : t₁.flow = s₁.flow := by
      rw [flow_dropKey? hdrop', flow_dropKey? hdrop, blockHere, flow_openBlock, flow_openBlock,
        htwin.flow]
    rw [blockHere] at hdrop'
    simp only [hdrop', ← hflow]
    rfl

/-- A key put before its candidate, and the block that it may open. -/
def keyed (s : Scanner) (k : KeyCandidate) : Scanner :=
  ((s.emitAt k.position .key).openBlock k.column k.position .blockMappingStart).setCandidate none

/-- The candidate becomes a key. -/
theorem steps_keyed {k : KeyCandidate} (hhead : s.place.head? = some ':')
    (hkey : s.candidate = some k) : Steps value? s ((s.keyed k).mark .value 1 false) := by
  have hemit : s.Stays (s.emitAt k.position .key) := ⟨rfl, fun _ => .inl⟩
  have hstays : s.Stays (s.keyed k) :=
    hemit.trans ((stays_openBlock _ _ _ _).trans (stays_setCandidate_none _))
  have hechoes : Echoes (fun t => t.candidate.map t.keyed) s (s.keyed k) := by
    intro e old new t htwin
    obtain ⟨l, hl, hbehind, hposition, hcolumn⟩ := htwin.exists_candidate hkey
    refine ⟨t.keyed l, by simp [hl], ?_⟩
    rw [keyed, keyed, hposition, hcolumn]
    exact ((htwin.emitAt hbehind .key).openBlock hbehind _).setCandidate .none
  refine (steps_mark_one hstays hechoes hhead rfl rfl).congr fun {e old new t} htwin => ?_
  obtain ⟨l, hl, -⟩ := htwin.exists_candidate hkey
  rw [value?, hl]
  rfl

theorem steps_value? (hhead : s.place.head? = some ':') (h : s.value? = some s') :
    Steps value? s s' := by
  cases hkey : s.candidate with
  | some k =>
    rw [value?, hkey] at h
    obtain rfl := Option.some.inj h
    exact steps_keyed hhead hkey
  | none =>
    rw [value?, hkey] at h
    dsimp only at h
    split at h
    · cases h
    rename_i hallowed
    obtain rfl := Option.some.inj h
    refine (steps_mark_one (stays_blockHere s .blockMappingStart)
      (echoes_blockHere s .blockMappingStart) hhead rfl rfl).congr fun {e old new t} htwin => ?_
    have hflow : (t.blockHere .blockMappingStart).flow = (s.blockHere .blockMappingStart).flow := by
      rw [blockHere, blockHere, flow_openBlock, flow_openBlock, htwin.flow]
    rw [value?, htwin.candidate_eq_none hkey]
    dsimp only
    rw [htwin.flow, htwin.keyAllowed, if_neg hallowed, Option.map_some]
    rw [blockHere, blockHere] at hflow
    rw [← hflow]
    rfl

/-! ### All tokens -/

/-- The step for the token that starts with a character. -/
def tokenStep? (s : Scanner) (ch : Char) : Scanner → Option Scanner :=
  let inFlow := s.flow != 0
  let spaced := s.place.isSpaceAt 1
  if s.place.column = 0 ∧ ch = '%' then takeDirective?
  else if s.place.isMarker '-' then (·.documentMark? .documentStart)
  else if s.place.isMarker '.' then (·.documentMark? .documentEnd)
  else if ch = '[' then (·.openFlow? .flowSequenceStart)
  else if ch = '\x7b' then (·.openFlow? .flowMappingStart)
  else if ch = ']' then (·.closeFlow? .flowSequenceEnd)
  else if ch = '\x7d' then (·.closeFlow? .flowMappingEnd)
  else if ch = ',' then flowEntry?
  else if ch = '-' ∧ spaced then blockEntry?
  else if ch = '?' ∧ (inFlow ∨ spaced) then explicitKey?
  else if ch = ':' ∧ (inFlow ∨ spaced) then value?
  else if ch = '*' then (·.name? .alias)
  else if ch = '&' then (·.name? .anchor)
  else if ch = '!' then takeTag?
  else if ch = '|' ∧ !inFlow then (·.takeBlock? false)
  else if ch = '>' ∧ !inFlow then (·.takeBlock? true)
  else if ch = '\'' then (·.takeQuoted? false)
  else if ch = '"' then (·.takeQuoted? true)
  else if s.startsPlain ch then takePlain?
  else fun _ => none

theorem token?_eq (s : Scanner) (ch : Char) : s.token? ch = s.tokenStep? ch s := by
  simp only [token?, tokenStep?, ite_apply]

theorem tokenStep?_eq {e : Ends} {old new : List Token} {t : Scanner} (h : e.TwinScan old new s t)
    (ch : Char) : t.tokenStep? ch = s.tokenStep? ch := by
  have hnext : (t.place.rest.drop 1).head? = (s.place.rest.drop 1).head? := by
    simpa only [List.head?_drop] using h.place.getElem? (k := 1) (by omega)
  have hspaced := h.place.isSpaceAt (k := 1) (by omega)
  have hplain : t.startsPlain ch = s.startsPlain ch := by
    simp only [startsPlain, h.flow, hspaced, hnext]
  simp only [tokenStep?, h.flow, h.place.column, h.place.isMarker, hspaced, hplain]

theorem steps_ite {p : Prop} [Decidable p] {first? second? : Scanner → Option Scanner}
    (hfirst : p → first? s = some s' → Steps first? s s')
    (hsecond : ¬p → second? s = some s' → Steps second? s s')
    (h : (if p then first? else second?) s = some s') :
    Steps (if p then first? else second?) s s' := by
  split at h
  · rename_i hp
    rw [if_pos hp]
    exact hfirst hp h
  · rename_i hp
    rw [if_neg hp]
    exact hsecond hp h

theorem steps_token? (hhead : s.place.head? = some ch) (h : s.token? ch = some s') :
    Steps (fun t => t.token? ch) s s' := by
  suffices hsteps : Steps (s.tokenStep? ch) s s' from
    hsteps.congr fun htwin => by rw [token?_eq, tokenStep?_eq htwin]
  rw [token?_eq] at h
  revert h
  refine steps_ite (fun hc => steps_takeDirective? (hc.2 ▸ hhead) rfl rfl) fun _ => ?_
  refine steps_ite (fun hc => steps_documentMark? hc rfl rfl) fun hdash => ?_
  refine steps_ite (fun hc => steps_documentMark? hc rfl rfl) fun hdot => ?_
  refine steps_ite (fun hc => steps_openFlow? (hc ▸ hhead) rfl rfl) fun _ => ?_
  refine steps_ite (fun hc => steps_openFlow? (hc ▸ hhead) rfl rfl) fun _ => ?_
  refine steps_ite (fun hc => steps_closeFlow? (hc ▸ hhead) rfl rfl) fun _ => ?_
  refine steps_ite (fun hc => steps_closeFlow? (hc ▸ hhead) rfl rfl) fun _ => ?_
  refine steps_ite (fun hc => steps_flowEntry? (hc ▸ hhead)) fun _ => ?_
  refine steps_ite (fun hc => steps_blockEntry? (hc.1 ▸ hhead)) fun _ => ?_
  refine steps_ite (fun hc => steps_explicitKey? (hc.1 ▸ hhead)) fun _ => ?_
  refine steps_ite (fun hc => steps_value? (hc.1 ▸ hhead)) fun _ => ?_
  refine steps_ite (fun hc => steps_name? (hc ▸ hhead) rfl rfl) fun _ => ?_
  refine steps_ite (fun hc => steps_name? (hc ▸ hhead) rfl rfl) fun _ => ?_
  refine steps_ite (fun hc => steps_takeTag? (hc ▸ hhead) rfl rfl) fun _ => ?_
  refine steps_ite (fun hc => steps_takeBlock? (hc.1 ▸ hhead) rfl rfl) fun _ => ?_
  refine steps_ite (fun hc => steps_takeBlock? (hc.1 ▸ hhead) rfl rfl) fun _ => ?_
  refine steps_ite (fun hc => steps_takeQuoted? (by rw [hhead, hc]; rfl)) fun _ => ?_
  refine steps_ite (fun hc => steps_takeQuoted? (by rw [hhead, hc]; rfl)) fun _ => ?_
  refine steps_ite (fun hc => steps_takePlain? hhead ?_ hc) fun _ h => ?_
  · simp [Cursor.isDocumentMarker, hdash, hdot]
  · cases h

end Scanner

end PowerTelemetry.Yaml
