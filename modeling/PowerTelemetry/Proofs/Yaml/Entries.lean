import PowerTelemetry.Proofs.Yaml.Quotes
import PowerTelemetry.Proofs.Yaml.Walks
/-!
# Entries with a text between double quotes

An entry is a line `name: "text"`.  A scanner that comes to its start, where a key may stand,
takes it apart into a key, a plain scalar, a colon and a quoted scalar (`walkOn?_entry`).  So two
texts that differ in the text of one entry have the same tokens but for that scalar
(`tokens?_entry`).
-/

namespace PowerTelemetry.Yaml

/-! ## Names -/

/-- A small letter or an underscore. -/
def isNameChar (ch : Char) : Bool :=
  ch.isLower || ch == '_'

/-- A name of letters that is not too long for a key. -/
structure IsName (name : List Char) : Prop where
  start : name ≠ []
  chars : ∀ ch ∈ name, isNameChar ch = true
  length : name.length ≤ Scanner.longestKey

/-- How an entry is written, from its name to the end of the text. -/
def entry (name written after : List Char) : List Char :=
  name ++ ':' :: ' ' :: '"' :: (written ++ '"' :: after)

theorem ne_of_isNameChar {ch mark : Char} (h : isNameChar ch = true)
    (hmark : isNameChar mark = false) : ch ≠ mark := by
  rintro rfl
  rw [h] at hmark
  cases hmark

theorem isBlank_of_isNameChar {ch : Char} (h : isNameChar ch = true) : isBlank ch = false := by
  simp (disch := decide) [isBlank, ne_of_isNameChar h]

theorem isBreak_of_isNameChar {ch : Char} (h : isNameChar ch = true) : isBreak ch = false :=
  not_isBreak_of (by decide) h

theorem isMark_of_isNameChar {ch : Char} (h : isNameChar ch = true) :
    Scanner.isMark ch = false := by
  simp (disch := decide) [Scanner.isMark, ne_of_isNameChar h]

theorem isFlowMark_of_isNameChar {ch : Char} (h : isNameChar ch = true) :
    isFlowMark ch = false := by
  simp (disch := decide) [isFlowMark, ne_of_isNameChar h]

theorem isAllowed_of_isNameChar {ch : Char} (h : isNameChar ch = true) : isAllowed ch = true := by
  have hlower : ch.isLower = (decide (ch.val ≥ 'a'.val) && decide (ch.val ≤ 'z'.val)) := rfl
  simp only [isNameChar, hlower, Bool.or_eq_true, Bool.and_eq_true, decide_eq_true_eq, beq_iff_eq,
    ge_iff_le, UInt32.le_iff_toNat_le] at h
  have hrange : 0x20 ≤ ch.toNat ∧ ch.toNat ≤ 0x7E := by
    rcases h with ⟨hleast, hmost⟩ | rfl
    · exact ⟨le_trans (by decide) hleast, le_trans hmost (by decide)⟩
    · decide
  simp [isAllowed, hrange]

variable {c : Cursor} {n : Nat} {name written text after : List Char} {ch : Char}

theorem Cursor.isMarker_of_head? {mark : Char} (h : c.head? = some ch) (hne : ch ≠ mark) :
    c.isMarker mark = false := by
  rw [isMarker, rest_of_head? h]
  simp [hne]

theorem plainWord?_name {inFlow : Bool} (hrest : c.rest = name ++ ':' :: ' ' :: after)
    (hchars : ∀ ch ∈ name, isNameChar ch = true) (hn : name.length < n) :
    plainWord? inFlow n c = some (name, c.advance name.length) := by
  induction name generalizing c n with
  | nil =>
    obtain ⟨n, rfl⟩ : ∃ k, n = k + 1 := ⟨n - 1, by simp at hn; omega⟩
    have hspace : c.isSpaceAt 1 = true := by simp [Cursor.isSpaceAt, hrest, isBlank]
    simp [plainWord?, hrest, hspace, isFlowMark, isBlank, isBreak]
  | cons ch name ih =>
    obtain ⟨n, rfl⟩ : ∃ k, n = k + 1 := ⟨n - 1, by simp at hn; omega⟩
    have hch := hchars ch List.mem_cons_self
    have hcolon : ch ≠ ':' := ne_of_isNameChar hch (by decide)
    have hnext := ih (c := c.advance 1) (n := n) (by simp [hrest])
      (fun x hx => hchars x (List.mem_cons_of_mem _ hx)) (by simpa using hn)
    rw [Cursor.advance_advance, Nat.add_comm] at hnext
    simp [plainWord?, hrest, isBlank_of_isNameChar hch, isBreak_of_isNameChar hch,
      isFlowMark_of_isNameChar hch, hcolon, hnext]

/-- A name in front of a colon is a plain scalar. -/
theorem plain?_name {inFlow : Bool} {indent : Int} (hname : IsName name)
    (hrest : c.rest = name ++ ':' :: ' ' :: after) :
    plain? inFlow indent c = some ⟨name, c.advance name.length, false⟩ := by
  obtain ⟨ch, back, rfl⟩ := List.exists_cons_of_ne_nil hname.start
  have hch := hname.chars ch List.mem_cons_self
  have hhead : c.head? = some ch := by simp [Cursor.head?, hrest]
  have hmarker : c.isDocumentMarker = false := by
    rw [Cursor.isDocumentMarker, Cursor.isMarker_of_head? hhead (ne_of_isNameChar hch (by decide)),
      Cursor.isMarker_of_head? hhead (ne_of_isNameChar hch (by decide))]
    rfl
  have hcomment : c.startsWith '#' = false := by
    have hne : ch ≠ '#' := ne_of_isNameChar hch (by decide)
    simpa [Cursor.startsWith, hhead] using hne
  have hword : plainWord? inFlow c.rest.length c =
      some (ch :: back, c.advance (ch :: back).length) :=
    plainWord?_name hrest hname.chars (by simp [hrest])
  have hcolon : (c.advance (ch :: back).length).rest = ':' :: ' ' :: after := by simp [hrest]
  have hspace : (c.advance (ch :: back).length).isSpaceAt 0 = false := by
    rw [Cursor.isSpaceAt, hcolon]
    rfl
  rw [plain?, plainRest?, hmarker, hcomment]
  simp only [Bool.or_self, Bool.false_eq_true, if_false, hword, Option.bind_eq_bind,
    Option.bind_some, hspace, Bool.not_false, Bool.or_true, if_true]
  rfl

namespace Scanner

variable {s : Scanner}

/-! ## Space in front of a token -/

theorem closeTo_eq_self {column : Int} (h : s.flow = 0 → s.indent ≤ column) :
    s.closeTo column = s := by
  rw [closeTo, closeBlocks, if_neg]
  rintro ⟨hflow, hlt⟩
  have := h hflow
  omega

theorem dropStale?_eq_self (h : ∀ k ∈ s.keys, stillKey? s.place k = some k) :
    s.dropStale? = some s := by
  have hkeys : s.keys.mapM (stillKey? s.place) = some s.keys := by
    generalize s.keys = keys at h
    induction keys with
    | nil => rfl
    | cons k keys ih =>
      simp [List.mapM_cons, h k List.mem_cons_self,
        ih fun l hl => h l (List.mem_cons_of_mem _ hl)]
  simp [dropStale?, hkeys]

theorem spaceEnd_eq {spaces : List Char} (hrest : s.place.rest = spaces ++ after)
    (hspaces : ∀ b ∈ spaces, b = ' ')
    (hafter : ∀ ch ∈ after.head?, isBlank ch = false ∧ ch ≠ '#') (hcolumn : 0 < s.place.column) :
    s.spaceEnd = s.place.advance spaces.length := by
  have hmark : skipMark s.place = s.place := by
    rw [skipMark, if_neg]
    omega
  have hspan : s.place.rest.takeWhile s.isSpace = spaces := by
    have hstop : after.takeWhile s.isSpace = [] := by
      cases after with
      | nil => rfl
      | cons ch after =>
        have hspace : s.isSpace ch = false := by
          rw [Bool.eq_false_iff]
          intro h
          simpa [(hafter ch rfl).1] using isBlank_of_isSpace h
        simp [hspace]
    rw [hrest, List.takeWhile_append_of_pos, hstop, List.append_nil]
    intro b hb
    simp [isSpace, hspaces b hb]
  have hcomment : (s.place.advance spaces.length).startsWith '#' = false := by
    rw [Cursor.startsWith, Cursor.head?, Cursor.rest_advance, hrest, List.drop_left]
    cases after with
    | nil => rfl
    | cons ch after => simpa using (hafter ch rfl).2
  rw [spaceEnd, hmark]
  simp only [Cursor.span, hspan, hcomment, Bool.false_eq_true, if_false]

/-- Spaces inside of a line are passed over. -/
theorem ready?_of_spaces {spaces : List Char} (hrest : s.place.rest = spaces ++ after)
    (hspaces : ∀ b ∈ spaces, b = ' ')
    (hafter : ∀ ch ∈ after.head?, isBlank ch = false ∧ isBreak ch = false ∧ ch ≠ '#')
    (hcolumn : 0 < s.place.column)
    (hkeys : ∀ k ∈ s.keys, stillKey? (s.place.advance spaces.length) k = some k)
    (hindent : s.flow = 0 → s.indent ≤ s.place.column) :
    s.ready? = some { s with place := s.place.advance spaces.length } := by
  have hend := s.spaceEnd_eq hrest hspaces
    (fun ch hch => ⟨(hafter ch hch).1, (hafter ch hch).2.2⟩) hcolumn
  have hbreak : s.spaceEnd.head?.any isBreak = false := by
    rw [hend, Cursor.head?, Cursor.rest_advance, hrest, List.drop_left]
    cases after with
    | nil => rfl
    | cons ch after => simpa using (hafter ch rfl).2.1
  rw [ready?, skipSpace_succ, hbreak, if_neg Bool.false_ne_true, hend, dropStale?_eq_self hkeys,
    Option.map_some, closeTo_eq_self]
  intro hflow
  have := hindent hflow
  simp only [Cursor.column_advance]
  omega

/-! ## The tokens of an entry -/

/-- Where only a key can be, no candidates are left, and the innermost block does not start
behind the place. -/
structure AtKey (s : Scanner) : Prop where
  keyAllowed : s.keyAllowed = true
  keys : ∀ k ∈ s.keys, k = none
  indent : s.flow = 0 → s.indent ≤ s.place.column

/-- The name noted as a candidate for a key. -/
def named (s : Scanner) (name : List Char) : Scanner :=
  ((s.setCandidate (some ⟨s.tokens.length, s.place.index, s.place.line, s.place.column,
    s.flow == 0 && s.indent == s.place.column⟩)).taken (.scalar .plain (String.ofList name))
    (s.place.advance name.length) false)

/-- The name and the colon taken. -/
def keyedBy (s : Scanner) (name : List Char) : Scanner :=
  { s.blockHere .blockMappingStart with
    tokens := .value :: .scalar .plain (String.ofList name) :: .key ::
      (s.blockHere .blockMappingStart).tokens
    place := s.place.advance (name.length + 1)
    keyAllowed := false
    keys := none :: s.keys.drop 1 }

theorem AtKey.candidate (h : s.AtKey) : s.candidate = none := by
  rw [Scanner.candidate]
  cases hkeys : s.keys with
  | nil => rfl
  | cons k keys => simpa using h.keys k (by simp [hkeys])

theorem AtKey.noteKey? (h : s.AtKey) :
    s.noteKey? = some (s.setCandidate (some ⟨s.tokens.length, s.place.index, s.place.line,
      s.place.column, s.flow == 0 && s.indent == s.place.column⟩)) := by
  rw [Scanner.noteKey?, h.keyAllowed, if_pos rfl, dropKey?, h.candidate]
  rfl

/-- No step but a plain scalar starts with a letter. -/
theorem token?_of_isNameChar (hch : isNameChar ch = true) (hhead : s.place.head? = some ch) :
    s.token? ch = s.takePlain? := by
  have hdash : s.place.isMarker '-' = false :=
    Cursor.isMarker_of_head? hhead (ne_of_isNameChar hch (by decide))
  have hdot : s.place.isMarker '.' = false :=
    Cursor.isMarker_of_head? hhead (ne_of_isNameChar hch (by decide))
  have hplain : s.startsPlain ch = true := by
    simp [startsPlain, isMark_of_isNameChar hch, isBlank_of_isNameChar hch,
      isBreak_of_isNameChar hch]
  simp (disch := decide) [token?, hdash, hdot, hplain, ne_of_isNameChar hch]

theorem token?_name (h : s.AtKey) (hname : IsName name)
    (hrest : s.place.rest = name ++ ':' :: ' ' :: after) (hhead : s.place.head? = some ch) :
    s.token? ch = some (s.named name) := by
  have hch : isNameChar ch = true := by
    obtain ⟨x, back, rfl⟩ := List.exists_cons_of_ne_nil hname.start
    obtain rfl : x = ch := by simpa [Cursor.head?, hrest] using hhead
    exact hname.chars x List.mem_cons_self
  rw [token?_of_isNameChar hch hhead, takePlain?, h.noteKey?]
  simp only [Option.bind_eq_bind, Option.bind_some]
  rw [show (s.setCandidate _).place = s.place from rfl, plain?_name hname hrest]
  rfl

/-- The key goes before the name, and the start of a block before the key. -/
theorem value?_named (s : Scanner) (name : List Char) :
    (s.named name).value? = some (s.keyedBy name) := by
  have hcandidate : (s.named name).candidate = some ⟨s.tokens.length, s.place.index, s.place.line,
      s.place.column, s.flow == 0 && s.indent == s.place.column⟩ := rfl
  rw [value?, hcandidate]
  have htwo : s.tokens.length + 1 + 1 - s.tokens.length = 2 := by omega
  by_cases hopens : s.flow = 0 ∧ s.indent < s.place.column
  · simp [openBlock, emitAt, named, taken, emit, mark, setCandidate, keyedBy, blockHere, hopens,
      Cursor.advance_advance, htwo]
  · simp [openBlock, emitAt, named, taken, emit, mark, setCandidate, keyedBy, blockHere, hopens,
      Cursor.advance_advance]

/-- The scanner behind an entry. -/
def entered (s : Scanner) (name text : List Char) (width : Nat) : Scanner :=
  (s.keyedBy name).taken (.scalar .doubleQuoted (String.ofList text))
    (s.place.advance (name.length + width + 4)) false

theorem indent_blockHere (h : s.flow = 0 → s.indent ≤ s.place.column) (token : Token)
    (hflow : (s.blockHere token).flow = 0) : (s.blockHere token).indent ≤ s.place.column := by
  rw [blockHere, flow_openBlock] at hflow
  rw [blockHere, openBlock]
  split
  · exact Int.le_refl _
  · exact h hflow

theorem AtKey.keys_keyedBy (h : s.AtKey) {k : Option KeyCandidate}
    (hk : k ∈ (s.keyedBy name).keys) : k = none := by
  rcases List.mem_cons.mp hk with rfl | hmem
  · rfl
  · exact h.keys k (List.mem_of_mem_drop hmem)

theorem ready?_named (h : s.AtKey) (hname : IsName name)
    (hrest : s.place.rest = name ++ ':' :: ' ' :: after) :
    (s.named name).ready? = some (s.named name) := by
  have hpos : 0 < name.length := List.length_pos_iff.mpr hname.start
  have hcolon : (s.named name).place.rest = [] ++ ':' :: ' ' :: after := by
    simp [named, taken, hrest]
  refine ready?_of_spaces hcolon (by simp) (by simp [isBlank, isBreak]) ?_ ?_ ?_
  · simp only [named, taken, Cursor.column_advance]
    omega
  · intro k hk
    rcases List.mem_cons.mp hk with rfl | hmem
    · have hlength := hname.length
      rw [stillKey?, if_neg]
      simp only [named, taken, Cursor.advance, List.length_nil]
      omega
    · rw [h.keys k (List.mem_of_mem_drop hmem)]
      rfl
  · intro hflow
    have := h.indent hflow
    simp only [named, taken, emit, setCandidate, Cursor.column_advance]
    omega

theorem ready?_keyedBy (h : s.AtKey) (hrest : s.place.rest = name ++ ':' :: ' ' :: '"' :: after) :
    (s.keyedBy name).ready? =
      some { s.keyedBy name with place := s.place.advance (name.length + 2) } := by
  have hspace : (s.keyedBy name).place.rest = [' '] ++ '"' :: after := by
    simp [keyedBy, hrest]
  rw [ready?_of_spaces hspace (by simp) (by simp [isBlank, isBreak])]
  · simp [keyedBy, Cursor.advance_advance]
  · simp only [keyedBy, Cursor.column_advance]
    omega
  · intro k hk
    rw [h.keys_keyedBy hk]
    rfl
  · intro hflow
    have := indent_blockHere h.indent .blockMappingStart hflow
    simp only [keyedBy, Cursor.column_advance]
    omega

theorem token?_colon {c : Cursor} (hplace : s.place = c) (hrest : c.rest = ':' :: ' ' :: after) :
    s.token? ':' = s.value? := by
  subst hplace
  have hhead : s.place.head? = some ':' := by simp [Cursor.head?, hrest]
  have hdash : s.place.isMarker '-' = false := Cursor.isMarker_of_head? hhead (by decide)
  have hdot : s.place.isMarker '.' = false := Cursor.isMarker_of_head? hhead (by decide)
  have hspace : s.place.isSpaceAt 1 = true := by
    rw [Cursor.isSpaceAt, hrest]
    rfl
  simp [token?, hdash, hdot, hspace]

theorem token?_quote (hhead : s.place.head? = some '"') : s.token? '"' = s.takeQuoted? true := by
  have hdash : s.place.isMarker '-' = false := Cursor.isMarker_of_head? hhead (by decide)
  have hdot : s.place.isMarker '.' = false := Cursor.isMarker_of_head? hhead (by decide)
  simp [token?, hdash, hdot]

/-- A scanner at the start of an entry takes it. -/
theorem walkOn?_entry (h : s.AtKey) (hname : IsName name) (hreads : ReadsAs written text)
    (hrest : s.place.rest = entry name written after) :
    s.walkOn? = (s.entered name text written.length).walk? := by
  obtain ⟨ch, hhead⟩ : ∃ ch, s.place.head? = some ch := by
    obtain ⟨ch, back, rfl⟩ := List.exists_cons_of_ne_nil hname.start
    exact ⟨ch, by simp [Cursor.head?, hrest, entry]⟩
  have hcolon : (s.named name).place.rest = ':' :: ' ' :: '"' :: (written ++ '"' :: after) := by
    simp [named, taken, hrest, entry]
  have hquote : (s.place.advance (name.length + 2)).rest = '"' :: (written ++ '"' :: after) := by
    simp [hrest, entry]
  have hfirst : s.walkOn? = (s.named name).walk? := by
    rw [walkOn?, hhead]
    simp only [token?_name h hname hrest hhead, Option.bind_some]
  have hsecond : (s.named name).walk? = (s.keyedBy name).walk? := by
    rw [walk?_eq, ready?_named h hname hrest, Option.bind_some, walkOn?, Cursor.head?, hcolon]
    simp only [List.head?_cons, token?_colon rfl hcolon, value?_named, Option.bind_some]
  have hthird : (({ s.keyedBy name with place := s.place.advance (name.length + 2) } : Scanner)).token?
      '"' = some (s.entered name text written.length) := by
    rw [token?_quote (by simp [Cursor.head?, hrest, entry]), takeQuoted?]
    have hnote : ({ s.keyedBy name with place := s.place.advance (name.length + 2) } : Scanner).noteKey?
        = some { s.keyedBy name with place := s.place.advance (name.length + 2) } := rfl
    rw [hnote]
    simp only [Option.bind_eq_bind, Option.bind_some, hreads.quoted _ _ hquote,
      Cursor.advance_advance]
    rw [show name.length + 2 + (written.length + 2) = name.length + written.length + 4 by omega]
    rfl
  rw [hfirst, hsecond, walk?_eq, ready?_keyedBy h hrest, Option.bind_some, walkOn?, Cursor.head?,
    hquote]
  simp only [List.head?_cons, hthird, Option.bind_some]

/-! ## Behind an entry -/

/-- Two scanners at the end of a line, in the same state but for the tokens before and for how
long the line is. -/
structure LineEnd (s t : Scanner) : Prop where
  rest : t.place.rest = s.place.rest
  line : t.place.line = s.place.line
  columns : 0 < s.place.column ∧ 0 < t.place.column
  stop : ∀ ch ∈ s.place.rest.head?, isBreak ch = true
  flow : t.flow = s.flow
  indent : t.indent = s.indent
  outer : t.outer = s.outer
  keyAllowed : t.keyAllowed = s.keyAllowed
  keys : t.keys = s.keys
  noKeys : ∀ k ∈ s.keys, k = none
  indents : s.flow = 0 → s.indent ≤ s.place.column ∧ s.indent ≤ t.place.column
  length : t.tokens.length = s.tokens.length

variable {t z : Scanner}

theorem spaceEnd_of_break (hcolumn : 0 < s.place.column)
    (hstop : ∀ ch ∈ s.place.rest.head?, isBreak ch = true) : s.spaceEnd = s.place := by
  have hend := s.spaceEnd_eq (show s.place.rest = [] ++ s.place.rest from rfl) (by simp) ?_ hcolumn
  · simpa using hend
  · intro ch hch
    have hbreak := hstop ch hch
    refine ⟨?_, ?_⟩
    · rw [Bool.eq_false_iff]
      intro hblank
      simp [not_isBreak_of_isBlank hblank] at hbreak
    · rintro rfl
      cases hbreak

theorem LineEnd.spaceEnd (h : LineEnd s t) : s.spaceEnd = s.place ∧ t.spaceEnd = t.place :=
  ⟨spaceEnd_of_break h.columns.1 h.stop, spaceEnd_of_break h.columns.2 (h.rest ▸ h.stop)⟩

/-- The places behind the same break are twins. -/
theorem LineEnd.nextLine (h : LineEnd s t) (hbreak : s.place.head?.any isBreak = true) :
    ∃ e : Ends, e.left = [] ∧ e.TwinScan s.tokens t.tokens s.nextLine t.nextLine := by
  obtain ⟨rest, k, htake⟩ := Cursor.exists_takeBreak hbreak
  refine ⟨⟨[], [], t.place.index - s.place.index, 0, rfl⟩, rfl, ?_⟩
  have hplace : s.nextLine.place = ⟨rest, s.place.index + k, s.place.line + 1, 0⟩ := by
    rw [Scanner.nextLine, h.spaceEnd.1, htake _ rfl]
  have hplace' : t.nextLine.place = ⟨rest, t.place.index + k, t.place.line + 1, 0⟩ := by
    rw [Scanner.nextLine, h.spaceEnd.2, htake _ h.rest]
  refine ⟨?_, h.flow, h.indent, h.outer, ?_, ?_, ⟨[], rfl, rfl⟩, h.length⟩
  · rw [hplace, hplace']
    refine ⟨⟨rest, by simp, by simp⟩, ?_, ?_, rfl⟩
    · push_cast
      omega
    · simp [h.line]
  · simp only [Scanner.nextLine, h.flow, h.keyAllowed]
  · simp only [Scanner.nextLine, h.keys, List.forall₂_same]
    intro k hk
    rw [h.noKeys k hk]
    exact .none

/-- The scanner moved to a place. -/
def moved (s : Scanner) (c : Cursor) : Scanner :=
  { s with place := c }

theorem closeBlocks_moved (s : Scanner) (c : Cursor) (column : Int) (fuel : Nat) :
    closeBlocks column fuel (s.moved c) = (closeBlocks column fuel s).moved c := by
  induction fuel generalizing s with
  | zero => rfl
  | succ fuel ih =>
    by_cases hopen : s.flow = 0 ∧ column < s.indent
    · have hopen' : (s.moved c).flow = 0 ∧ column < (s.moved c).indent := hopen
      rw [closeBlocks, closeBlocks, if_pos hopen, if_pos hopen']
      exact ih { s.emit .blockEnd with indent := s.outer.headD (-1), outer := s.outer.drop 1 }
    · have hopen' : ¬((s.moved c).flow = 0 ∧ column < (s.moved c).indent) := hopen
      rw [closeBlocks, closeBlocks, if_neg hopen, if_neg hopen']

theorem dropKey?_moved (s : Scanner) (c : Cursor) :
    (s.moved c).dropKey? = s.dropKey?.map (·.moved c) := by
  rw [dropKey?, dropKey?, show (s.moved c).candidate = s.candidate from rfl]
  cases s.candidate with
  | none => rfl
  | some k =>
    dsimp only
    split <;> rfl

/-- At the end of a text the place does not matter. -/
theorem finish?_moved (s : Scanner) (c : Cursor) :
    (s.moved c).finish? = s.finish?.map (·.moved c) := by
  have hclose : (s.moved c).closeTo (-1) = (s.closeTo (-1)).moved c := closeBlocks_moved s c _ _
  rw [finish?, hclose, dropKey?_moved, finish?]

theorem ready?_of_nil (hrest : s.place.rest = []) (hcolumn : 0 < s.place.column)
    (hkeys : ∀ k ∈ s.keys, k = none) (hindent : s.flow = 0 → s.indent ≤ s.place.column) :
    s.ready? = some s := by
  have hready := ready?_of_spaces (show s.place.rest = [] ++ [] from hrest) (by simp) (by simp)
    hcolumn ?_ hindent
  · simpa using hready
  · intro k hk
    rw [hkeys k hk]
    rfl

theorem walk?_of_nil (hrest : s.place.rest = []) (hcolumn : 0 < s.place.column)
    (hkeys : ∀ k ∈ s.keys, k = none) (hindent : s.flow = 0 → s.indent ≤ s.place.column) :
    s.walk? = s.finish? := by
  rw [walk?_eq, ready?_of_nil hrest hcolumn hkeys hindent, Option.bind_some, walkOn?, Cursor.head?,
    hrest]
  rfl

/-- At the end of the text the same is left to be closed. -/
theorem LineEnd.finish? (h : LineEnd s t) (hfinish : s.finish? = some z) :
    ∃ z', t.finish? = some z' ∧
      ∃ later, z.tokens = later ++ s.tokens ∧ z'.tokens = later ++ t.tokens := by
  have htwin : (⟨[], [], 0, 0, rfl⟩ : Ends).TwinScan s.tokens t.tokens s (t.moved s.place) := by
    refine ⟨⟨⟨s.place.rest, by simp, by simp [moved]⟩, ?_, ?_, rfl⟩, h.flow, h.indent, h.outer,
      h.keyAllowed, ?_, ⟨[], rfl, rfl⟩, h.length⟩
    · simp [moved]
    · simp [moved]
    · simp only [moved, h.keys, List.forall₂_same]
      intro k hk
      rw [h.noKeys k hk]
      exact .none
  obtain ⟨z', hfinish', htwin'⟩ := (htwin.closeTo (-1)).dropKey? hfinish
  rw [show ((t.moved s.place).closeTo (-1)).dropKey? = (t.moved s.place).finish? from rfl,
    finish?_moved] at hfinish'
  obtain ⟨z', hz', rfl⟩ := Option.map_eq_some_iff.mp hfinish'
  exact ⟨z', hz', htwin'.tokens⟩

/-- What comes behind the end of a line does not depend on how long the line is. -/
theorem LineEnd.walk? (h : LineEnd s t) (hwalk : s.walk? = some z) :
    ∃ z', t.walk? = some z' ∧
      ∃ later, z.tokens = later ++ s.tokens ∧ z'.tokens = later ++ t.tokens := by
  cases hrest : s.place.rest with
  | nil =>
    have hkeys' : ∀ k ∈ t.keys, k = none := h.keys ▸ h.noKeys
    have hindent' : t.flow = 0 → t.indent ≤ t.place.column := by
      rw [h.flow, h.indent]
      exact fun hflow => (h.indents hflow).2
    rw [walk?_of_nil hrest h.columns.1 h.noKeys fun hflow => (h.indents hflow).1] at hwalk
    rw [walk?_of_nil (h.rest.trans hrest) h.columns.2 hkeys' hindent']
    exact h.finish? hwalk
  | cons ch after =>
    have hbreak : s.place.head?.any isBreak = true := by
      simpa [Cursor.head?, hrest] using h.stop ch (by simp [hrest])
    have hbreak' : t.place.head?.any isBreak = true := by
      rwa [Cursor.head?, h.rest]
    obtain ⟨e, hleft, htwin⟩ := h.nextLine hbreak
    rw [walk?_nextLine (h.spaceEnd.1 ▸ hbreak)] at hwalk
    rw [walk?_nextLine (h.spaceEnd.2 ▸ hbreak')]
    exact htwin.walk? hwalk hleft

end Scanner

/-! ## Texts with an entry -/

theorem take_entry (hname : IsName name) (x v after : List Char) :
    (entry name v after).take 4 = (entry name x after).take 4 := by
  have hfront (w : List Char) :
      entry name w after = (name ++ [':', ' ', '"']) ++ (w ++ '"' :: after) := by
    simp [entry]
  have hlength : 4 ≤ (name ++ [':', ' ', '"']).length := by
    have := List.length_pos_iff.mpr hname.start
    simp only [List.length_append, List.length_cons, List.length_nil]
    omega
  rw [hfront, hfront, List.take_append_of_le_length hlength, List.take_append_of_le_length hlength]

/-- The ends of two texts from an entry on. -/
def entryEnds (hname : IsName name) (x v after : List Char) : Ends :=
  ⟨entry name x after, entry name v after, 0, 0, take_entry hname x v after⟩

/-- Up to the entry the scanners are in the same state. -/
theorem upTo?_entry {front x : List Char} {r : Scanner} (hname : IsName name) (v : List Char)
    (hreach : Scanner.upTo? (entry name x after).length n (Scanner.start (front ++ entry name x after))
      = some r) (hplace : r.place.rest = entry name x after) :
    ∃ m q, Scanner.upTo? (entry name v after).length m (Scanner.start (front ++ entry name v after)) =
      some q ∧ (entryEnds hname x v after).TwinScan [] [] r q ∧ q.place.rest = entry name v after := by
  have hstart : (entryEnds hname x v after).TwinScan [] []
      (Scanner.start (front ++ entry name x after)) (Scanner.start (front ++ entry name v after)) := by
    refine ⟨⟨⟨front, rfl, rfl⟩, rfl, rfl, rfl⟩, rfl, rfl, rfl, rfl, ?_, ⟨[], rfl, rfl⟩, rfl⟩
    exact .cons .none .nil
  obtain ⟨q, hreach', htwin⟩ := hstart.upTo? hreach (by rw [hplace]; rfl) (Nat.lt_succ_self _)
  refine ⟨_, q, hreach', htwin, ?_⟩
  obtain ⟨taken, hr, hq⟩ := htwin.place.rest
  obtain rfl : taken = [] := by
    rw [hplace] at hr
    exact List.self_eq_append_left.mp hr
  exact hq

/-- Where the one scanner has no candidates, its twin has none either. -/
theorem Ends.TwinKey.eq_of_none {e : Ends} {floor : Nat} {ks ls : List (Option KeyCandidate)}
    (h : List.Forall₂ (e.TwinKey floor) ks ls) (hnone : ∀ k ∈ ks, k = Option.none) : ls = ks := by
  induction h with
  | nil => rfl
  | @cons k l ks ls hkey _ ih =>
    obtain rfl := hnone k List.mem_cons_self
    cases hkey
    rw [ih fun k hk => hnone k (List.mem_cons_of_mem _ hk)]

theorem Ends.TwinScan.blockHere {e : Ends} {old new : List Token} {s t : Scanner}
    (h : e.TwinScan old new s t) (token : Token) :
    e.TwinScan old new (s.blockHere token) (t.blockHere token) := by
  obtain ⟨t', ht', htwin⟩ := Scanner.echoes_blockHere s token h
  obtain rfl := Option.some.inj ht'
  exact htwin

theorem Ends.TwinScan.tokens_eq {e : Ends} {s t : Scanner} (h : e.TwinScan [] [] s t) :
    t.tokens = s.tokens := by
  obtain ⟨later, hs, ht⟩ := h.tokens
  rw [hs, ht]

theorem drop_entry (name written after : List Char) :
    (entry name written after).drop (name.length + written.length + 4) = after := by
  have hentry : entry name written after = (name ++ [':', ' ', '"'] ++ written ++ ['"']) ++ after := by
    simp [entry]
  rw [hentry]
  refine List.drop_left' ?_
  simp only [List.length_append, List.length_cons, List.length_nil]
  omega

/-- Behind an entry the scanners are in the same state but for the text taken. -/
theorem lineEnd_entered {e : Ends} {r q : Scanner} {x v tx tv : List Char} (h : r.AtKey)
    (htwin : e.TwinScan [] [] r q) (hline : q.place.line = r.place.line)
    (hr : r.place.rest = entry name x after) (hq : q.place.rest = entry name v after)
    (hafter : ∀ ch ∈ after.head?, isBreak ch = true) :
    Scanner.LineEnd (r.entered name tx x.length) (q.entered name tv v.length) := by
  have htwin' := htwin.blockHere .blockMappingStart
  have hrest : (r.entered name tx x.length).place.rest = after := by
    simp [Scanner.entered, Scanner.taken, hr, drop_entry]
  have hrest' : (q.entered name tv v.length).place.rest = after := by
    simp [Scanner.entered, Scanner.taken, hq, drop_entry]
  have hindent := Scanner.indent_blockHere h.indent .blockMappingStart
  have hcolumn := htwin.place.column
  refine ⟨hrest'.trans hrest.symm, hline, ?_, hrest.symm ▸ hafter, htwin'.flow, htwin'.indent,
    htwin'.outer, rfl, ?_, ?_, fun hflow => ?_, ?_⟩
  · simp only [Scanner.entered, Scanner.taken, Cursor.column_advance]
    omega
  · simp only [Scanner.entered, Scanner.taken, Scanner.emit, Scanner.keyedBy,
      Ends.TwinKey.eq_of_none htwin.keys h.keys]
  · exact fun k hk => h.keys_keyedBy (show k ∈ (r.keyedBy name).keys from hk)
  · have := hindent hflow
    simp only [Scanner.entered, Scanner.taken, Scanner.emit, Scanner.keyedBy, Cursor.column_advance]
    omega
  · simp [Scanner.entered, Scanner.taken, Scanner.emit, Scanner.keyedBy, htwin'.length_tokens]

/-- The tokens of an entry. -/
def entryTokens (name text : String) : List Token :=
  [.key, .scalar .plain name, .value, .scalar .doubleQuoted text]

theorem reverse_tokens_entered (s : Scanner) (name text : List Char) (width : Nat) :
    (s.entered name text width).tokens.reverse =
      (s.blockHere .blockMappingStart).tokens.reverse ++
        entryTokens (String.ofList name) (String.ofList text) := by
  simp [Scanner.entered, Scanner.taken, Scanner.emit, Scanner.keyedBy, entryTokens]

theorem isAllowed_entry (hname : IsName name) (hreads : ReadsAs written text) {front : List Char} :
    (front ++ entry name written after).all isAllowed = (front ++ after).all isAllowed := by
  have hletters : name.all isAllowed = true :=
    List.all_eq_true.mpr fun ch hch => isAllowed_of_isNameChar (hname.chars ch hch)
  have hmarks : isAllowed ':' = true ∧ isAllowed ' ' = true ∧ isAllowed '"' = true := by decide
  simp [entry, hletters, hreads.allowed, hmarks]

/-- An entry stands alone on its line, and a scanner that comes to the line is at its start and may
find a key there. -/
structure OwnLine (front name written after : List Char) : Prop where
  blank : Scanner.EndsBlank front
  ends : after.head?.all isBreak = true
  reached : ∃ n, ∃ r ∈ Scanner.upTo? (entry name written after).length n
    (Scanner.start (front ++ entry name written after)),
      r.place.rest = entry name written after ∧ r.keyAllowed = true

/-- Whether an entry stands alone on its line does not depend on its text. -/
theorem OwnLine.withWritten {front x : List Char} (hname : IsName name)
    (h : OwnLine front name x after) (v : List Char) : OwnLine front name v after := by
  obtain ⟨hfront, hafter, n, r, hreach, hplace, hallowed⟩ := h
  obtain ⟨m, q, hreach', htwin, hplace'⟩ := upTo?_entry hname v hreach hplace
  exact ⟨hfront, hafter, m, q, hreach', hplace', htwin.keyAllowed.trans hallowed⟩

/-- Texts that differ in the text of one entry have the same tokens but for its scalar. -/
theorem tokens?_entry {front x v tx tv : List Char} {ts : List Token} (hname : IsName name)
    (hline : OwnLine front name x after) (hx : ReadsAs x tx) (hv : ReadsAs v tv)
    (htokens : tokens? (front ++ entry name x after) = some ts) :
    ∃ before behind,
      ts = before ++ entryTokens (String.ofList name) (String.ofList tx) ++ behind ∧
      tokens? (front ++ entry name v after) =
        some (before ++ entryTokens (String.ofList name) (String.ofList tv) ++ behind) := by
  obtain ⟨hfront, hafter, n, r, hreach, hplace, hallowed⟩ := hline
  have hkey : r.AtKey := by
    refine ⟨hallowed, ?_, Scanner.indent_le_of_upTo? hreach⟩
    exact Scanner.keys_eq_none (Scanner.within_start _) hreach (hplace ▸ rfl) hfront
  obtain ⟨m, q, hreach', htwin, hplace'⟩ := upTo?_entry hname v hreach hplace
  have hkey' : q.AtKey := by
    refine ⟨htwin.keyAllowed.trans hallowed, ?_, ?_⟩
    · exact Ends.TwinKey.eq_of_none htwin.keys hkey.keys ▸ hkey.keys
    · rw [htwin.flow, htwin.indent, htwin.place.column]
      exact hkey.indent
  have hline : q.place.line = r.place.line := by
    have := htwin.place.line
    simp only [entryEnds] at this
    omega
  have hend : Scanner.LineEnd (r.entered name tx x.length) (q.entered name tv v.length) :=
    lineEnd_entered hkey htwin hline hplace hplace' (Option.all_eq_true _ _ |>.mp hafter)
  rw [tokens?] at htokens ⊢
  split at htokens
  · rename_i hchars
    obtain ⟨z, hwalk, rfl⟩ := Option.map_eq_some_iff.mp htokens
    have hwalk : (Scanner.start (front ++ entry name x after)).walk? = some z := hwalk
    rw [Scanner.walk?_of_upTo? hreach, Scanner.walkOn?_entry hkey hname hx hplace] at hwalk
    obtain ⟨z', hwalk', later, hz, hz'⟩ := hend.walk? hwalk
    rw [← Scanner.walkOn?_entry hkey' hname hv hplace', ← Scanner.walk?_of_upTo? hreach'] at hwalk'
    have hsame := (htwin.blockHere .blockMappingStart).tokens_eq
    rw [isAllowed_entry hname hx] at hchars
    refine ⟨(r.blockHere .blockMappingStart).tokens.reverse, later.reverse, ?_, ?_⟩
    · rw [hz, List.reverse_append, reverse_tokens_entered]
    · have hscan : Scanner.scan? ((front ++ entry name v after).length + 1)
          (Scanner.start (front ++ entry name v after)) = some z' := hwalk'
      rw [isAllowed_entry hname hv, if_pos hchars, hscan, Option.map_some, hz', List.reverse_append,
        reverse_tokens_entered, hsame]
  · cases htokens

end PowerTelemetry.Yaml
