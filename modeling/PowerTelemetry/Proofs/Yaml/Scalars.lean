import PowerTelemetry.Proofs.Text.Hex
import PowerTelemetry.Proofs.Yaml.Places
import PowerTelemetry.Yaml.Scalar
/-!
# Scalars at twin places

What the readers of plain and quoted scalars find is `Mirrored` (`mirrored_plain?`,
`mirrored_quoted?`), and none of them stays where it is.  A plain scalar is read word by word,
with what is behind a word as a part of its own (`plainBehind?`), and a quoted one part by part
(`quotedPart?`).
-/

namespace PowerTelemetry.Yaml

open Placed

variable {c : Cursor} {n : Nat}

/-! ## Gaps -/

theorem Gap.mirrored_read? {tabFrom : Int} {gap : Gap} {r : Gap × Cursor}
    (hn : c.rest.length ≤ n) (h : Gap.read? tabFrom n gap c = some r) :
    Mirrored (fun m => Gap.read? tabFrom m gap) c r := by
  induction n generalizing gap c with
  | zero =>
    obtain rfl := Option.some.inj h
    refine .stay rfl fun {e d m} htwin hm => ?_
    have hnil : d.rest = [] := htwin.nil (by simpa using hn)
    cases m <;> simp [Gap.read?, Cursor.head?, hnil]
  | succ n ih =>
    rw [Gap.read?] at h
    cases hhead : c.head? with
    | none =>
      obtain rfl := Option.some.inj (by simpa [hhead] using h)
      refine .stay rfl fun {e d m} htwin hm => ?_
      cases m <;> simp [Gap.read?, htwin.head?, hhead]
    | some ch =>
      have hlength := Cursor.length_advance_one hhead
      simp only [hhead] at h
      split at h
      · rename_i hblank
        cases gap with
        | blanks text =>
          refine (ih (by omega) h).advance_one hhead (not_isBreak_of_isBlank hblank) rfl ?_
          intro e d d' m htwin hd
          simp [Gap.read?, htwin.head?, hhead, hblank, hd]
        | broken first more =>
          simp only at h
          split at h
          · cases h
          · rename_i htab
            refine (ih (by omega) h).advance_one hhead (not_isBreak_of_isBlank hblank) rfl ?_
            intro e d d' m htwin hd
            simp [Gap.read?, htwin.head?, hhead, hblank, htab, htwin.column, hd]
      · rename_i hblank
        split at h
        · rename_i hbreak
          have hlt := Cursor.length_takeBreak_lt (c := c) (by simpa [hhead] using hbreak)
          cases gap with
          | blanks text =>
            refine (ih (by omega) h).newLine (by simpa [hhead] using hbreak) rfl ?_
            intro e d d' m htwin hmark hd
            simp [Gap.read?, htwin.head?, hhead, hblank, hbreak, hmark, hd]
          | broken first more =>
            refine (ih (by omega) h).newLine (by simpa [hhead] using hbreak) rfl ?_
            intro e d d' m htwin hmark hd
            simp [Gap.read?, htwin.head?, hhead, hblank, hbreak, hmark, hd]
        · rename_i hbreak
          obtain rfl := Option.some.inj h
          refine .stay rfl fun {e d m} htwin hm => ?_
          cases m <;> simp [Gap.read?, htwin.head?, hhead, hblank, hbreak]

/-- A gap that starts with a blank or a break is not empty. -/
theorem Gap.length_read?_lt {tabFrom : Int} {gap : Gap} {r : Gap × Cursor} {ch : Char}
    (hn : c.rest.length ≤ n) (hhead : c.head? = some ch)
    (hspace : isBlank ch = true ∨ isBreak ch = true) (h : Gap.read? tabFrom n gap c = some r) :
    r.2.rest.length < c.rest.length := by
  have hlength := Cursor.length_advance_one hhead
  obtain ⟨n, rfl⟩ : ∃ k, n = k + 1 := ⟨n - 1, by omega⟩
  have hmore {gap : Gap} {c' : Cursor} (hc' : c'.rest.length < c.rest.length)
      (h : Gap.read? tabFrom n gap c' = some r) : r.2.rest.length < c.rest.length :=
    (mirrored_read? (by omega) h).passes.length_le.trans_lt hc'
  simp only [Gap.read?, hhead] at h
  split at h
  · cases gap with
    | blanks text => exact hmore (by omega) h
    | broken first more =>
      simp only at h
      split at h
      · cases h
      · exact hmore (by omega) h
  · rename_i hblank
    have hbreak : isBreak ch = true := hspace.resolve_left hblank
    have hlt := Cursor.length_takeBreak_lt (c := c) (by simpa [hhead] using hbreak)
    rw [if_pos hbreak] at h
    cases gap with
    | blanks text => exact hmore hlt h
    | broken first more => exact hmore hlt h

/-! ## Plain scalars -/

theorem mirrored_plainWord? {inFlow : Bool} {r : List Char × Cursor} (hn : c.rest.length ≤ n)
    (h : plainWord? inFlow n c = some r) : Mirrored (plainWord? inFlow) c r := by
  induction n generalizing c r with
  | zero =>
    obtain rfl := Option.some.inj h
    refine .stay rfl fun {e d m} htwin hm => ?_
    have hnil : d.rest = [] := htwin.nil (by simpa using hn)
    cases m <;> simp [plainWord?, hnil]
  | succ n ih =>
    rw [plainWord?] at h
    split at h
    · rename_i hrest
      obtain rfl := Option.some.inj h
      refine .stay rfl fun {e d m} htwin hm => ?_
      cases m <;> simp [plainWord?, htwin.nil hrest]
    · rename_i ch after hrest
      have hnext {e : Ends} {d : Cursor} (htwin : e.Twin c d) :
          ∃ after', d.rest = ch :: after' ∧ after'.head? = after.head? := by
        obtain ⟨after', hd, htake⟩ := htwin.cons hrest
        exact ⟨after', hd, by simpa [List.head?_take] using congrArg List.head? htake⟩
      dsimp only at h
      split at h
      · rename_i hspace
        obtain rfl := Option.some.inj h
        refine .stay rfl fun {e d m} htwin hm => ?_
        obtain ⟨after', hd, -⟩ := hnext htwin
        cases m <;> simp_all [plainWord?]
      split at h
      · cases h
      split at h
      · rename_i hspace hmark hstop
        obtain rfl := Option.some.inj h
        refine .stay rfl fun {e d m} htwin hm => ?_
        obtain ⟨after', hd, hhead⟩ := hnext htwin
        rw [← htwin.isSpaceAt (k := 1) (by omega)] at hstop
        cases m <;> simp_all [plainWord?]
      · rename_i hspace hmark hstop
        obtain ⟨s, hs, rfl⟩ := Option.map_eq_some_iff.mp h
        refine (ih ?_ hs).advance_one (show c.head? = some ch from ?_) ?_ rfl ?_
        · simp_all
        · simp [Cursor.head?, hrest]
        · simp_all
        · intro e d d' m htwin hd
          obtain ⟨after', hrest', hhead⟩ := hnext htwin
          rw [← htwin.isSpaceAt (k := 1) (by omega)] at hstop
          rw [plainWord?]
          simp only [hrest', hhead]
          rw [if_neg hspace, if_neg hmark, if_neg hstop, hd]
          rfl

/-- A word is what was taken. -/
theorem rest_plainWord? {inFlow : Bool} {r : List Char × Cursor}
    (h : plainWord? inFlow n c = some r) : c.rest = r.1 ++ r.2.rest := by
  induction n generalizing c r with
  | zero =>
    obtain rfl := Option.some.inj h
    rfl
  | succ n ih =>
    rw [plainWord?] at h
    split at h
    · rename_i hrest
      obtain rfl := Option.some.inj h
      rfl
    · rename_i ch after hrest
      dsimp only at h
      split at h
      · obtain rfl := Option.some.inj h
        rfl
      split at h
      · cases h
      split at h
      · obtain rfl := Option.some.inj h
        rfl
      · obtain ⟨s, hs, rfl⟩ := Option.map_eq_some_iff.mp h
        have htail := ih hs
        rw [Cursor.rest_advance, hrest, List.drop_one, List.tail_cons] at htail
        rw [hrest, htail, List.cons_append]

instance : Placed PlainResult :=
  ⟨PlainResult.after, fun r c => { r with after := c }⟩

theorem plainRest?_nil {inFlow : Bool} {indent : Int} {text : List Char} {gap : Gap}
    (hrest : c.rest = []) :
    plainRest? inFlow indent n text gap c = some ⟨text, c, gap.isBroken⟩ := by
  cases n with
  | zero => rfl
  | succ n =>
    rw [plainRest?]
    split
    · rfl
    · simp [hrest, plainWord?]

/-- The rest of a plain scalar behind one of its words. -/
def plainBehind? (inFlow : Bool) (indent : Int) (n : Nat) (text : List Char) (c : Cursor) :
    Option PlainResult :=
  if c.rest.isEmpty || !c.isSpaceAt 0 then some ⟨text, c, false⟩
  else do
    let g ← Gap.read? indent c.rest.length .none c
    if !inFlow && decide ((g.2.column : Int) < indent) then some ⟨text, g.2, g.1.isBroken⟩
    else plainRest? inFlow indent n text g.1 g.2

theorem plainRest?_succ (inFlow : Bool) (indent : Int) (n : Nat) (text : List Char) (gap : Gap)
    (c : Cursor) :
    plainRest? inFlow indent (n + 1) text gap c =
      (if c.isDocumentMarker || c.startsWith '#' then some ⟨text, c, gap.isBroken⟩
      else do
        let w ← plainWord? inFlow c.rest.length c
        if w.1.isEmpty then some ⟨text, w.2, gap.isBroken⟩
        else plainBehind? inFlow indent n (text ++ gap.text ++ w.1) w.2) := by
  rw [plainRest?]
  split
  · rfl
  · congr 1
    funext ⟨word, c⟩
    dsimp only
    split <;> rfl

theorem mirrored_plainBehind? {inFlow : Bool} {indent : Int} {text : List Char} {r : PlainResult}
    (hrest : ∀ {gap : Gap} {c' : Cursor}, c'.rest.length ≤ c.rest.length →
      plainRest? inFlow indent n text gap c' = some r →
      Mirrored (fun m => plainRest? inFlow indent m text gap) c' r)
    (h : plainBehind? inFlow indent n text c = some r) :
    Mirrored (fun m => plainBehind? inFlow indent m text) c r := by
  rw [plainBehind?] at h
  have hend {e : Ends} {d : Cursor} (htwin : e.Twin c d) :
      (d.rest.isEmpty || !d.isSpaceAt 0) = (c.rest.isEmpty || !c.isSpaceAt 0) := by
    rw [htwin.isEmpty, htwin.isSpaceAt (by omega)]
  split at h
  · rename_i hstop
    obtain rfl := Option.some.inj h
    refine .stay rfl fun htwin _ => ?_
    rw [← hend htwin] at hstop
    exact if_pos hstop
  rename_i hstop
  have hstop' {e : Ends} {d : Cursor} (htwin : e.Twin c d) :
      ¬(d.rest.isEmpty || !d.isSpaceAt 0) = true := by
    rwa [hend htwin]
  obtain ⟨⟨gap, c₁⟩, hgap, h⟩ := Option.bind_eq_some_iff.mp h
  have hfirst := (Gap.mirrored_read? le_rfl hgap).enough fun _ => le_rfl
  dsimp only at h
  split at h
  · rename_i hshallow
    obtain rfl := Option.some.inj h
    refine hfirst.map rfl fun {_ d d' _} htwin _ htwin' hgap' => ?_
    have hcolumn : d'.column = c₁.column := htwin'.column
    rw [← hcolumn] at hshallow
    simp only [plainBehind?, if_neg (hstop' htwin), hgap', moved_pair, Option.bind_eq_bind,
      Option.bind_some]
    exact if_pos hshallow
  · rename_i hdeep
    refine hfirst.bind (hrest hfirst.passes.length_le h) rfl
      fun {_ d d₁ _ _} htwin htwin₁ _ hgap' hrest' => ?_
    have hcolumn : d₁.column = c₁.column := htwin₁.column
    rw [← hcolumn] at hdeep
    simp only [plainBehind?, if_neg (hstop' htwin), hgap', moved_pair, Option.bind_eq_bind,
      Option.bind_some]
    exact (if_neg hdeep).trans hrest'

theorem mirrored_plainRest? {inFlow : Bool} {indent : Int} {text : List Char} {gap : Gap}
    {r : PlainResult} (hn : c.rest.length ≤ n)
    (h : plainRest? inFlow indent n text gap c = some r) :
    Mirrored (fun m => plainRest? inFlow indent m text gap) c r := by
  induction n generalizing text gap c with
  | zero =>
    obtain rfl := Option.some.inj h
    exact .stay rfl fun htwin _ => plainRest?_nil (htwin.nil (by simpa using hn))
  | succ n ih =>
    by_cases hnil : c.rest = []
    case pos =>
      rw [plainRest?_nil hnil] at h
      obtain rfl := Option.some.inj h
      exact .stay rfl fun htwin _ => plainRest?_nil (htwin.nil hnil)
    case neg =>
    rw [plainRest?_succ] at h
    split at h
    · rename_i hstop
      obtain rfl := Option.some.inj h
      refine .stay rfl fun {e d m} htwin hm => ?_
      obtain ⟨m, rfl⟩ := htwin.exists_succ hnil hm
      rw [← htwin.isDocumentMarker, ← htwin.startsWith] at hstop
      rw [plainRest?_succ, if_pos hstop]
      rfl
    rename_i hstop
    have hstop' {e : Ends} {d : Cursor} (htwin : e.Twin c d) :
        ¬(d.isDocumentMarker || d.startsWith '#') = true := by
      rwa [htwin.isDocumentMarker, htwin.startsWith]
    obtain ⟨⟨word, c₁⟩, hword, h⟩ := Option.bind_eq_some_iff.mp h
    have hfirst := (mirrored_plainWord? le_rfl hword).enough fun _ => le_rfl
    dsimp only at h
    split at h
    · rename_i hempty
      obtain rfl := Option.some.inj h
      refine hfirst.map rfl fun htwin hm _ hword' => ?_
      obtain ⟨m, rfl⟩ := htwin.exists_succ hnil hm
      simp only [plainRest?_succ, if_neg (hstop' htwin), hword', moved_pair, Option.bind_eq_bind,
        Option.bind_some]
      exact if_pos hempty
    · rename_i hempty
      have hlt : c₁.rest.length < c.rest.length := by
        have hpos : 0 < word.length := List.length_pos_iff.mpr (by simpa using hempty)
        simp only [rest_plainWord? hword, List.length_append]
        omega
      have hbehind := mirrored_plainBehind? (fun hle => ih (by omega)) h
      refine hfirst.step hbehind hlt rfl fun htwin _ hword' hbehind' => ?_
      simp only [plainRest?_succ, if_neg (hstop' htwin), hword', moved_pair, Option.bind_eq_bind,
        Option.bind_some]
      exact (if_neg hempty).trans hbehind'

theorem mirrored_plain? {inFlow : Bool} {indent : Int} {r : PlainResult}
    (h : plain? inFlow indent c = some r) : Mirrored (fun _ => plain? inFlow indent) c r :=
  (mirrored_plainRest? (Nat.le_succ _) h).enough fun _ => Nat.le_succ _

/-- A plain scalar is not empty where its first character is one of it. -/
theorem length_plain?_lt {inFlow : Bool} {indent : Int} {r : PlainResult} {ch : Char}
    (hhead : c.head? = some ch) (hmarker : c.isDocumentMarker = false) (hcomment : ch ≠ '#')
    (hspace : (isBlank ch || isBreak ch) = false)
    (hend : (ch == ':' && c.isSpaceAt 1 || inFlow && isFlowMark ch) = false)
    (h : plain? inFlow indent c = some r) : r.after.rest.length < c.rest.length := by
  have hstart : ¬(c.isDocumentMarker || c.startsWith '#') = true := by
    simpa [hmarker, Cursor.startsWith, hhead] using hcomment
  rw [plain?, plainRest?_succ, if_neg hstart] at h
  obtain ⟨⟨word, c₁⟩, hword, h⟩ := Option.bind_eq_some_iff.mp h
  have hlt : c₁.rest.length < c.rest.length := by
    have hlength := Cursor.length_advance_one hhead
    rw [← hlength, plainWord?, Cursor.rest_of_head? hhead] at hword
    dsimp only at hword
    rw [if_neg (by simpa using hspace)] at hword
    split at hword
    · cases hword
    rw [if_neg (by simpa using hend)] at hword
    obtain ⟨s, hs, heq⟩ := Option.map_eq_some_iff.mp hword
    obtain ⟨rfl, rfl⟩ := Prod.mk.inj heq
    exact (mirrored_plainWord? le_rfl hs).passes.length_lt hhead
  dsimp only at h
  split at h
  · obtain rfl := Option.some.inj h
    exact hlt
  · have hbehind := mirrored_plainBehind? (fun hle => mirrored_plainRest? (by omega)) h
    exact hbehind.passes.length_le.trans_lt hlt

/-! ## Quoted scalars -/

instance : Placed QuotedWord :=
  ⟨QuotedWord.after, fun w c => { w with after := c }⟩

@[simp] theorem place_quotedWord (w : QuotedWord) : place w = w.after := rfl

@[simp] theorem moved_quotedWord (w : QuotedWord) (c : Cursor) :
    moved w c = { w with after := c } := rfl

theorem singleQuotedWord_succ (n : Nat) (c : Cursor) :
    singleQuotedWord (n + 1) c =
      if c.rest.take 2 = ['\'', '\''] then
        let w := singleQuotedWord n (c.advance 2)
        { w with text := '\'' :: w.text }
      else
        match c.head? with
        | none => ⟨[], c, false⟩
        | some ch =>
          if ch = '\'' ∨ isBlank ch ∨ isBreak ch then ⟨[], c, false⟩
          else
            let w := singleQuotedWord n (c.advance 1)
            { w with text := ch :: w.text } := by
  rw [singleQuotedWord]
  split
  · rename_i hrest
    simp [hrest]
  · rename_i ch after hpair hrest
    have hother : c.rest.take 2 ≠ ['\'', '\''] := by
      rintro htake
      cases after with
      | nil => simp [hrest] at htake
      | cons second after =>
        obtain ⟨rfl, rfl⟩ : ch = '\'' ∧ second = '\'' := by simpa [hrest] using htake
        exact hpair _ rfl rfl
    rw [if_neg hother]
    simp only [Cursor.head?, hrest, List.head?_cons]
  · rename_i hrest
    simp [hrest, Cursor.head?]

theorem mirrored_singleQuotedWord (hn : c.rest.length ≤ n) :
    Mirrored (fun m d => some (singleQuotedWord m d)) c (singleQuotedWord n c) := by
  induction n generalizing c with
  | zero =>
    refine .stay rfl fun {e d m} htwin hm => ?_
    have hnil : d.rest = [] := htwin.nil (by simpa using hn)
    cases m <;> simp [singleQuotedWord, hnil]
  | succ n ih =>
    rw [singleQuotedWord_succ]
    split
    · rename_i hpair
      have hlength := congrArg List.length hpair
      simp only [List.length_take, List.length_cons, List.length_nil] at hlength
      refine (ih (c := c.advance 2) ?_).advance Nat.two_pos (by omega) ?_ rfl ?_
      · simp only [Cursor.rest_advance, List.length_drop]
        omega
      · rw [hpair]
        simp [isBreak]
      · intro e d d' m htwin htake hd
        simp only [singleQuotedWord_succ, if_pos (htake.trans hpair), Option.some.inj hd,
          moved_quotedWord]
    · rename_i hpair
      have hpair' {e : Ends} {d : Cursor} (htwin : e.Twin c d) : d.rest.take 2 ≠ ['\'', '\''] := by
        rwa [htwin.take_two]
      cases hhead : c.head? with
      | none =>
        refine .stay rfl fun {e d m} htwin hm => ?_
        have hnil : d.rest = [] := htwin.nil (by simpa [Cursor.head?] using hhead)
        cases m <;> simp [singleQuotedWord, hnil]
      | some ch =>
        dsimp only
        split
        · rename_i hstop
          refine .stay rfl fun {e d m} htwin hm => ?_
          cases m with
          | zero => rfl
          | succ m =>
            simp only [singleQuotedWord_succ, if_neg (hpair' htwin), htwin.head?, hhead, if_pos hstop,
              moved_quotedWord]
        · rename_i hstop
          have hlength := Cursor.length_advance_one hhead
          refine (ih (by omega)).advance_one hhead (by simp_all) rfl fun htwin hd => ?_
          simp only [singleQuotedWord_succ, if_neg (hpair' htwin), htwin.head?, hhead, if_neg hstop,
            Option.some.inj hd, moved_quotedWord]

theorem not_isBreak_of_hexNumber? {ds : List Char} {k : Nat} (h : Text.hexNumber? ds = some k) :
    ∀ ch ∈ ds, isBreak ch = false := by
  intro ch hch
  obtain ⟨v, hv⟩ := Text.exists_hexDigit?_of_hexNumber? h ch hch
  exact not_isBreak_of (p := fun ch => (Text.hexDigit? ch).isSome) (by decide) (by simp [hv])

theorem not_isBreak_of_escaped? {letter ch : Char} (h : escaped? letter = some ch) :
    isBreak letter = false :=
  not_isBreak_of (p := fun letter => (escaped? letter).isSome) (by decide) (by simp [h])

theorem not_isBreak_of_escapeDigits? {letter : Char} {count : Nat}
    (h : escapeDigits? letter = some count) : isBreak letter = false :=
  not_isBreak_of (p := fun letter => (escapeDigits? letter).isSome) (by decide) (by simp [h])

/-- The character that stands behind a backslash at a place, and the place behind it. -/
def escapedChar? (c : Cursor) : Option (Char × Cursor) := do
  let letter ← c.rest[1]?
  match escaped? letter, escapeDigits? letter with
  | some e, _ => some (e, c.advance 2)
  | none, some count =>
    if c.rest.length < 2 + count then none
    else do
      let number ← Text.hexNumber? ((c.rest.drop 2).take count)
      let e ← character? number
      some (e, c.advance (2 + count))
  | none, none => none

theorem mirrored_escapedChar? {r : Char × Cursor} (hhead : c.head? = some '\\')
    (h : escapedChar? c = some r) : Mirrored (fun _ => escapedChar?) c r := by
  obtain ⟨letter, hletter, h⟩ := Option.bind_eq_some_iff.mp h
  have hletter' {e : Ends} {d : Cursor} (htwin : e.Twin c d) : d.rest[1]? = some letter := by
    rw [htwin.getElem? (by omega), hletter]
  have hopening (hbreak : isBreak letter = false) : ∀ ch ∈ c.rest.take 2, isBreak ch = false := by
    obtain ⟨tail, hc⟩ := List.head?_eq_some_iff.mp hhead
    have htail : tail.head? = some letter := by simpa [hc, List.head?_eq_getElem?] using hletter
    obtain ⟨after, rfl⟩ := List.head?_eq_some_iff.mp htail
    simpa [hc, hbreak] using (by decide : isBreak '\\' = false)
  split at h
  · rename_i e _ hescaped
    obtain rfl := Option.some.inj h
    have hpasses := Cursor.passes_advance (hopening (not_isBreak_of_escaped? hescaped))
    refine (Mirrored.of_advance hpasses).map rfl fun htwin _ _ hadvance => ?_
    obtain rfl := Option.some.inj hadvance
    simp [escapedChar?, hletter' htwin, hescaped]
  · rename_i count hescaped hdigits
    split at h
    · cases h
    rename_i hlong
    simp only [Option.bind_eq_bind, Option.bind_eq_some_iff] at h
    obtain ⟨number, hnumber, e, he, h⟩ := h
    obtain rfl := Option.some.inj h
    have hbreaks : ∀ ch ∈ c.rest.take (2 + count), isBreak ch = false := by
      rw [List.take_add]
      intro ch hch
      rcases List.mem_append.mp hch with hch | hch
      · exact hopening (not_isBreak_of_escapeDigits? hdigits) ch hch
      · exact not_isBreak_of_hexNumber? hnumber ch hch
    refine (Mirrored.of_take (Cursor.passes_advance hbreaks)).map rfl
      fun {_ d _ _} htwin _ _ htaken => ?_
    obtain ⟨htake, rfl⟩ := Prod.mk.inj (Option.some.inj htaken)
    have hlong' : ¬d.rest.length < 2 + count := by
      have := congrArg List.length htake
      simp only [List.length_take] at this
      omega
    have hsame : (d.rest.drop 2).take count = (c.rest.drop 2).take count := by
      have hdrop (l : List Char) : (l.drop 2).take count = (l.take (2 + count)).drop 2 := by
        rw [List.drop_take, Nat.add_sub_cancel_left]
      rw [hdrop, hdrop, htake]
    simp only [escapedChar?, hletter' htwin, hescaped, hdigits, if_neg hlong', hsame, hnumber, he,
      Option.bind_eq_bind, Option.bind_some, moved_pair, moved_cursor]
  · cases h

/-- The character at a place between double quotes, and the place behind it. -/
def quotedChar? (c : Cursor) : Option (Char × Cursor) := do
  let ch ← c.head?
  if ch = '\\' then escapedChar? c else some (ch, c.advance 1)

theorem mirrored_quotedChar? {r : Char × Cursor} {ch : Char} (hhead : c.head? = some ch)
    (hbreak : isBreak ch = false) (h : quotedChar? c = some r) :
    Mirrored (fun _ => quotedChar?) c r := by
  simp only [quotedChar?, hhead, Option.bind_eq_bind, Option.bind_some] at h
  split at h
  · rename_i hslash
    refine (mirrored_escapedChar? (hslash ▸ hhead) h).map rfl fun htwin _ _ hescaped => ?_
    simp only [quotedChar?, htwin.head?, hhead, Option.bind_eq_bind, Option.bind_some,
      if_pos hslash, hescaped]
  · rename_i hslash
    obtain rfl := Option.some.inj h
    refine (Mirrored.of_advance (Cursor.passes_advance_one hhead hbreak)).map rfl
      fun htwin _ _ hadvance => ?_
    obtain rfl := Option.some.inj hadvance
    simp only [quotedChar?, htwin.head?, hhead, Option.bind_eq_bind, Option.bind_some,
      if_neg hslash, moved_pair, moved_cursor]

theorem length_quotedChar?_lt {r : Char × Cursor} (h : quotedChar? c = some r) :
    r.2.rest.length < c.rest.length := by
  obtain ⟨ch, hhead, h⟩ := Option.bind_eq_some_iff.mp h
  have hnil : c.rest ≠ [] := Cursor.rest_ne_nil hhead
  split at h
  · obtain ⟨letter, -, h⟩ := Option.bind_eq_some_iff.mp h
    split at h
    · obtain rfl := Option.some.inj h
      exact Cursor.length_advance_lt Nat.two_pos hnil
    · split at h
      · cases h
      simp only [Option.bind_eq_bind, Option.bind_eq_some_iff] at h
      obtain ⟨_, _, _, _, h⟩ := h
      obtain rfl := Option.some.inj h
      exact Cursor.length_advance_lt (by omega) hnil
    · cases h
  · obtain rfl := Option.some.inj h
    exact Cursor.length_advance_lt Nat.one_pos hnil

theorem doubleQuotedWord?_succ (n : Nat) (c : Cursor) :
    doubleQuotedWord? (n + 1) c =
      match c.head? with
      | none => some ⟨[], c, false⟩
      | some ch =>
        if ch = '"' ∨ isBlank ch ∨ isBreak ch then some ⟨[], c, false⟩
        else if ch = '\\' ∧ c.rest[1]?.any isBreak then some ⟨[], (c.advance 1).takeBreak.2, true⟩
        else do
          let r ← quotedChar? c
          let w ← doubleQuotedWord? n r.2
          return { w with text := r.1 :: w.text } := by
  have hslash : ¬('\\' = '"' ∨ isBlank '\\' = true ∨ isBreak '\\' = true) := by decide
  rw [doubleQuotedWord?]
  split
  · rename_i letter rest hrest
    have hcount (count : Nat) :
        (rest.length + 1 + 1 < 2 + count) = (rest.length < count) := by
      rw [eq_iff_iff]
      omega
    simp only [Cursor.head?, hrest, List.head?_cons, if_neg hslash, quotedChar?, escapedChar?,
      List.getElem?_cons_succ, List.getElem?_cons_zero, Option.any_some, true_and, if_true,
      List.drop_succ_cons, List.drop_zero, List.length_cons, hcount, Option.bind_eq_bind,
      Option.bind_some]
    split
    · rfl
    cases escaped? letter with
    | some e => rfl
    | none =>
      cases escapeDigits? letter with
      | none => rfl
      | some count =>
        dsimp only
        split
        · rfl
        · simp only [Option.bind_assoc, Option.bind_some]
  · rename_i hrest
    simp only [Cursor.head?, hrest, List.head?_cons, if_neg hslash, quotedChar?, escapedChar?,
      List.getElem?_cons_succ, List.getElem?_nil, Option.any_none, Bool.false_eq_true, and_false,
      if_false, if_true, Option.bind_eq_bind, Option.bind_some, Option.bind_none]
  · rename_i ch after hpair hsingle hrest
    have hother : ch ≠ '\\' := by
      rintro rfl
      cases after with
      | nil => exact hsingle rfl rfl
      | cons letter after => exact hpair _ _ rfl rfl
    simp [Cursor.head?, hrest, hother, quotedChar?]
  · rename_i hrest
    simp [hrest, Cursor.head?]

theorem mirrored_doubleQuotedWord? {w : QuotedWord} (hn : c.rest.length ≤ n)
    (h : doubleQuotedWord? n c = some w) : Mirrored doubleQuotedWord? c w := by
  induction n generalizing c w with
  | zero =>
    obtain rfl := Option.some.inj h
    refine .stay rfl fun {e d m} htwin hm => ?_
    have hnil : d.rest = [] := htwin.nil (by simpa using hn)
    cases m <;> simp [doubleQuotedWord?, hnil]
  | succ n ih =>
    rw [doubleQuotedWord?_succ] at h
    cases hhead : c.head? with
    | none =>
      simp only [hhead] at h
      obtain rfl := Option.some.inj h
      refine .stay rfl fun {e d m} htwin hm => ?_
      cases m with
      | zero => rfl
      | succ m => simp only [doubleQuotedWord?_succ, htwin.head?, hhead, moved_quotedWord]
    | some ch =>
      have hnil : c.rest ≠ [] := Cursor.rest_ne_nil hhead
      simp only [hhead] at h
      split at h
      · rename_i hstop
        obtain rfl := Option.some.inj h
        refine .stay rfl fun {e d m} htwin hm => ?_
        obtain ⟨m, rfl⟩ := htwin.exists_succ hnil hm
        simp only [doubleQuotedWord?_succ, htwin.head?, hhead, if_pos hstop, moved_quotedWord]
      rename_i hstop
      have hbreak : isBreak ch = false := by simp_all
      split at h
      · rename_i hjoined
        obtain rfl := Option.some.inj h
        have hmark := Mirrored.of_advance (Cursor.passes_advance_one hhead hbreak)
        refine (hmark.behind (.of_takeBreak _) fun _ => le_rfl).map rfl fun htwin hm _ hbreak' => ?_
        obtain ⟨m, rfl⟩ := htwin.exists_succ hnil hm
        rw [← htwin.getElem? (by omega)] at hjoined
        simp only [doubleQuotedWord?_succ, htwin.head?, hhead, if_neg hstop, if_pos hjoined,
          Option.some.inj hbreak']
        rfl
      · rename_i hopen
        obtain ⟨⟨e, c₁⟩, hchar, h⟩ := Option.bind_eq_some_iff.mp h
        obtain ⟨w', hw, h⟩ := Option.bind_eq_some_iff.mp h
        obtain rfl := Option.some.inj h
        have hlt : c₁.rest.length < c.rest.length := length_quotedChar?_lt hchar
        have hmore := ih (show c₁.rest.length ≤ n by omega) hw
        refine (mirrored_quotedChar? hhead hbreak hchar).step hmore hlt rfl
          fun htwin _ hchar' hw' => ?_
        simp only [doubleQuotedWord?_succ, htwin.head?, hhead, if_neg hstop,
          htwin.getElem? (k := 1) (by omega), if_neg hopen, hchar', hw', Option.bind_eq_bind,
          Option.bind_some, moved_pair, moved_cursor, moved_quotedWord]
        rfl

/-- A word ends behind an escaped break, or in front of a blank, a break, a quote or the
end. -/
def QuotedWord.Ends (quote : Char) (c : Cursor) (w : QuotedWord) : Prop :=
  w.after.rest.length < c.rest.length ∧ w.joined = true ∨
    ∀ ch ∈ w.after.head?, ch = quote ∨ isBlank ch = true ∨ isBreak ch = true

theorem QuotedWord.Ends.of_length_le {quote : Char} {c' : Cursor} {w : QuotedWord}
    {text : List Char} (h : w.Ends quote c') (hle : c'.rest.length ≤ c.rest.length) :
    QuotedWord.Ends quote c { w with text := text } :=
  h.imp_left fun ⟨hlength, hjoined⟩ => ⟨hlength.trans_le hle, hjoined⟩

theorem ends_singleQuotedWord (hn : c.rest.length ≤ n) : (singleQuotedWord n c).Ends '\'' c := by
  induction n generalizing c with
  | zero => exact .inr (by simp_all [singleQuotedWord, Cursor.head?])
  | succ n ih =>
    rw [singleQuotedWord_succ]
    split
    · refine (ih ?_).of_length_le (c.length_advance_le 2)
      simp only [Cursor.rest_advance, List.length_drop]
      omega
    · cases hhead : c.head? with
      | none => exact .inr (by simp [hhead])
      | some ch =>
        dsimp only
        split
        · exact .inr (by simp_all)
        · have hlength := Cursor.length_advance_one hhead
          exact (ih (by omega)).of_length_le (c.length_advance_le 1)

theorem ends_doubleQuotedWord? {w : QuotedWord} (hn : c.rest.length ≤ n)
    (h : doubleQuotedWord? n c = some w) : w.Ends '"' c := by
  induction n generalizing c w with
  | zero =>
    obtain rfl := Option.some.inj h
    exact .inr (by simp_all [Cursor.head?])
  | succ n ih =>
    rw [doubleQuotedWord?_succ] at h
    cases hhead : c.head? with
    | none =>
      simp only [hhead] at h
      obtain rfl := Option.some.inj h
      exact .inr (by simp [hhead])
    | some ch =>
      simp only [hhead] at h
      split at h
      · obtain rfl := Option.some.inj h
        exact .inr (by simp_all)
      split at h
      · obtain rfl := Option.some.inj h
        have hlength := Cursor.length_advance_one hhead
        have hle := (Cursor.passes_takeBreak (c.advance 1)).length_le
        exact .inl ⟨(show (c.advance 1).takeBreak.2.rest.length < _ by omega), rfl⟩
      · obtain ⟨⟨e, c₁⟩, hchar, h⟩ := Option.bind_eq_some_iff.mp h
        obtain ⟨w', hw, h⟩ := Option.bind_eq_some_iff.mp h
        obtain rfl := Option.some.inj h
        have hlt : c₁.rest.length < c.rest.length := length_quotedChar?_lt hchar
        exact (ih (show c₁.rest.length ≤ n by omega) hw).of_length_le hlt.le

/-- The quote around a scalar. -/
def quoteMark (double : Bool) : Char :=
  if double then '"' else '\''

/-- The word at a place of a quoted scalar. -/
def quotedWord? (double : Bool) (c : Cursor) : Option QuotedWord :=
  if double then doubleQuotedWord? c.rest.length c else some (singleQuotedWord c.rest.length c)

theorem mirrored_quotedWord? {double : Bool} {w : QuotedWord} (h : quotedWord? double c = some w) :
    Mirrored (fun _ => quotedWord? double) c w := by
  cases double with
  | true => exact (mirrored_doubleQuotedWord? le_rfl h).enough fun _ => le_rfl
  | false =>
    obtain rfl := Option.some.inj h
    exact (mirrored_singleQuotedWord (c := c) le_rfl).enough fun _ => le_rfl

theorem ends_quotedWord? {double : Bool} {w : QuotedWord} (h : quotedWord? double c = some w) :
    w.Ends (quoteMark double) c := by
  cases double with
  | true => exact ends_doubleQuotedWord? le_rfl h
  | false =>
    obtain rfl := Option.some.inj h
    exact ends_singleQuotedWord le_rfl

/-- The gap behind a word of a quoted scalar. -/
def QuotedWord.gap? (w : QuotedWord) : Option (Gap × Cursor) :=
  Gap.read? 0 w.after.rest.length (if w.joined then .broken [] [] else .none) w.after

/-- A part of a quoted scalar: a word with the closing quote, or else with the gap behind it. -/
def quotedPart? (double : Bool) (c : Cursor) : Option (Bool × List Char × Cursor) := do
  let w ← quotedWord? double c
  if w.after.startsWith (quoteMark double) then some (true, w.text, w.after.advance 1)
  else do
    let r ← w.gap?
    some (false, w.text ++ r.1.text, r.2)

theorem quotedRest?_succ (double : Bool) (n : Nat) (text : List Char) (c : Cursor) :
    quotedRest? double (n + 1) text c =
      (if c.isDocumentMarker || c.rest.isEmpty then none
      else do
        let p ← quotedPart? double c
        if p.1 then some (text ++ p.2.1, p.2.2)
        else quotedRest? double n (text ++ p.2.1) p.2.2) := by
  have hword : quotedRest? double (n + 1) text c =
      (if c.isDocumentMarker || c.rest.isEmpty then none
      else do
        let w ← quotedWord? double c
        if w.after.startsWith (quoteMark double) then some (text ++ w.text, w.after.advance 1)
        else do
          let r ← w.gap?
          quotedRest? double n (text ++ w.text ++ r.1.text) r.2) := by
    cases double <;> rfl
  rw [hword]
  congr 1
  cases hw : quotedWord? double c with
  | none => simp [quotedPart?, hw]
  | some w =>
    simp only [quotedPart?, hw, Option.bind_eq_bind, Option.bind_some]
    split
    · rfl
    · cases w.gap? <;> simp

theorem mirrored_quotedPart? {double : Bool} {p : Bool × List Char × Cursor}
    (h : quotedPart? double c = some p) : Mirrored (fun _ => quotedPart? double) c p := by
  obtain ⟨w, hword, h⟩ := Option.bind_eq_some_iff.mp h
  have hfirst := mirrored_quotedWord? hword
  split at h
  · rename_i hclosed
    obtain rfl := Option.some.inj h
    have hhead : w.after.head? = some (quoteMark double) := by
      simpa [Cursor.startsWith] using hclosed
    have hmark := Cursor.passes_advance_one hhead (by cases double <;> rfl)
    refine hfirst.bind (.of_advance hmark) rfl fun _ htwin₁ _ hword' hmark' => ?_
    obtain rfl := Option.some.inj hmark'
    simp only [quotedPart?, hword', Option.bind_eq_bind, Option.bind_some]
    exact if_pos ((htwin₁.startsWith _).trans hclosed)
  · rename_i hopen
    obtain ⟨⟨gap, c₁⟩, hgap, h⟩ := Option.bind_eq_some_iff.mp h
    obtain rfl := Option.some.inj h
    have hsecond := (Gap.mirrored_read? le_rfl hgap).enough fun _ => le_rfl
    refine hfirst.bind hsecond rfl fun _ htwin₁ _ hword' hgap' => ?_
    have hgap' : QuotedWord.gap? (moved w _) = some (gap, _) := hgap'
    simp only [quotedPart?, hword', hgap', Option.bind_eq_bind, Option.bind_some]
    exact if_neg ((htwin₁.startsWith _).symm ▸ hopen)

/-- A word and the gap behind it are not empty, unless the text ends. -/
theorem length_quotedPart?_lt {double : Bool} {text : List Char} {c' : Cursor}
    (h : quotedPart? double c = some (false, text, c')) (hmore : c'.rest ≠ []) :
    c'.rest.length < c.rest.length := by
  obtain ⟨w, hword, h⟩ := Option.bind_eq_some_iff.mp h
  split at h
  · cases h
  rename_i hopen
  obtain ⟨⟨gap, c₁⟩, hgap, h⟩ := Option.bind_eq_some_iff.mp h
  obtain ⟨rfl, rfl⟩ : w.text ++ gap.text = text ∧ c₁ = c' := by simpa using h
  have hpasses : c₁.rest.length ≤ w.after.rest.length :=
    (Gap.mirrored_read? le_rfl hgap).passes.length_le
  have hle : w.after.rest.length ≤ c.rest.length := (mirrored_quotedWord? hword).passes.length_le
  rcases ends_quotedWord? hword with ⟨hlt, -⟩ | hstop
  · omega
  · cases hhead : w.after.head? with
    | none =>
      have hnil : w.after.rest = [] := by simpa [Cursor.head?] using hhead
      rw [hnil, List.length_nil, Nat.le_zero, List.length_eq_zero_iff] at hpasses
      exact absurd hpasses hmore
    | some ch =>
      have hspace := hstop ch hhead
      have hquote : ch ≠ quoteMark double := by
        rintro rfl
        exact hopen (by simp [Cursor.startsWith, hhead])
      exact (Gap.length_read?_lt le_rfl hhead (hspace.resolve_left hquote) hgap).trans_le hle

theorem mirrored_quotedRest? {double : Bool} {text : List Char} {r : List Char × Cursor}
    (hn : c.rest.length ≤ n) (h : quotedRest? double n text c = some r) :
    Mirrored (fun m => quotedRest? double m text) c r := by
  induction n generalizing text c with
  | zero => cases h
  | succ n ih =>
    rw [quotedRest?_succ] at h
    split at h
    · cases h
    rename_i hstart
    have hnil : c.rest ≠ [] := by
      rintro hc
      simp [hc] at hstart
    have hstart' {e : Ends} {d : Cursor} (htwin : e.Twin c d) :
        ¬(d.isDocumentMarker || d.rest.isEmpty) = true := by
      rwa [htwin.isDocumentMarker, htwin.isEmpty]
    obtain ⟨⟨closed, part, c₁⟩, hpart, h⟩ := Option.bind_eq_some_iff.mp h
    have hfirst := mirrored_quotedPart? hpart
    cases closed with
    | true =>
      obtain rfl := Option.some.inj h
      refine hfirst.map rfl fun htwin hm _ hpart' => ?_
      obtain ⟨m, rfl⟩ := htwin.exists_succ hnil hm
      simp only [quotedRest?_succ, if_neg (hstart' htwin), hpart', moved_pair, Option.bind_eq_bind,
        Option.bind_some, if_true]
    | false =>
      have hmore : c₁.rest ≠ [] := by
        rintro hc₁
        cases n with
        | zero => cases h
        | succ n => simp [quotedRest?_succ, hc₁] at h
      have hlt : c₁.rest.length < c.rest.length := length_quotedPart?_lt hpart hmore
      have hrest := ih (show c₁.rest.length ≤ n by omega) h
      refine hfirst.step hrest hlt rfl fun htwin _ hpart' hrest' => ?_
      simp only [quotedRest?_succ, if_neg (hstart' htwin), hpart', moved_pair, moved_cursor,
        Option.bind_eq_bind, Option.bind_some]
      exact hrest'

theorem length_quoted?_lt {double : Bool} {r : List Char × Cursor} {ch : Char}
    (hhead : c.head? = some ch) (h : quoted? double c = some r) :
    r.2.rest.length < c.rest.length := by
  have hlength := Cursor.length_advance_one hhead
  exact (mirrored_quotedRest? (by omega) h).passes.length_lt hhead

theorem mirrored_quoted? {double : Bool} {r : List Char × Cursor}
    (hhead : c.head? = some (quoteMark double)) (h : quoted? double c = some r) :
    Mirrored (fun _ => quoted? double) c r := by
  have hmark := Cursor.passes_advance_one hhead (by cases double <;> rfl)
  have hfuel (d : Cursor) : (d.advance 1).rest.length ≤ d.rest.length + 1 :=
    (d.length_advance_le 1).trans (Nat.le_succ _)
  exact (Mirrored.of_advance hmark).behind (mirrored_quotedRest? (hfuel c) h) hfuel

end PowerTelemetry.Yaml
