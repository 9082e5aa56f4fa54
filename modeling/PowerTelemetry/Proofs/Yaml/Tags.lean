import PowerTelemetry.Proofs.Yaml.Blocks
import PowerTelemetry.Yaml.Token
/-!
# Anchors, tags and directives at twin places

What the readers of these find is `Mirrored` (`mirrored_anchorName?`, `mirrored_tag?`,
`mirrored_directive?`).
-/

namespace PowerTelemetry.Yaml

open Placed

variable {c : Cursor} {n : Nat}

theorem not_isBreak_of_isWordChar {ch : Char} (h : isWordChar ch = true) : isBreak ch = false :=
  not_isBreak_of (by decide) h

theorem not_isBreak_of_isTagChar {wide : Bool} {ch : Char} (h : isTagChar wide ch = true) :
    isBreak ch = false :=
  not_isBreak_of (p := isTagChar wide) (by cases wide <;> decide) h

/-! ## Anchors -/

/-- A mark and the word behind it. -/
theorem mirrored_word {ch : Char} (hhead : c.head? = some ch) (hch : isBreak ch = false) :
    Mirrored (fun _ d => some ((d.advance 1).span isWordChar)) c ((c.advance 1).span isWordChar) :=
  have hmark := Mirrored.of_advance (Cursor.passes_advance_one hhead hch)
  hmark.behind (.of_span fun _ => not_isBreak_of_isWordChar) fun _ => le_rfl

theorem mirrored_anchorName? {r : String × Cursor} {ch : Char} (hhead : c.head? = some ch)
    (hch : isBreak ch = false) (h : anchorName? c = some r) :
    Mirrored (fun _ => anchorName?) c r := by
  rw [anchorName?] at h
  dsimp only at h
  split at h
  · rename_i hname
    obtain rfl := Option.some.inj h
    refine (mirrored_word hhead hch).map rfl fun {e d d' _} _ _ htwin' hword' => ?_
    have htwin' : e.Twin ((c.advance 1).span isWordChar).2 d' := htwin'
    rw [← htwin'.isSpaceAt (by omega), ← htwin'.head?] at hname
    rw [anchorName?, Option.some.inj hword']
    exact if_pos hname
  · cases h

theorem length_anchorName?_lt {r : String × Cursor} {ch : Char} (hhead : c.head? = some ch)
    (h : anchorName? c = some r) : r.2.rest.length < c.rest.length := by
  rw [anchorName?] at h
  dsimp only at h
  split at h
  · obtain rfl := Option.some.inj h
    exact (Cursor.passes_span fun _ => not_isBreak_of_isWordChar).length_lt hhead
  · cases h

/-! ## Tags -/

/-- Escaped bytes are read from what is taken alone. -/
theorem escapedBytes?_eq_some {count : Nat} {cs : List Char} {bytes : List UInt8}
    (h : escapedBytes? count cs = some bytes) :
    3 * count ≤ cs.length ∧ (∀ ch ∈ cs.take (3 * count), isBreak ch = false) ∧
      ∀ cs', cs'.take (3 * count) = cs.take (3 * count) → escapedBytes? count cs' = some bytes := by
  induction count generalizing cs bytes with
  | zero =>
    refine ⟨by simp, by simp, fun cs' _ => ?_⟩
    rw [escapedBytes?] at h ⊢
    exact h
  | succ count ih =>
    obtain ⟨a, b, rest, rfl⟩ : ∃ a b rest, cs = '%' :: a :: b :: rest := by
      rw [escapedBytes?.eq_def] at h
      split at h
      · contradiction
      · exact ⟨_, _, _, rfl⟩
      · cases h
    simp only [escapedBytes?, Option.bind_eq_bind, Option.bind_eq_some_iff] at h
    obtain ⟨k, hk, more, hmore, h⟩ := h
    obtain ⟨hlength, hbreaks, hsame⟩ := ih hmore
    have hthree : 3 * (count + 1) = 3 * count + 3 := by omega
    simp only [hthree, List.length_cons, List.take_succ_cons]
    refine ⟨by omega, ?_, fun cs' hcs' => ?_⟩
    · have hdigits := not_isBreak_of_hexNumber? hk
      simp only [List.mem_cons, List.not_mem_nil, or_false, forall_eq_or_imp, forall_eq] at hdigits ⊢
      exact ⟨by decide, hdigits.1, hdigits.2, hbreaks⟩
    · obtain ⟨rest', rfl⟩ : ∃ rest', cs' = '%' :: a :: b :: rest' := by
        rcases cs' with _ | ⟨p, _ | ⟨a', _ | ⟨b', rest'⟩⟩⟩ <;> simp_all
      simp only [List.take_succ_cons, List.cons.injEq, true_and] at hcs'
      simp only [escapedBytes?, hk, hsame rest' hcs', Option.bind_eq_bind, Option.bind_some]
      exact h

/-- An escaped character is read from what is taken alone. -/
theorem escapedCharacter?_eq_some {cs text : List Char} {width : Nat}
    (h : escapedCharacter? cs = some (text, width)) :
    0 < width ∧ width ≤ cs.length ∧ (∀ ch ∈ cs.take width, isBreak ch = false) ∧
      ∀ cs', cs'.take width = cs.take width → escapedCharacter? cs' = some (text, width) := by
  obtain ⟨first, hfirst, h⟩ := Option.bind_eq_some_iff.mp h
  obtain ⟨k, hk, h⟩ := Option.bind_eq_some_iff.mp h
  obtain ⟨bytes, hbytes, h⟩ := Option.bind_eq_some_iff.mp h
  have hpos : 0 < k := by
    obtain ⟨byte, -, hbyte⟩ := Option.bind_eq_some_iff.mp hk
    simp only [utf8Width?] at hbyte
    grind
  dsimp only at h
  split at h
  · rename_i hcontinued
    obtain ⟨rfl, rfl⟩ := Prod.mk.inj (Option.some.inj h)
    obtain ⟨hlength, hbreaks, hsame⟩ := escapedBytes?_eq_some hbytes
    refine ⟨by omega, hlength, hbreaks, fun cs' hcs' => ?_⟩
    have hthree : cs'.take (3 * 1) = cs.take (3 * 1) := by
      have hle : min (3 * 1) (3 * k) = 3 * 1 := by omega
      simpa only [List.take_take, hle] using congrArg (List.take (3 * 1)) hcs'
    simp only [escapedCharacter?, (escapedBytes?_eq_some hfirst).2.2 cs' hthree, hk,
      hsame cs' hcs', Option.bind_eq_bind, Option.bind_some, if_pos hcontinued]
    rfl
  · cases h

theorem mirrored_tagText? {wide : Bool} {r : List Char × Cursor} (hn : c.rest.length ≤ n)
    (h : tagText? wide n c = some r) : Mirrored (tagText? wide) c r := by
  induction n generalizing c r with
  | zero =>
    obtain rfl := Option.some.inj h
    refine .stay rfl fun {e d m} htwin hm => ?_
    have hnil : d.rest = [] := htwin.nil (by simpa using hn)
    cases m <;> simp [tagText?, Cursor.head?, hnil]
  | succ n ih =>
    rw [tagText?] at h
    cases hhead : c.head? with
    | none =>
      obtain rfl := Option.some.inj (by simpa only [hhead] using h)
      refine .stay rfl fun {e d m} htwin hm => ?_
      cases m <;> simp [tagText?, htwin.head?, hhead]
    | some ch =>
      simp only [hhead] at h
      split at h
      · rename_i hstop
        obtain rfl := Option.some.inj h
        refine .stay rfl fun {e d m} htwin hm => ?_
        cases m with
        | zero => rfl
        | succ m => simp only [tagText?, htwin.head?, hhead, if_pos hstop, moved_pair, moved_cursor]
      rename_i htag
      have hch : isBreak ch = false := not_isBreak_of_isTagChar (by simpa using htag)
      split at h
      · rename_i hpercent
        simp only [Option.bind_eq_bind, Option.bind_eq_some_iff] at h
        obtain ⟨⟨text, width⟩, hescaped, ⟨more, c'⟩, hmore, h⟩ := h
        obtain rfl := Option.some.inj h
        obtain ⟨hpos, hlength, hbreaks, hsame⟩ := escapedCharacter?_eq_some hescaped
        refine (ih ?_ hmore).advance hpos hlength hbreaks rfl fun htwin htake hd => ?_
        · simp only [Cursor.rest_advance, List.length_drop]
          omega
        · simp only [tagText?, htwin.head?, hhead, if_neg htag, if_pos hpercent,
            hsame _ htake, hd, Option.bind_eq_bind, Option.bind_some]
          rfl
      · rename_i hpercent
        simp only [Option.bind_eq_bind, Option.bind_eq_some_iff] at h
        obtain ⟨⟨more, c'⟩, hmore, h⟩ := h
        obtain rfl := Option.some.inj h
        have hlength := Cursor.length_advance_one hhead
        refine (ih (by omega) hmore).advance_one hhead hch rfl fun htwin hd => ?_
        simp only [tagText?, htwin.head?, hhead, if_neg htag, if_neg hpercent, hd,
          Option.bind_eq_bind, Option.bind_some]
        rfl

theorem mirrored_tagHandle? {inDirective : Bool} {r : List Char × Cursor}
    (h : tagHandle? inDirective c = some r) : Mirrored (fun _ => tagHandle? inDirective) c r := by
  rw [tagHandle?] at h
  split at h
  · cases h
  rename_i hstart
  have hstart' {e : Ends} {d : Cursor} (htwin : e.Twin c d) : ¬(!d.startsWith '!') = true := by
    rwa [htwin.startsWith]
  have hword := mirrored_word (c := c) (by simpa [Cursor.startsWith] using hstart) rfl
  dsimp only at h
  split at h
  · rename_i hclosed
    obtain rfl := Option.some.inj h
    have hhead : ((c.advance 1).span isWordChar).2.head? = some '!' := by
      simpa [Cursor.startsWith] using hclosed
    have hlast := Cursor.passes_advance_one hhead rfl
    refine hword.bind (.of_advance hlast) rfl fun htwin htwin₁ _ hword' hlast' => ?_
    obtain rfl := Option.some.inj hlast'
    rw [tagHandle?, if_neg (hstart' htwin), Option.some.inj hword']
    exact if_pos ((htwin₁.startsWith _).trans hclosed)
  split at h
  · cases h
  · rename_i hclosed hdirective
    obtain rfl := Option.some.inj h
    refine hword.map rfl fun htwin _ htwin₁ hword' => ?_
    rw [tagHandle?, if_neg (hstart' htwin), Option.some.inj hword']
    exact (if_neg ((htwin₁.startsWith _).symm ▸ hclosed)).trans (if_neg hdirective)

theorem length_tagHandle?_lt {inDirective : Bool} {r : List Char × Cursor} {ch : Char}
    (hhead : c.head? = some ch) (h : tagHandle? inDirective c = some r) :
    r.2.rest.length < c.rest.length := by
  have hword : ((c.advance 1).span isWordChar).2.rest.length < c.rest.length :=
    (Cursor.passes_span fun _ => not_isBreak_of_isWordChar).length_lt hhead
  rw [tagHandle?] at h
  split at h
  · cases h
  dsimp only at h
  split at h
  · obtain rfl := Option.some.inj h
    refine lt_of_le_of_lt ?_ hword
    simp
  split at h
  · cases h
  · obtain rfl := Option.some.inj h
    exact hword

/-- A handle and the text behind it as the parts of a tag. -/
def tagOf? (handle text : List Char) : Option (List Char × List Char) :=
  if 2 ≤ handle.length && handle.getLast? == some '!' then
    if text.isEmpty then none else some (handle, text)
  else
    let suffix := handle.drop 1 ++ text
    if suffix.isEmpty then some ([], ['!']) else some (['!'], suffix)

theorem tagParts?_eq (c : Cursor) :
    tagParts? c =
      (if c.rest[1]? == some '<' then do
        let text ← tagText? true c.rest.length (c.advance 2)
        if text.1.isEmpty || !text.2.startsWith '>' then none
        else some ([], text.1, text.2.advance 1)
      else do
        let handle ← tagHandle? false c
        let text ← tagText? false handle.2.rest.length handle.2
        let parts ← tagOf? handle.1 text.1
        some (parts.1, parts.2, text.2)) := by
  have hsecond : (c.rest.drop 1).head? = c.rest[1]? := by rw [List.head?_drop]
  rw [tagParts?]
  simp only [hsecond]
  split
  · rfl
  · cases tagHandle? false c with
    | none => rfl
    | some handle =>
      simp only [Option.bind_eq_bind, Option.bind_some]
      cases tagText? false handle.2.rest.length handle.2 with
      | none => rfl
      | some text =>
        simp only [tagOf?, Option.bind_some]
        split
        · split <;> rfl
        · split <;> rfl

theorem mirrored_tagParts? {r : List Char × List Char × Cursor} {ch : Char}
    (hhead : c.head? = some ch) (hch : isBreak ch = false) (h : tagParts? c = some r) :
    Mirrored (fun _ => tagParts?) c r := by
  rw [tagParts?_eq] at h
  split at h
  · rename_i hverbatim
    obtain ⟨⟨text, c₁⟩, htext, h⟩ := Option.bind_eq_some_iff.mp h
    dsimp only at h
    split at h
    · cases h
    rename_i hclosed
    obtain rfl := Option.some.inj h
    have hopening : c.Passes (c.advance 2) := by
      refine Cursor.passes_advance ?_
      obtain ⟨rest, hrest⟩ : ∃ rest, c.rest = ch :: '<' :: rest := by
        obtain ⟨tail, hc⟩ := List.head?_eq_some_iff.mp hhead
        have htail : tail.head? = some '<' := by
          simpa [hc, List.head?_eq_getElem?] using hverbatim
        obtain ⟨rest, rfl⟩ := List.head?_eq_some_iff.mp htail
        exact ⟨rest, hc⟩
      simp only [hrest, List.take_succ_cons, List.take_zero, List.mem_cons, List.not_mem_nil,
        or_false, forall_eq_or_imp, forall_eq]
      exact ⟨hch, rfl⟩
    have hfuel (d : Cursor) : (d.advance 2).rest.length ≤ d.rest.length := d.length_advance_le 2
    have hfirst := (Mirrored.of_advance hopening).behind (mirrored_tagText? (hfuel c) htext) hfuel
    have hlast : c₁.Passes (c₁.advance 1) := by
      simp only [Cursor.startsWith, Bool.or_eq_true, Bool.not_eq_true', not_or,
        Bool.not_eq_false, beq_iff_eq] at hclosed
      exact Cursor.passes_advance_one hclosed.2 rfl
    refine hfirst.bind (.of_advance hlast) rfl fun {_ _ d₁ _ _} htwin htwin₁ _ htext' hlast' => ?_
    obtain rfl := Option.some.inj hlast'
    have hclosed' : ¬(text.isEmpty || !d₁.startsWith '>') = true := by
      rwa [htwin₁.startsWith]
    rw [tagParts?_eq, htwin.getElem? (by omega), if_pos hverbatim, htext']
    exact if_neg hclosed'
  · rename_i hverbatim
    obtain ⟨⟨handle, c₁⟩, hhandle, h⟩ := Option.bind_eq_some_iff.mp h
    obtain ⟨⟨text, c₂⟩, htext, h⟩ := Option.bind_eq_some_iff.mp h
    obtain ⟨parts, hparts, h⟩ := Option.bind_eq_some_iff.mp h
    obtain rfl := Option.some.inj h
    have hsecond := (mirrored_tagText? le_rfl htext).enough fun _ => le_rfl
    refine (mirrored_tagHandle? hhandle).bind hsecond rfl fun htwin _ _ hhandle' htext' => ?_
    rw [tagParts?_eq, htwin.getElem? (by omega), if_neg hverbatim]
    simp only [moved_pair, moved_cursor] at hhandle' htext' ⊢
    simp only [hhandle', htext', hparts, Option.bind_eq_bind, Option.bind_some]

theorem length_tagParts?_lt {r : List Char × List Char × Cursor} {ch : Char}
    (hhead : c.head? = some ch) (h : tagParts? c = some r) :
    r.2.2.rest.length < c.rest.length := by
  rw [tagParts?_eq] at h
  split at h
  · obtain ⟨⟨text, c₁⟩, htext, h⟩ := Option.bind_eq_some_iff.mp h
    dsimp only at h
    split at h
    · cases h
    obtain rfl := Option.some.inj h
    have htwo : (c.advance 2).rest.length < c.rest.length :=
      Cursor.length_advance_lt Nat.two_pos (Cursor.rest_ne_nil hhead)
    have hfirst : c₁.rest.length ≤ (c.advance 2).rest.length :=
      (mirrored_tagText? (c.length_advance_le 2) htext).passes.length_le
    exact (c₁.length_advance_le 1).trans_lt (hfirst.trans_lt htwo)
  · obtain ⟨⟨handle, c₁⟩, hhandle, h⟩ := Option.bind_eq_some_iff.mp h
    obtain ⟨⟨text, c₂⟩, htext, h⟩ := Option.bind_eq_some_iff.mp h
    obtain ⟨parts, hparts, h⟩ := Option.bind_eq_some_iff.mp h
    obtain rfl := Option.some.inj h
    exact (mirrored_tagText? le_rfl htext).passes.length_le.trans_lt
      (length_tagHandle?_lt hhead hhandle)

theorem length_tag?_lt {inFlow : Bool} {r : Token × Cursor} {ch : Char}
    (hhead : c.head? = some ch) (h : tag? inFlow c = some r) :
    r.2.rest.length < c.rest.length := by
  obtain ⟨⟨handle, suffix, c₁⟩, hparts, h⟩ := Option.bind_eq_some_iff.mp h
  dsimp only at h
  split at h
  · obtain rfl := Option.some.inj h
    exact length_tagParts?_lt hhead hparts
  · cases h

theorem mirrored_tag? {inFlow : Bool} {r : Token × Cursor} {ch : Char}
    (hhead : c.head? = some ch) (hch : isBreak ch = false) (h : tag? inFlow c = some r) :
    Mirrored (fun _ => tag? inFlow) c r := by
  obtain ⟨⟨handle, suffix, c₁⟩, hparts, h⟩ := Option.bind_eq_some_iff.mp h
  dsimp only at h
  split at h
  · rename_i hend
    obtain rfl := Option.some.inj h
    refine (mirrored_tagParts? hhead hch hparts).map rfl fun {e _ d₁ _} _ _ htwin₁ hparts' => ?_
    have htwin₁ : e.Twin c₁ d₁ := htwin₁
    rw [← htwin₁.isSpaceAt (by omega), ← htwin₁.startsWith] at hend
    rw [tag?, hparts']
    exact if_pos hend
  · cases h

/-! ## Directives -/

theorem mirrored_versionNumber? {r : Nat × Cursor} (h : versionNumber? c = some r) :
    Mirrored (fun _ => versionNumber?) c r := by
  rw [versionNumber?] at h
  dsimp only at h
  split at h
  · cases h
  · rename_i hdigits
    obtain rfl := Option.some.inj h
    have hspan := Mirrored.of_span (c := c) (p := Char.isDigit) fun _ => not_isBreak_of (by decide)
    refine hspan.map rfl fun _ _ _ hspan' => ?_
    rw [versionNumber?, Option.some.inj hspan']
    exact if_neg hdigits

/-- The version of a directive. -/
def version? (c : Cursor) : Option (Token × Cursor) := do
  let major ← versionNumber? c
  if !major.2.startsWith '.' then none
  else do
    let minor ← versionNumber? (major.2.advance 1)
    return (.version major.1 minor.1, minor.2)

theorem mirrored_version? {r : Token × Cursor} (h : version? c = some r) :
    Mirrored (fun _ => version?) c r := by
  obtain ⟨⟨major, c₁⟩, hmajor, h⟩ := Option.bind_eq_some_iff.mp h
  dsimp only at h
  split at h
  · cases h
  rename_i hdot
  obtain ⟨⟨minor, c₂⟩, hminor, h⟩ := Option.bind_eq_some_iff.mp h
  obtain rfl := Option.some.inj h
  have hhead : c₁.head? = some '.' := by simpa [Cursor.startsWith] using hdot
  have hmark := Mirrored.of_advance (Cursor.passes_advance_one hhead rfl)
  have hsecond := hmark.behind (mirrored_versionNumber? hminor) fun _ => le_rfl
  refine (mirrored_versionNumber? hmajor).bind hsecond rfl
    fun {_ _ d₁ _ _} _ htwin₁ _ hmajor' hminor' => ?_
  have hdot' : ¬(!d₁.startsWith '.') = true := by rwa [htwin₁.startsWith]
  simp only [moved_pair, moved_cursor] at hmajor' hminor'
  simp only [version?, hmajor', hminor', if_neg hdot', Option.bind_eq_bind, Option.bind_some]
  rfl

/-- The handle of a directive and what it stands for. -/
def expansion? (c : Cursor) : Option (Token × Cursor) := do
  let handle ← tagHandle? true c
  if !handle.2.head?.any isBlank then none
  else do
    let text ← tagText? true handle.2.rest.length handle.2.skipBlanks
    if text.1.isEmpty || !text.2.isSpaceAt 0 then none
    else return (.tagHandle (String.ofList handle.1) (String.ofList text.1), text.2)

theorem mirrored_expansion? {r : Token × Cursor} (h : expansion? c = some r) :
    Mirrored (fun _ => expansion?) c r := by
  obtain ⟨⟨handle, c₁⟩, hhandle, h⟩ := Option.bind_eq_some_iff.mp h
  dsimp only at h
  split at h
  · cases h
  rename_i hspace
  obtain ⟨⟨text, c₂⟩, htext, h⟩ := Option.bind_eq_some_iff.mp h
  dsimp only at h
  split at h
  · cases h
  rename_i hstop
  obtain rfl := Option.some.inj h
  have hfuel (d : Cursor) : d.skipBlanks.rest.length ≤ d.rest.length :=
    (Mirrored.of_skipBlanks d).passes.length_le
  have hsecond := (Mirrored.of_skipBlanks c₁).behind (mirrored_tagText? (hfuel c₁) htext) hfuel
  refine (mirrored_tagHandle? hhandle).bind hsecond rfl
    fun {_ _ d₁ d₂ _} _ htwin₁ htwin₂ hhandle' htext' => ?_
  have hspace' : ¬(!d₁.head?.any isBlank) = true := by rwa [htwin₁.head?]
  have hstop' : ¬(text.isEmpty || !d₂.isSpaceAt 0) = true := by
    rwa [htwin₂.isSpaceAt (by omega)]
  simp only [moved_pair, moved_cursor] at hhandle' htext'
  simp only [expansion?, hhandle', htext', if_neg hspace', if_neg hstop', Option.bind_eq_bind,
    Option.bind_some]
  rfl

theorem directiveValue?_eq (name : String) (c : Cursor) :
    directiveValue? name c =
      if name = "YAML" then version? c.skipBlanks
      else if name = "TAG" then expansion? c.skipBlanks
      else none := rfl

theorem mirrored_directiveValue? {name : String} {r : Token × Cursor}
    (h : directiveValue? name c = some r) : Mirrored (fun _ => directiveValue? name) c r := by
  have hblanks := Mirrored.of_skipBlanks c
  rw [directiveValue?_eq] at h
  split at h
  · rename_i hversion
    refine (hblanks.behind (mirrored_version? h) fun _ => le_rfl).map rfl fun _ _ _ hvalue => ?_
    rwa [directiveValue?_eq, if_pos hversion]
  split at h
  · rename_i hversion htag
    refine (hblanks.behind (mirrored_expansion? h) fun _ => le_rfl).map rfl fun _ _ _ hvalue => ?_
    rwa [directiveValue?_eq, if_neg hversion, if_pos htag]
  · cases h

theorem directive?_eq (c : Cursor) :
    directive? c =
      (let name := (c.advance 1).span isWordChar
      if name.1.isEmpty || !name.2.isSpaceAt 0 then none
      else do
        let r ← directiveValue? (String.ofList name.1) name.2
        let c ← nextLine? r.2
        return (r.1, c)) := by
  have hdirective : directive? c =
      (let name := (c.advance 1).span isWordChar
      if name.1.isEmpty || !name.2.isSpaceAt 0 then none
      else do
        let r ← directiveValue? (String.ofList name.1) name.2
        if (skipTrailing r.2).isLineEndAt 0 then some (r.1, (skipTrailing r.2).takeBreak.2)
        else none) := rfl
  rw [hdirective]
  dsimp only
  split
  · rfl
  · congr 1
    funext r
    cases hend : (skipTrailing r.2).isLineEndAt 0 <;> simp [nextLine?, hend]

theorem mirrored_directive? {r : Token × Cursor} {ch : Char} (hhead : c.head? = some ch)
    (hch : isBreak ch = false) (h : directive? c = some r) :
    Mirrored (fun _ => directive?) c r := by
  rw [directive?_eq] at h
  dsimp only at h
  split at h
  · cases h
  rename_i hname
  obtain ⟨⟨token, c₁⟩, hvalue, h⟩ := Option.bind_eq_some_iff.mp h
  obtain ⟨c₂, hline, h⟩ := Option.bind_eq_some_iff.mp h
  obtain rfl := Option.some.inj h
  have hrest : Mirrored (fun _ d => do
      let r ← directiveValue? (String.ofList ((c.advance 1).span isWordChar).1) d
      return (r.1, ← nextLine? r.2)) ((c.advance 1).span isWordChar).2 (token, c₂) := by
    refine (mirrored_directiveValue? hvalue).bind (mirrored_nextLine? hline) rfl
      fun _ _ _ hvalue' hline' => ?_
    simp only [moved_pair, moved_cursor] at hvalue' hline'
    simp only [hvalue', hline', Option.bind_eq_bind, Option.bind_some]
    rfl
  refine (mirrored_word hhead hch).bind hrest rfl fun {e _ d₁ _ _} _ htwin₁ _ hword' hrest' => ?_
  have htwin₁ : e.Twin ((c.advance 1).span isWordChar).2 d₁ := htwin₁
  rw [← htwin₁.isSpaceAt (by omega)] at hname
  rw [directive?_eq, Option.some.inj hword']
  exact (if_neg hname).trans hrest'

theorem length_directive?_lt {r : Token × Cursor} {ch : Char} (hhead : c.head? = some ch)
    (h : directive? c = some r) : r.2.rest.length < c.rest.length := by
  rw [directive?_eq] at h
  dsimp only at h
  split at h
  · cases h
  obtain ⟨⟨token, c₁⟩, hvalue, h⟩ := Option.bind_eq_some_iff.mp h
  obtain ⟨c₂, hline, h⟩ := Option.bind_eq_some_iff.mp h
  obtain rfl := Option.some.inj h
  have hword := Cursor.passes_span (c := c.advance 1) fun _ => not_isBreak_of_isWordChar
  have hlast := (mirrored_directiveValue? hvalue).passes.trans (mirrored_nextLine? hline).passes
  exact (hword.trans hlast).length_lt hhead

end PowerTelemetry.Yaml
