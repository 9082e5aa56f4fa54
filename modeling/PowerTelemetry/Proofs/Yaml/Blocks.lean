import PowerTelemetry.Proofs.Yaml.Scalars
/-!
# Block scalars at twin places

What the reader of block scalars finds is `Mirrored` (`mirrored_block?`).  It is the header, the
rest of its line (`nextLine?`) and the lines behind it (`blockText?`), of which each is read with
the empty lines behind it (`blockLine?`).
-/

namespace PowerTelemetry.Yaml

open Placed

variable {c : Cursor} {n : Nat}

/-! ## Headers -/

theorem Ends.Twin.chomping? {e : Ends} {d : Cursor} (h : e.Twin c d) :
    Yaml.chomping? d = Yaml.chomping? c := by
  simp only [Yaml.chomping?, h.startsWith]

theorem Ends.Twin.increment? {e : Ends} {d : Cursor} (h : e.Twin c d) :
    Yaml.increment? d = Yaml.increment? c := by
  simp only [Yaml.increment?, h.head?]

theorem passes_of_chomping? {chomping : Chomping} (h : chomping? c = some chomping) :
    c.Passes (c.advance 1) := by
  have hhead : c.head? = some '+' ∨ c.head? = some '-' := by
    simp only [chomping?, Cursor.startsWith, beq_iff_eq] at h
    grind
  rcases hhead with hhead | hhead
  all_goals exact Cursor.passes_advance_one hhead rfl

theorem passes_of_increment? {increment : Nat} (h : increment? c = some (some increment)) :
    c.Passes (c.advance 1) := by
  rw [increment?] at h
  cases hhead : c.head? with
  | none => simp [hhead] at h
  | some ch =>
    have hdigit : ch.isDigit = true := by
      simp only [hhead] at h
      grind
    exact Cursor.passes_advance_one hhead (not_isBreak_of (by decide) hdigit)

/-- The digit of a header, if there is one, and the place behind it. -/
def digit? (c : Cursor) : Option (Option Nat × Cursor) :=
  (increment? c).map fun increment => (increment, if increment.isSome then c.advance 1 else c)

theorem mirrored_digit? {r : Option Nat × Cursor} (h : digit? c = some r) :
    Mirrored (fun _ => digit?) c r := by
  obtain ⟨increment, hincrement, rfl⟩ := Option.map_eq_some_iff.mp h
  cases increment with
  | none => exact .stay rfl fun htwin _ => by simp [digit?, htwin.increment?, hincrement]
  | some increment =>
    have hadvance := Mirrored.of_advance (passes_of_increment? hincrement)
    refine hadvance.map rfl fun htwin _ _ hmoved => ?_
    obtain rfl := Option.some.inj hmoved
    simp [digit?, htwin.increment?, hincrement]

/-- The sign of a header and the place behind it.  Without a sign, breaks are clipped. -/
def sign (c : Cursor) : Chomping × Cursor :=
  match chomping? c with
  | some chomping => (chomping, c.advance 1)
  | none => (.clip, c)

theorem mirrored_sign (c : Cursor) : Mirrored (fun _ d => some (sign d)) c (sign c) := by
  rw [sign]
  cases hchomping : chomping? c with
  | none => exact .stay rfl fun htwin _ => by simp [sign, htwin.chomping?, hchomping]
  | some chomping =>
    have hadvance := Mirrored.of_advance (passes_of_chomping? hchomping)
    refine hadvance.map rfl fun htwin _ _ hmoved => ?_
    obtain rfl := Option.some.inj hmoved
    simp [sign, htwin.chomping?, hchomping]

theorem blockHeader?_eq (c : Cursor) :
    blockHeader? c =
      match chomping? c with
      | some chomping => (digit? (c.advance 1)).map fun r => (⟨chomping, r.1⟩, r.2)
      | none => (digit? c).map fun r => (⟨(sign r.2).1, r.1⟩, (sign r.2).2) := by
  rw [blockHeader?]
  cases hchomping : chomping? c with
  | some chomping =>
    simp only [digit?]
    cases increment? (c.advance 1) <;> rfl
  | none =>
    simp only [digit?]
    cases increment? c with
    | none => rfl
    | some increment =>
      cases increment with
      | none => simp [sign, hchomping]
      | some increment =>
        simp only [sign]
        cases hsign : chomping? (c.advance 1) <;> simp [hsign]

theorem mirrored_blockHeader? {r : BlockHeader × Cursor} (h : blockHeader? c = some r) :
    Mirrored (fun _ => blockHeader?) c r := by
  rw [blockHeader?_eq] at h
  cases hchomping : chomping? c with
  | some chomping =>
    simp only [hchomping] at h
    obtain ⟨s, hdigit, rfl⟩ := Option.map_eq_some_iff.mp h
    have hadvance := Mirrored.of_advance (passes_of_chomping? hchomping)
    refine (hadvance.behind (mirrored_digit? hdigit) fun _ => le_rfl).map rfl
      fun htwin _ _ hdigit' => ?_
    simp only [blockHeader?_eq, htwin.chomping?, hchomping, hdigit']
    rfl
  | none =>
    simp only [hchomping] at h
    obtain ⟨⟨increment, c₁⟩, hdigit, rfl⟩ := Option.map_eq_some_iff.mp h
    refine (mirrored_digit? hdigit).bind (mirrored_sign c₁) rfl fun htwin _ _ hdigit' hsign' => ?_
    simp only [blockHeader?_eq, htwin.chomping?, hchomping, hdigit', Option.map_some, moved_pair,
      moved_cursor, Option.some.inj hsign']
    rfl

/-! ## Lines -/

/-- How many spaces of a line count as its indentation. -/
def blockWidth (indent : Nat) (c : Cursor) : Nat :=
  let spaces := (c.rest.takeWhile (· == ' ')).length
  if indent = 0 then spaces else min spaces (indent - c.column)

/-- What follows in empty lines of a block behind the indentation of one. -/
def blockBreaksBehind? (indent n : Nat) (breaks : List Char) (deepest : Nat) (c : Cursor) :
    Option (List Char × Nat × Cursor) :=
  if (indent = 0 ∨ c.column < indent) ∧ c.startsWith '\t' then none
  else if c.head?.any isBreak then
    blockBreaks? indent n (breaks ++ c.takeBreak.1) deepest c.takeBreak.2
  else some (breaks, deepest, c)

theorem blockBreaks?_succ (indent n : Nat) (breaks : List Char) (deepest : Nat) (c : Cursor) :
    blockBreaks? indent (n + 1) breaks deepest c =
      blockBreaksBehind? indent n breaks (max deepest (c.advance (blockWidth indent c)).column)
        (c.advance (blockWidth indent c)) := rfl

theorem passes_blockWidth (indent : Nat) (c : Cursor) : c.Passes (c.advance (blockWidth indent c)) := by
  refine Cursor.passes_advance fun ch hch => ?_
  have hle : blockWidth indent c ≤ (c.rest.takeWhile (· == ' ')).length := by
    simp only [blockWidth]
    split
    · exact le_rfl
    · exact Nat.min_le_left _ _
  have hmem : ch ∈ c.rest.takeWhile (· == ' ') := by
    have htake := List.prefix_iff_eq_take.mp (List.takeWhile_prefix (l := c.rest) (· == ' '))
    rw [htake]
    exact List.take_subset_take_left _ hle hch
  have hspace : ch = ' ' := by simpa using List.mem_takeWhile_imp hmem
  rw [hspace]
  decide

/-- Up to a number, as many characters fulfil a condition if they are the same up to the
first that does not, or up to the number. -/
theorem min_takeWhile_eq_of_front {p : Char → Bool} {l l' : List Char} {j k : Nat}
    (hlength : min (l.takeWhile p).length j = k) (htake : l'.take k = l.take k)
    (hhead : (l'.drop k).head? = (l.drop k).head?) : min (l'.takeWhile p).length j = k := by
  by_cases hk : (l.takeWhile p).length ≤ j
  · rw [Nat.min_eq_left hk] at hlength
    rw [Ends.takeWhile_eq_of_front hlength htake hhead, hlength]
    omega
  · obtain rfl : j = k := by omega
    have hall : ∀ ch ∈ l'.take j, p ch = true := by
      intro ch hch
      have hfront := List.prefix_iff_eq_take.mp (List.takeWhile_prefix (l := l) p)
      refine List.mem_takeWhile_imp (l := l) ?_
      rw [hfront]
      rw [htake] at hch
      exact List.take_subset_take_left _ (by omega) hch
    have hj : (l'.take j).length = j := by
      have hle := (List.takeWhile_prefix (l := l) p).length_le
      rw [htake, List.length_take]
      omega
    have hsplit : l'.takeWhile p = l'.take j ++ (l'.drop j).takeWhile p := by
      rw [← List.takeWhile_append_of_pos hall, List.take_append_drop]
    rw [hsplit, List.length_append, hj]
    omega

theorem Ends.Twin.blockWidth {e : Ends} {d : Cursor} {indent : Nat} (h : e.Twin c d)
    (hbounds : e.Bounds (c.advance (blockWidth indent c))) :
    Yaml.blockWidth indent d = Yaml.blockWidth indent c := by
  have htake := h.take hbounds
  have hhead := (h.advance hbounds).head?
  simp only [Yaml.blockWidth, h.column] at htake hhead ⊢
  split
  · rename_i hzero
    rw [if_pos hzero] at htake hhead
    rw [takeWhile_eq_of_front rfl htake hhead]
  · rename_i hindent
    rw [if_neg hindent] at htake hhead
    exact min_takeWhile_eq_of_front rfl htake hhead

theorem mirrored_blockWidth (indent : Nat) (c : Cursor) :
    Mirrored (fun _ d => some (d.advance (blockWidth indent d))) c
      (c.advance (blockWidth indent c)) where
  passes := passes_blockWidth indent c
  twin {_ d _} htwin hbounds _ :=
    ⟨_, rfl, by rw [htwin.blockWidth hbounds]; exact htwin.advance hbounds⟩

theorem mirrored_blockBreaks? {indent deepest : Nat} {breaks : List Char}
    {r : List Char × Nat × Cursor} (hn : c.rest.length ≤ n)
    (h : blockBreaks? indent (n + 1) breaks deepest c = some r) :
    Mirrored (fun m => blockBreaks? indent (m + 1) breaks deepest) c r := by
  induction n using Nat.strong_induction_on generalizing breaks deepest c with
  | h n ih =>
    rw [blockBreaks?_succ] at h
    have hfirst := mirrored_blockWidth indent c
    have hle := c.length_advance_le (blockWidth indent c)
    suffices hbehind : Mirrored (fun m => blockBreaksBehind? indent m breaks
        (max deepest (c.advance (blockWidth indent c)).column))
        (c.advance (blockWidth indent c)) r by
      refine hfirst.bind hbehind rfl fun _ htwin₁ _ hadvance hbehind' => ?_
      obtain rfl := Option.some.inj hadvance
      rw [blockBreaks?_succ, htwin₁.column]
      exact hbehind'
    generalize c.advance (blockWidth indent c) = c₁ at h hle
    generalize max deepest c₁.column = deepest at h
    rw [blockBreaksBehind?] at h
    split at h
    · cases h
    rename_i htab
    have htab' {e : Ends} {d : Cursor} (htwin : e.Twin c₁ d) :
        ¬((indent = 0 ∨ d.column < indent) ∧ d.startsWith '\t' = true) := by
      rwa [htwin.column, htwin.startsWith]
    split at h
    · rename_i hbreak
      have hlt := Cursor.length_takeBreak_lt hbreak
      obtain ⟨n, rfl⟩ : ∃ j, n = j + 1 := ⟨n - 1, by omega⟩
      have hrest := ih n (Nat.lt_succ_self n) (by omega) h
      refine hrest.newLine hbreak rfl fun htwin hmark hrest' => ?_
      rw [blockBreaksBehind?, if_neg (htab' htwin), htwin.head?, if_pos hbreak, hmark]
      exact hrest'
    · rename_i hbreak
      obtain rfl := Option.some.inj h
      refine .stay rfl fun htwin _ => ?_
      rw [blockBreaksBehind?, if_neg (htab' htwin), htwin.head?, if_neg hbreak]
      rfl

/-- Where a line goes on. -/
def inLine (ch : Char) : Bool :=
  !isBreak ch

/-- A line with its break is not empty. -/
theorem length_line_lt (h : c.rest ≠ []) :
    (c.span inLine).2.takeBreak.2.rest.length < c.rest.length := by
  obtain ⟨ch, after, hc⟩ := List.exists_cons_of_ne_nil h
  by_cases hch : isBreak ch = true
  · have hspan : (c.span inLine).2 = c := by
      rw [Cursor.span, show c.rest.takeWhile inLine = [] by simp [hc, inLine, hch]]
      rfl
    rw [hspan]
    exact Cursor.length_takeBreak_lt (by simp [Cursor.head?, hc, hch])
  · have hle := (Cursor.passes_takeBreak (c.span inLine).2).length_le
    have hline : (c.span inLine).2.rest.length < c.rest.length := by
      simp only [Cursor.span, Cursor.rest_advance, hc, List.takeWhile_cons, inLine, hch,
        Bool.not_false, if_true, List.length_drop, List.length_cons]
      omega
    omega

/-- The end of a line: its break, and the empty lines behind it. -/
def blockLineEnd? (indent : Nat) (c : Cursor) : Option (List Char × List Char × Nat × Cursor) :=
  (blockBreaks? indent (c.takeBreak.2.rest.length + 1) [] 0 c.takeBreak.2).map fun r =>
    (c.takeBreak.1, r)

theorem mirrored_blockLineEnd? {indent : Nat} {r : List Char × List Char × Nat × Cursor}
    (h : blockLineEnd? indent c = some r) : Mirrored (fun _ => blockLineEnd? indent) c r := by
  obtain ⟨s, hbreaks, rfl⟩ := Option.map_eq_some_iff.mp h
  have hempty := (mirrored_blockBreaks? le_rfl hbreaks).enough fun _ => le_rfl
  refine (Mirrored.of_takeBreak c).bind hempty rfl fun _ _ _ hmark' hempty' => ?_
  rw [blockLineEnd?, Option.some.inj hmark']
  exact congrArg (Option.map _) hempty'

/-- A line of a block and its end. -/
def blockLine? (indent : Nat) (c : Cursor) :
    Option (List Char × List Char × List Char × Nat × Cursor) :=
  (blockLineEnd? indent (c.span inLine).2).map fun r => ((c.span inLine).1, r)

theorem mirrored_blockLine? {indent : Nat} {r : List Char × List Char × List Char × Nat × Cursor}
    (h : blockLine? indent c = some r) : Mirrored (fun _ => blockLine? indent) c r := by
  obtain ⟨s, hend, rfl⟩ := Option.map_eq_some_iff.mp h
  have hline := Mirrored.of_span (c := c) (p := inLine) fun ch hch => by simpa [inLine] using hch
  refine hline.bind (mirrored_blockLineEnd? hend) rfl fun _ _ _ hline' hend' => ?_
  rw [blockLine?, Option.some.inj hline']
  exact congrArg (Option.map _) hend'

/-- A line is not empty, unless the text ends. -/
theorem length_blockLine?_lt {indent : Nat} {r : List Char × List Char × List Char × Nat × Cursor}
    (hnil : c.rest ≠ []) (h : blockLine? indent c = some r) :
    r.2.2.2.2.rest.length < c.rest.length := by
  obtain ⟨s, hend, rfl⟩ := Option.map_eq_some_iff.mp h
  obtain ⟨r, hbreaks, rfl⟩ := Option.map_eq_some_iff.mp hend
  exact (mirrored_blockBreaks? le_rfl hbreaks).passes.length_le.trans_lt (length_line_lt hnil)

theorem blockLines?_succ (folded : Bool) (indent n : Nat) (text first more : List Char)
    (blank : Bool) (c : Cursor) :
    blockLines? folded indent (n + 1) text first more blank c =
      (if c.column ≠ indent ∨ c.rest.isEmpty then some (text, first, more, c)
      else do
        let startsBlank := c.head?.any isBlank
        let joint :=
          if folded && first == ['\n'] && !blank && !startsBlank then
            (if more.isEmpty then [' '] else more)
          else first ++ more
        let r ← blockLine? indent c
        blockLines? folded indent n (text ++ joint ++ r.1) r.2.1 r.2.2.1 startsBlank
          r.2.2.2.2) := by
  rw [blockLines?]
  split
  · rfl
  · simp only [blockLine?, blockLineEnd?, Option.bind_eq_bind, Option.bind_map]
    rfl

theorem mirrored_blockLines? {folded blank : Bool} {indent : Nat} {text first more : List Char}
    {r : List Char × List Char × List Char × Cursor} (hn : c.rest.length ≤ n)
    (h : blockLines? folded indent n text first more blank c = some r) :
    Mirrored (fun m => blockLines? folded indent m text first more blank) c r := by
  induction n generalizing text first more blank c with
  | zero =>
    obtain rfl := Option.some.inj h
    have hnil : c.rest = [] := by simpa using hn
    refine .stay rfl fun {e d m} htwin _ => ?_
    cases m with
    | zero => rfl
    | succ m => simp [blockLines?_succ, htwin.nil hnil]
  | succ n ih =>
    rw [blockLines?_succ] at h
    split at h
    · rename_i hstop
      obtain rfl := Option.some.inj h
      refine .stay rfl fun {e d m} htwin _ => ?_
      cases m with
      | zero => rfl
      | succ m =>
        rw [blockLines?_succ, if_pos (by rwa [htwin.column, htwin.isEmpty])]
        rfl
    · rename_i hstop
      have hnil : c.rest ≠ [] := fun hc => hstop (.inr (by simp [hc]))
      obtain ⟨⟨line, mark, breaks, deepest, c₁⟩, hline, h⟩ := Option.bind_eq_some_iff.mp h
      have hlt : c₁.rest.length < c.rest.length := length_blockLine?_lt hnil hline
      have hrest := ih (show c₁.rest.length ≤ n by omega) h
      refine (mirrored_blockLine? hline).step hrest hlt rfl fun htwin _ hline' hrest' => ?_
      rw [blockLines?_succ, if_neg (by rwa [htwin.column, htwin.isEmpty])]
      simp only [htwin.head?, hline', Option.bind_eq_bind, Option.bind_some]
      exact hrest'

/-- The place behind a comment, if one starts here. -/
def skipComment (c : Cursor) : Cursor :=
  if c.startsWith '#' then c.skipLine else c

theorem mirrored_skipComment (c : Cursor) :
    Mirrored (fun _ d => some (skipComment d)) c (skipComment c) := by
  rw [skipComment]
  split
  · rename_i hcomment
    refine (Mirrored.of_skipLine c).map rfl fun htwin _ _ hline => ?_
    rwa [skipComment, if_pos ((htwin.startsWith '#').trans hcomment)]
  · rename_i hcomment
    refine .stay rfl fun htwin _ => ?_
    rw [skipComment, if_neg ((htwin.startsWith '#').symm ▸ hcomment)]
    rfl

/-- The place behind blanks and a comment. -/
def skipTrailing (c : Cursor) : Cursor :=
  let c := c.skipBlanks
  if c.startsWith '#' then c.skipLine else c

theorem mirrored_skipTrailing (c : Cursor) :
    Mirrored (fun _ d => some (skipTrailing d)) c (skipTrailing c) :=
  (Mirrored.of_skipBlanks c).behind (mirrored_skipComment _) fun _ => le_rfl

/-- The depth of a block that its header gives. -/
def BlockHeader.given (header : BlockHeader) (parent : Int) : Nat :=
  match header.increment with
  | some n => if 0 ≤ parent then parent.toNat + n else n
  | none => 0

/-- The text of a block from its lines and the breaks at its end. -/
def BlockHeader.chomped (header : BlockHeader) (text first more : List Char) : List Char :=
  match header.chomping with
  | .strip => text
  | .clip => text ++ first
  | .keep => text ++ first ++ more

/-- The next line, if there are only blanks and a comment in front of it. -/
def nextLine? (c : Cursor) : Option Cursor :=
  if (skipTrailing c).isLineEndAt 0 then some (skipTrailing c).takeBreak.2 else none

theorem mirrored_nextLine? {c' : Cursor} (h : nextLine? c = some c') :
    Mirrored (fun _ => nextLine?) c c' := by
  rw [nextLine?] at h
  split at h
  · rename_i hend
    obtain rfl := Option.some.inj h
    refine (mirrored_skipTrailing c).bind (.of_takeBreak _) rfl fun _ htwin₁ _ hskip hbreak => ?_
    obtain rfl := Option.some.inj hskip
    rw [nextLine?, if_pos ((htwin₁.isLineEndAt (by omega)).trans hend), Option.some.inj hbreak]
    rfl
  · cases h

/-- The lines of a block behind its header. -/
def blockText? (folded : Bool) (parent : Int) (header : BlockHeader) (c : Cursor) :
    Option (List Char × Cursor) := do
  let given := header.given parent
  let breaks ← blockBreaks? given (c.rest.length + 1) [] 0 c
  let indent := if given = 0 then max (max breaks.2.1 (parent + 1).toNat) 1 else given
  let lines ← blockLines? folded indent (breaks.2.2.rest.length + 1) [] [] breaks.1 false
    breaks.2.2
  return (header.chomped lines.1 lines.2.1 lines.2.2.1, lines.2.2.2)

theorem mirrored_blockText? {folded : Bool} {parent : Int} {header : BlockHeader}
    {r : List Char × Cursor} (h : blockText? folded parent header c = some r) :
    Mirrored (fun _ => blockText? folded parent header) c r := by
  obtain ⟨⟨more, deepest, c₁⟩, hbreaks, h⟩ := Option.bind_eq_some_iff.mp h
  obtain ⟨⟨text, first, more', c₂⟩, hlines, h⟩ := Option.bind_eq_some_iff.mp h
  obtain rfl := Option.some.inj h
  have hfirst := (mirrored_blockBreaks? le_rfl hbreaks).enough fun _ => le_rfl
  have hsecond := (mirrored_blockLines? (Nat.le_succ _) hlines).enough fun _ => Nat.le_succ _
  refine hfirst.bind hsecond rfl fun _ _ _ hbreaks' hlines' => ?_
  simp only [moved_pair, moved_cursor] at hbreaks' hlines'
  simp only [blockText?, hbreaks', hlines', Option.bind_eq_bind, Option.bind_some]
  rfl

theorem block?_eq (folded : Bool) (parent : Int) (c : Cursor) :
    block? folded parent c = (do
      let header ← blockHeader? (c.advance 1)
      let c ← nextLine? header.2
      blockText? folded parent header.1 c) := by
  have hblock : block? folded parent c = (do
      let header ← blockHeader? (c.advance 1)
      let c := skipTrailing header.2
      if !c.isLineEndAt 0 then none else blockText? folded parent header.1 c.takeBreak.2) := rfl
  rw [hblock]
  congr 1
  funext header
  cases hend : (skipTrailing header.2).isLineEndAt 0 <;> simp [nextLine?, hend]

theorem mirrored_block? {folded : Bool} {parent : Int} {r : List Char × Cursor} {ch : Char}
    (hhead : c.head? = some ch) (hch : isBreak ch = false) (h : block? folded parent c = some r) :
    Mirrored (fun _ => block? folded parent) c r := by
  rw [block?_eq] at h
  obtain ⟨⟨header, c₁⟩, hheader, h⟩ := Option.bind_eq_some_iff.mp h
  obtain ⟨c₂, hline, h⟩ := Option.bind_eq_some_iff.mp h
  have hmark := Mirrored.of_advance (Cursor.passes_advance_one hhead hch)
  have hfirst := hmark.behind (mirrored_blockHeader? hheader) fun _ => le_rfl
  have htext : Mirrored (fun _ d => do blockText? folded parent header (← nextLine? d)) c₁ r := by
    refine (mirrored_nextLine? hline).bind (mirrored_blockText? h) rfl fun _ _ _ hline' htext' => ?_
    rw [hline']
    exact htext'
  refine hfirst.bind htext rfl fun _ _ _ hheader' htext' => ?_
  rw [block?_eq, hheader']
  exact htext'

theorem length_block?_lt {folded : Bool} {parent : Int} {r : List Char × Cursor} {ch : Char}
    (hhead : c.head? = some ch) (h : block? folded parent c = some r) :
    r.2.rest.length < c.rest.length := by
  rw [block?_eq] at h
  obtain ⟨⟨header, c₁⟩, hheader, h⟩ := Option.bind_eq_some_iff.mp h
  obtain ⟨c₂, hline, h⟩ := Option.bind_eq_some_iff.mp h
  have hlast := (mirrored_nextLine? hline).passes.trans (mirrored_blockText? h).passes
  exact ((mirrored_blockHeader? hheader).passes.trans hlast).length_lt hhead

end PowerTelemetry.Yaml
