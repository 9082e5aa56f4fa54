import Mathlib.Data.List.TakeWhile
import PowerTelemetry.Yaml.Cursor
/-!
# Twin places

A reader takes characters from the place where it is and looks at most four characters
further.  So it finds the same in two texts that have those characters in common, whatever
else they hold.

`Ends` are what two such texts end in, and `Twin` places have the same in front of the ends.
`Mirrored` says of a result that it is found at every twin of its place too; the readers of
the scanner are shown to have only such results.  A reader moves, reads one part behind
another, or goes on for as many steps as there are characters: there is a lemma about
`Mirrored` for each of these (`Mirrored.behind`, `Mirrored.bind`, `Mirrored.step`), so that
nothing else has to say how far the ends are.
-/

namespace PowerTelemetry.Yaml

/-- What breaks are not. -/
theorem not_isBreak_of {p : Char → Bool} {ch : Char}
    (h : ['\r', '\n', '\u0085', '\u2028', '\u2029'].any p = false) (hch : p ch = true) :
    isBreak ch = false := by
  rw [Bool.eq_false_iff]
  intro hbreak
  have hmem : ch ∈ ['\r', '\n', '\u0085', '\u2028', '\u2029'] := by
    simpa [isBreak, or_assoc] using hbreak
  exact absurd hch (List.any_eq_false.mp h ch hmem)

theorem not_isBreak_of_isBlank {ch : Char} (h : isBlank ch = true) : isBreak ch = false :=
  not_isBreak_of (by decide) h

/-! ## Later places -/

namespace Cursor

/-- Going over some characters leads to a place.  There are breaks among them only if it is in
another line. -/
def Passes (c c' : Cursor) : Prop :=
  ∃ taken, c.rest = taken ++ c'.rest ∧ c.line ≤ c'.line ∧
    (c'.line = c.line → ∀ ch ∈ taken, isBreak ch = false)

variable {c c' c'' d : Cursor}

theorem Passes.refl (c : Cursor) : c.Passes c :=
  ⟨[], rfl, le_rfl, by simp⟩

theorem Passes.trans (h : c.Passes c') (h' : c'.Passes c'') : c.Passes c'' := by
  obtain ⟨front, hfront, hline, hbreaks⟩ := h
  obtain ⟨back, hback, hline', hbreaks'⟩ := h'
  refine ⟨front ++ back, by simp [hfront, hback], hline.trans hline', fun hsame ch hch => ?_⟩
  rcases List.mem_append.mp hch with hmem | hmem
  · exact hbreaks (by omega) ch hmem
  · exact hbreaks' (by omega) ch hmem

theorem Passes.length_le (h : c.Passes c') : c'.rest.length ≤ c.rest.length := by
  obtain ⟨taken, hrest, -⟩ := h
  simp [hrest]

@[simp] theorem rest_advance (c : Cursor) (k : Nat) : (c.advance k).rest = c.rest.drop k := rfl

@[simp] theorem column_advance (c : Cursor) (k : Nat) : (c.advance k).column = c.column + k := rfl

@[simp] theorem line_advance (c : Cursor) (k : Nat) : (c.advance k).line = c.line := rfl

theorem passes_advance {k : Nat} (h : ∀ ch ∈ c.rest.take k, isBreak ch = false) :
    c.Passes (c.advance k) :=
  ⟨c.rest.take k, (List.take_append_drop k c.rest).symm, le_rfl, fun _ => h⟩

theorem length_advance_le (c : Cursor) (k : Nat) : (c.advance k).rest.length ≤ c.rest.length := by
  simp

/-- Where a place has a next character, the text goes on with it. -/
theorem rest_of_head? {ch : Char} (h : c.head? = some ch) : c.rest = ch :: c.rest.tail := by
  obtain ⟨after, hrest⟩ := List.head?_eq_some_iff.mp h
  rw [hrest, List.tail_cons]

theorem rest_ne_nil {ch : Char} (h : c.head? = some ch) : c.rest ≠ [] := by
  rw [rest_of_head? h]
  exact List.cons_ne_nil _ _

theorem length_advance_lt {k : Nat} (hk : 0 < k) (h : c.rest ≠ []) :
    (c.advance k).rest.length < c.rest.length := by
  have hpos := List.length_pos_iff.mpr h
  rw [rest_advance, List.length_drop]
  omega

theorem length_advance_one {ch : Char} (h : c.head? = some ch) :
    (c.advance 1).rest.length + 1 = c.rest.length := by
  rw [rest_advance, Cursor.rest_of_head? h]
  rfl

theorem Passes.length_lt {ch : Char} (h : (c.advance 1).Passes c') (hhead : c.head? = some ch) :
    c'.rest.length < c.rest.length := by
  have hlength := length_advance_one hhead
  have hle := h.length_le
  omega

theorem passes_advance_one {ch : Char} (h : c.head? = some ch) (hbreak : isBreak ch = false) :
    c.Passes (c.advance 1) := by
  refine passes_advance ?_
  rw [rest_of_head? h]
  simpa using hbreak

theorem passes_span {p : Char → Bool} (h : ∀ ch, p ch = true → isBreak ch = false) :
    c.Passes (c.span p).2 := by
  refine passes_advance fun ch hch => h ch ?_
  rw [← List.prefix_iff_eq_take.mp (List.takeWhile_prefix p)] at hch
  exact List.mem_takeWhile_imp hch

theorem takeBreak_of_pair {rest : List Char} (h : c.rest = '\r' :: '\n' :: rest) :
    c.takeBreak = (['\n'], ⟨rest, c.index + 2, c.line + 1, 0⟩) := by
  simp only [takeBreak, h]

theorem takeBreak_of_break {ch : Char} {rest : List Char} (h : c.rest = ch :: rest)
    (hbreak : isBreak ch = true) (hpair : ch = '\r' → rest.head? ≠ some '\n') :
    c.takeBreak = (if ch = '\u2028' ∨ ch = '\u2029' then [ch] else ['\n'],
      ⟨rest, c.index + 1, c.line + 1, 0⟩) := by
  rw [takeBreak]
  split
  · rename_i hrest
    obtain ⟨rfl, rfl⟩ : ch = '\r' ∧ rest = '\n' :: _ := by simpa [h] using hrest
    exact absurd rfl (hpair rfl)
  · rename_i hrest
    obtain ⟨rfl, rfl⟩ : ch = _ ∧ rest = _ := by simpa [h] using hrest
    rw [if_pos hbreak]
  · simp_all

theorem takeBreak_of_other (h : c.head?.any isBreak = false) : c.takeBreak = ([], c) := by
  rw [takeBreak]
  split
  · rename_i hrest
    rw [head?, hrest] at h
    cases h
  · rename_i hrest
    rw [head?, hrest] at h
    rw [if_neg (by simpa using h)]
  · rfl

/-- The place behind a break only depends on what the break is. -/
theorem exists_takeBreak (h : c.head?.any isBreak = true) :
    ∃ rest k, ∀ d : Cursor, d.rest = c.rest → d.takeBreak.2 = ⟨rest, d.index + k, d.line + 1, 0⟩ := by
  cases hrest : c.rest with
  | nil => simp [head?, hrest] at h
  | cons ch rest =>
    have hbreak : isBreak ch = true := by simpa [head?, hrest] using h
    by_cases hpair : ch = '\r' ∧ rest.head? = some '\n'
    · obtain ⟨rfl, hhead⟩ := hpair
      obtain ⟨after, rfl⟩ := List.head?_eq_some_iff.mp hhead
      exact ⟨after, 2, fun d hd => by rw [takeBreak_of_pair hd]⟩
    · exact ⟨rest, 1, fun d hd => by
        rw [takeBreak_of_break hd hbreak fun hch hhead => hpair ⟨hch, hhead⟩]⟩

theorem length_takeBreak_lt (h : c.head?.any isBreak = true) :
    c.takeBreak.2.rest.length < c.rest.length := by
  rw [takeBreak]
  split
  · rename_i hrest
    simp only [hrest, List.length_cons]
    omega
  · rename_i ch rest _ hrest
    have hbreak : isBreak ch = true := by simpa [head?, hrest] using h
    simp [hrest, hbreak]
  · rename_i hrest
    simp [head?, hrest] at h

theorem passes_takeBreak (c : Cursor) : c.Passes c.takeBreak.2 := by
  rw [takeBreak]
  split
  · rename_i rest hrest
    exact ⟨['\r', '\n'], hrest, Nat.le_succ _, fun h => absurd h (by simp)⟩
  · rename_i ch rest _ hrest
    split
    · exact ⟨[ch], hrest, Nat.le_succ _, fun h => absurd h (by simp)⟩
    · exact .refl c
  · exact .refl c

end Cursor

/-! ## Twins -/

/-- What two texts end in that are the same in front of it.  The ends share as many characters
as a reader looks ahead; places in front of them are some characters and lines apart. -/
structure Ends where
  left : List Char
  right : List Char
  indexGap : Int
  lineGap : Int
  front : right.take 4 = left.take 4

namespace Ends

/-- A place is not behind the end. -/
def Bounds (e : Ends) (c : Cursor) : Prop :=
  e.left.length ≤ c.rest.length

/-- Places in two texts that have the same characters in front of the ends. -/
structure Twin (e : Ends) (c d : Cursor) : Prop where
  rest : ∃ front, c.rest = front ++ e.left ∧ d.rest = front ++ e.right
  index : (d.index : Int) = c.index + e.indexGap
  line : (d.line : Int) = c.line + e.lineGap
  column : d.column = c.column

variable {e : Ends} {c c' d : Cursor} {k : Nat}

theorem right_eq_nil (h : e.left = []) : e.right = [] := by
  simpa [h] using e.front

theorem Bounds.of_passes (h : e.Bounds c') (hpasses : c.Passes c') : e.Bounds c :=
  h.trans hpasses.length_le

/-- As many characters fulfil a condition if they are the same up to the first that does
not. -/
theorem takeWhile_eq_of_front {p : Char → Bool} {l l' : List Char} {k : Nat}
    (hlength : (l.takeWhile p).length = k) (htake : l'.take k = l.take k)
    (hhead : (l'.drop k).head? = (l.drop k).head?) : l'.takeWhile p = l.takeWhile p := by
  induction l generalizing l' k with
  | nil =>
    obtain rfl : 0 = k := hlength
    simp_all
  | cons a l ih =>
    by_cases ha : p a = true
    · obtain rfl : (l.takeWhile p).length + 1 = k := by simpa [ha] using hlength
      cases l' with
      | nil => simp at htake
      | cons b l' =>
        simp only [List.take_succ_cons, List.cons.injEq, List.drop_succ_cons] at htake hhead
        obtain ⟨rfl, htake⟩ := htake
        simp [ha, ih rfl htake hhead]
    · obtain rfl : 0 = k := by simpa [ha] using hlength
      cases l' with
      | nil => simp at hhead
      | cons b l' =>
        obtain rfl : b = a := by simpa using hhead
        simp [ha]

namespace Twin

/-- What is taken in front of the ends is the same at both places. -/
theorem split (h : e.Twin c d) (hbounds : e.Bounds (c.advance k)) :
    d.rest.take k = c.rest.take k ∧
      ∃ front, c.rest.drop k = front ++ e.left ∧ d.rest.drop k = front ++ e.right := by
  obtain ⟨front, hc, hd⟩ := h.rest
  by_cases hleft : e.left = []
  · have hright := right_eq_nil hleft
    have hsame : d.rest = c.rest := by simp [hc, hd, hleft, hright]
    exact ⟨by rw [hsame], c.rest.drop k, by simp [hleft], by simp [hright, hsame]⟩
  · have hk : k ≤ front.length := by
      have := List.length_pos_iff.mpr hleft
      simp only [Bounds, Cursor.rest_advance, List.length_drop, hc, List.length_append] at hbounds
      omega
    refine ⟨?_, front.drop k, ?_, ?_⟩
    all_goals simp [hc, hd, List.take_append_of_le_length hk, List.drop_append_of_le_length hk]

theorem take (h : e.Twin c d) (hbounds : e.Bounds (c.advance k)) :
    d.rest.take k = c.rest.take k :=
  (h.split hbounds).1

theorem advance (h : e.Twin c d) (hbounds : e.Bounds (c.advance k)) :
    e.Twin (c.advance k) (d.advance k) where
  rest := (h.split hbounds).2
  index := by
    have := h.index
    simp only [Cursor.advance]
    omega
  line := h.line
  column := congrArg (· + k) h.column

/-- Both places have the same in front of them, as far as a reader looks. -/
theorem front (h : e.Twin c d) : d.rest.take 4 = c.rest.take 4 := by
  obtain ⟨front, hc, hd⟩ := h.rest
  simp only [hc, hd, List.take_append]
  congr 1
  have htake (n : Nat) (hn : n ≤ 4) : e.right.take n = e.left.take n := by
    simpa [List.take_take, Nat.min_eq_left hn] using congrArg (List.take n) e.front
  exact htake _ (Nat.sub_le _ _)

theorem take_two (h : e.Twin c d) : d.rest.take 2 = c.rest.take 2 := by
  simpa [List.take_take] using congrArg (List.take 2) h.front

theorem getElem? (h : e.Twin c d) (hk : k < 4) : d.rest[k]? = c.rest[k]? := by
  have := congrArg (·[k]?) h.front
  simpa [List.getElem?_take, hk] using this

theorem head? (h : e.Twin c d) : d.head? = c.head? := by
  simpa [Cursor.head?, List.head?_eq_getElem?] using h.getElem? (k := 0) (by omega)

theorem startsWith (h : e.Twin c d) (ch : Char) : d.startsWith ch = c.startsWith ch := by
  simp only [Cursor.startsWith, h.head?]

theorem isEmpty (h : e.Twin c d) : d.rest.isEmpty = c.rest.isEmpty := by
  have hempty (x : Cursor) : x.rest.isEmpty = x.head?.isNone := by
    rw [Cursor.head?]
    cases x.rest <;> rfl
  rw [hempty, hempty, h.head?]

theorem isSpaceAt (h : e.Twin c d) (hk : k < 4) : d.isSpaceAt k = c.isSpaceAt k := by
  have hat (x : Cursor) : x.isSpaceAt k =
      (x.rest[k]?.map fun ch => isBlank ch || isBreak ch).getD true := by
    rw [Cursor.isSpaceAt, ← List.head?_drop]
    cases x.rest.drop k <;> rfl
  rw [hat, hat, h.getElem? hk]

theorem isLineEndAt (h : e.Twin c d) (hk : k < 4) : d.isLineEndAt k = c.isLineEndAt k := by
  have hat (x : Cursor) : x.isLineEndAt k = (x.rest[k]?.map isBreak).getD true := by
    rw [Cursor.isLineEndAt, ← List.head?_drop]
    cases x.rest.drop k <;> rfl
  rw [hat, hat, h.getElem? hk]

theorem isMarker (h : e.Twin c d) (ch : Char) : d.isMarker ch = c.isMarker ch := by
  have hthree : d.rest.take 3 = c.rest.take 3 := by
    simpa [List.take_take] using congrArg (List.take 3) h.front
  simp only [Cursor.isMarker, h.column, hthree, h.isSpaceAt (k := 3) (by omega)]

theorem isDocumentMarker (h : e.Twin c d) : d.isDocumentMarker = c.isDocumentMarker := by
  simp only [Cursor.isDocumentMarker, h.isMarker]

/-- The next character and those after it, at both places. -/
theorem cons {ch : Char} {after : List Char} (h : e.Twin c d) (hrest : c.rest = ch :: after) :
    ∃ after', d.rest = ch :: after' ∧ after'.take 3 = after.take 3 := by
  have hfront := h.front
  rw [hrest] at hfront
  cases hd : d.rest with
  | nil => simp [hd] at hfront
  | cons ch' after' =>
    simp only [hd, List.take_succ_cons, List.cons.injEq] at hfront
    exact ⟨after', by rw [hfront.1], hfront.2⟩

theorem nil (h : e.Twin c d) (hrest : c.rest = []) : d.rest = [] := by
  have := h.isEmpty
  simpa [hrest] using this

/-- Places in one text are as far from each other as their twins in the other. -/
theorem length_add (h : e.Twin c d) :
    d.rest.length + e.left.length = c.rest.length + e.right.length := by
  obtain ⟨front, hc, hd⟩ := h.rest
  simp only [hc, hd, List.length_append]
  omega

theorem exists_succ {m : Nat} (h : e.Twin c d) (hrest : c.rest ≠ []) (hm : d.rest.length ≤ m) :
    ∃ n, m = n + 1 := by
  refine Nat.exists_eq_succ_of_ne_zero fun hzero => hrest ?_
  have hd : d.rest.isEmpty = true := by simpa [hzero] using hm
  simpa [h.isEmpty] using hd

/-- The same characters fulfil a condition at both places. -/
theorem span {p : Char → Bool} (h : e.Twin c d) (hbounds : e.Bounds (c.span p).2) :
    (d.span p).1 = (c.span p).1 ∧ e.Twin (c.span p).2 (d.span p).2 := by
  have hadvance := h.advance (k := (c.rest.takeWhile p).length) hbounds
  have htaken : d.rest.takeWhile p = c.rest.takeWhile p :=
    takeWhile_eq_of_front rfl (h.take hbounds) hadvance.head?
  exact ⟨htaken, by simpa only [Cursor.span, htaken] using hadvance⟩

theorem newLine (h : e.Twin c d) :
    e.Twin { c with line := c.line + 1, column := 0 } { d with line := d.line + 1, column := 0 } where
  rest := h.rest
  index := h.index
  line := by
    have := h.line
    push_cast
    omega
  column := rfl

/-- The same break stands at both places. -/
theorem takeBreak (h : e.Twin c d) (hbounds : e.Bounds c.takeBreak.2) :
    d.takeBreak.1 = c.takeBreak.1 ∧ e.Twin c.takeBreak.2 d.takeBreak.2 := by
  by_cases hbreak : c.head?.any isBreak = true
  · obtain ⟨ch, rest, hrest⟩ : ∃ ch rest, c.rest = ch :: rest := by
      cases hc : c.rest with
      | nil => simp [Cursor.head?, hc] at hbreak
      | cons ch rest => exact ⟨ch, rest, rfl⟩
    have hch : isBreak ch = true := by simpa [Cursor.head?, hrest] using hbreak
    by_cases hpair : ch = '\r' ∧ rest.head? = some '\n'
    case pos =>
      obtain ⟨rfl, hhead⟩ := hpair
      obtain ⟨after, rfl⟩ := List.head?_eq_some_iff.mp hhead
      rw [Cursor.takeBreak_of_pair hrest] at hbounds ⊢
      have hadvance := h.advance (k := 2) (by simpa [Bounds, hrest] using hbounds)
      have htake := h.take (k := 2) (by simpa [Bounds, hrest] using hbounds)
      have hd : d.rest = '\r' :: '\n' :: d.rest.drop 2 :=
        (List.take_append_drop 2 d.rest).symm.trans (by rw [htake, hrest]; rfl)
      rw [Cursor.takeBreak_of_pair hd]
      exact ⟨rfl, by simpa [Cursor.advance, hrest] using hadvance.newLine⟩
    case neg =>
      have hpair : ch = '\r' → rest.head? ≠ some '\n' := fun hc hn => hpair ⟨hc, hn⟩
      rw [Cursor.takeBreak_of_break hrest hch hpair] at hbounds ⊢
      have hadvance := h.advance (k := 1) (by simpa [Bounds, hrest] using hbounds)
      have htake := h.take (k := 1) (by simpa [Bounds, hrest] using hbounds)
      have hd : d.rest = ch :: d.rest.drop 1 :=
        (List.take_append_drop 1 d.rest).symm.trans (by rw [htake, hrest]; rfl)
      have hhead : (d.rest.drop 1).head? = rest.head? := by
        simpa [Cursor.head?, hrest] using hadvance.head?
      rw [Cursor.takeBreak_of_break hd hch (hhead ▸ hpair)]
      exact ⟨rfl, by simpa [Cursor.advance, hrest] using hadvance.newLine⟩
  · have hother : c.head?.any isBreak = false := by simpa using hbreak
    rw [Cursor.takeBreak_of_other hother, Cursor.takeBreak_of_other (h.head? ▸ hother)]
    exact ⟨rfl, h⟩

end Twin

end Ends

/-! ## Results at twin places -/

/-- Results that hold a place. -/
class Placed (β : Type) where
  place : β → Cursor
  /-- The result with another place. -/
  moved : β → Cursor → β

namespace Placed

variable {α β : Type}

instance : Placed Cursor := ⟨fun c => c, fun _ c => c⟩

instance [Placed β] : Placed (α × β) :=
  ⟨fun r => place r.2, fun r c => (r.1, moved r.2 c)⟩

@[simp] theorem place_cursor (c : Cursor) : place c = c := rfl

@[simp] theorem moved_cursor (c d : Cursor) : moved c d = d := rfl

@[simp] theorem place_pair [Placed β] (a : α) (r : β) : place (a, r) = place r := rfl

@[simp] theorem moved_pair [Placed β] (a : α) (r : β) (c : Cursor) :
    moved (a, r) c = (a, moved r c) := rfl

end Placed

open Placed

/-- A reader, which is given as many steps as there are characters, leads from a place to a
later one, and at twins of the first to twins of the second, with the same result. -/
structure Mirrored {β : Type} [Placed β] (read? : Nat → Cursor → Option β) (c : Cursor)
    (r : β) : Prop where
  passes : c.Passes (place r)
  twin : ∀ {e : Ends} {d : Cursor} {m : Nat}, e.Twin c d → e.Bounds (place r) →
    d.rest.length ≤ m → ∃ d', read? m d = some (moved r d') ∧ e.Twin (place r) d'

namespace Mirrored

variable {β γ δ : Type} [Placed β] [Placed γ] [Placed δ] {read? : Nat → Cursor → Option β}
  {more? : Nat → Cursor → Option γ} {first? : Cursor → Option δ} {c : Cursor} {r : β} {s : γ}
  {t : δ} {k : Nat}

/-! ### Moves -/

/-- The reader stays where it is. -/
theorem stay (hplace : place r = c)
    (h : ∀ {e : Ends} {d : Cursor} {m : Nat}, e.Twin c d → d.rest.length ≤ m →
      read? m d = some (moved r d)) : Mirrored read? c r where
  passes := hplace ▸ .refl c
  twin htwin _ hm := ⟨_, h htwin hm, hplace ▸ htwin⟩

theorem of_take (h : c.Passes (c.advance k)) :
    Mirrored (fun _ d => some (d.rest.take k, d.advance k)) c (c.rest.take k, c.advance k) where
  passes := h
  twin {_ d _} htwin hbounds _ :=
    ⟨d.advance k, congrArg (fun taken => some (taken, d.advance k)) (htwin.take hbounds),
      htwin.advance hbounds⟩

theorem of_advance (h : c.Passes (c.advance k)) :
    Mirrored (fun _ d => some (d.advance k)) c (c.advance k) where
  passes := h
  twin {_ d _} htwin hbounds _ := ⟨d.advance k, rfl, htwin.advance hbounds⟩

theorem of_span {p : Char → Bool} (h : ∀ ch, p ch = true → isBreak ch = false) :
    Mirrored (fun _ d => some (d.span p)) c (c.span p) where
  passes := Cursor.passes_span h
  twin {_ d _} htwin hbounds _ :=
    have hspan := htwin.span hbounds
    ⟨(d.span p).2, congrArg (fun taken => some (taken, (d.span p).2)) hspan.1, hspan.2⟩

theorem of_skipBlanks (c : Cursor) : Mirrored (fun _ d => some d.skipBlanks) c c.skipBlanks where
  passes := Cursor.passes_span fun _ => not_isBreak_of_isBlank
  twin {_ d _} htwin hbounds _ := ⟨d.skipBlanks, rfl, (htwin.span hbounds).2⟩

theorem of_skipLine (c : Cursor) : Mirrored (fun _ d => some d.skipLine) c c.skipLine where
  passes := Cursor.passes_span fun _ h => by simpa using h
  twin {_ d _} htwin hbounds _ := ⟨d.skipLine, rfl, (htwin.span hbounds).2⟩

theorem of_takeBreak (c : Cursor) : Mirrored (fun _ d => some d.takeBreak) c c.takeBreak where
  passes := c.passes_takeBreak
  twin {_ d _} htwin hbounds _ :=
    have hbreak := htwin.takeBreak hbounds
    ⟨d.takeBreak.2, congrArg (fun taken => some (taken, d.takeBreak.2)) hbreak.1, hbreak.2⟩

/-! ### One part after another -/

/-- More steps than there are characters make no difference. -/
theorem enough {fuel : Cursor → Nat} (hread : Mirrored read? c r)
    (hfuel : ∀ d : Cursor, d.rest.length ≤ fuel d) :
    Mirrored (fun _ d => read? (fuel d) d) c r where
  passes := hread.passes
  twin htwin hbounds _ := hread.twin htwin hbounds (hfuel _)

/-- A move leads to twins of a place from twins of another. -/
theorem twin_move {move : Cursor → Cursor} {e : Ends} {d : Cursor}
    (hmove : Mirrored (fun _ d => some (move d)) c (move c)) (htwin : e.Twin c d)
    (hbounds : e.Bounds (move c)) : e.Twin (move c) (move d) := by
  obtain ⟨d', hmoved, htwin'⟩ := hmove.twin htwin hbounds le_rfl
  obtain rfl : move d = d' := Option.some.inj hmoved
  exact htwin'

/-- The reader moves and then reads. -/
theorem behind {move : Cursor → Cursor} {fuel : Cursor → Nat}
    (hmove : Mirrored (fun _ d => some (move d)) c (move c)) (hread : Mirrored read? (move c) r)
    (hfuel : ∀ d : Cursor, (move d).rest.length ≤ fuel d) :
    Mirrored (fun _ d => read? (fuel d) (move d)) c r where
  passes := hmove.passes.trans hread.passes
  twin {_ d _} htwin hbounds _ :=
    have hmoved := hmove.twin_move htwin (hbounds.of_passes hread.passes)
    hread.twin hmoved hbounds (hfuel d)

/-- The reader makes something of what it reads. -/
theorem map (hfirst : Mirrored (fun _ => first?) c t) (hplace : place r = place t)
    (h : ∀ {e : Ends} {d d' : Cursor} {m : Nat}, e.Twin c d → d.rest.length ≤ m →
      e.Twin (place t) d' → first? d = some (moved t d') → read? m d = some (moved r d')) :
    Mirrored read? c r where
  passes := hplace ▸ hfirst.passes
  twin {e d m} htwin hbounds hm := by
    rw [hplace] at hbounds ⊢
    obtain ⟨d', hfirst', htwin'⟩ := hfirst.twin htwin hbounds le_rfl
    exact ⟨d', h htwin hm htwin' hfirst', htwin'⟩

/-- The reader reads one part and then another. -/
theorem bind (hfirst : Mirrored (fun _ => first?) c t) (hmore : Mirrored more? (place t) s)
    (hplace : place r = place s)
    (h : ∀ {e : Ends} {d d₁ d₂ : Cursor} {m : Nat}, e.Twin c d → e.Twin (place t) d₁ →
      e.Twin (place s) d₂ → first? d = some (moved t d₁) → more? m d₁ = some (moved s d₂) →
      read? m d = some (moved r d₂)) : Mirrored read? c r where
  passes := hplace ▸ hfirst.passes.trans hmore.passes
  twin {e d m} htwin hbounds hm := by
    rw [hplace] at hbounds ⊢
    obtain ⟨d₁, hfirst', htwin₁⟩ := hfirst.twin htwin (hbounds.of_passes hmore.passes) le_rfl
    have hm₁ : d₁.rest.length ≤ m := by
      have := htwin.length_add
      have := htwin₁.length_add
      have := hfirst.passes.length_le
      omega
    obtain ⟨d₂, hmore', htwin₂⟩ := hmore.twin htwin₁ hbounds hm₁
    exact ⟨d₂, h htwin htwin₁ htwin₂ hfirst' hmore', htwin₂⟩

/-- The reader reads a part that is not empty and goes on, with a step less. -/
theorem step (hfirst : Mirrored (fun _ => first?) c t) (hmore : Mirrored more? (place t) s)
    (hlt : (place t).rest.length < c.rest.length) (hplace : place r = place s)
    (h : ∀ {e : Ends} {d d₁ d₂ : Cursor} {m : Nat}, e.Twin c d → e.Twin (place t) d₁ →
      first? d = some (moved t d₁) → more? m d₁ = some (moved s d₂) →
      read? (m + 1) d = some (moved r d₂)) : Mirrored read? c r where
  passes := hplace ▸ hfirst.passes.trans hmore.passes
  twin {e d m} htwin hbounds hm := by
    rw [hplace] at hbounds ⊢
    obtain ⟨d₁, hfirst', htwin₁⟩ := hfirst.twin htwin (hbounds.of_passes hmore.passes) le_rfl
    have hlt₁ : d₁.rest.length < d.rest.length := by
      have := htwin.length_add
      have := htwin₁.length_add
      omega
    obtain ⟨m, rfl⟩ : ∃ n, m = n + 1 := ⟨m - 1, by omega⟩
    obtain ⟨d₂, hmore', htwin₂⟩ := hmore.twin htwin₁ hbounds (m := m) (by omega)
    exact ⟨d₂, h htwin htwin₁ hfirst' hmore', htwin₂⟩

/-- The reader takes some characters and goes on. -/
theorem advance (hmore : Mirrored more? (c.advance k) s) (hk : 0 < k) (hlength : k ≤ c.rest.length)
    (hbreaks : ∀ ch ∈ c.rest.take k, isBreak ch = false) (hplace : place r = place s)
    (h : ∀ {e : Ends} {d d' : Cursor} {m : Nat}, e.Twin c d → d.rest.take k = c.rest.take k →
      more? m (d.advance k) = some (moved s d') → read? (m + 1) d = some (moved r d')) :
    Mirrored read? c r := by
  refine (of_take (Cursor.passes_advance hbreaks)).step hmore ?_ hplace
    fun htwin _ htaken hread => ?_
  · simp only [place_pair, place_cursor, Cursor.rest_advance, List.length_drop]
    omega
  · obtain ⟨htake, rfl⟩ := Prod.mk.inj (Option.some.inj htaken)
    exact h htwin htake hread

theorem advance_one {ch : Char} (hmore : Mirrored more? (c.advance 1) s)
    (hhead : c.head? = some ch) (hbreak : isBreak ch = false) (hplace : place r = place s)
    (h : ∀ {e : Ends} {d d' : Cursor} {m : Nat}, e.Twin c d →
      more? m (d.advance 1) = some (moved s d') → read? (m + 1) d = some (moved r d')) :
    Mirrored read? c r := by
  have hc := Cursor.rest_of_head? hhead
  refine hmore.advance Nat.one_pos ?_ ?_ hplace fun htwin _ => h htwin
  · rw [hc]
    simp
  · rw [hc]
    simpa using hbreak

/-- The reader takes a break and goes on. -/
theorem newLine (hmore : Mirrored more? c.takeBreak.2 s) (hbreak : c.head?.any isBreak = true)
    (hplace : place r = place s)
    (h : ∀ {e : Ends} {d d' : Cursor} {m : Nat}, e.Twin c d → d.takeBreak.1 = c.takeBreak.1 →
      more? m d.takeBreak.2 = some (moved s d') → read? (m + 1) d = some (moved r d')) :
    Mirrored read? c r := by
  refine (of_takeBreak c).step hmore (Cursor.length_takeBreak_lt hbreak) hplace
    fun htwin _ htaken hread => ?_
  obtain ⟨hmark, rfl⟩ := Prod.mk.inj (Option.some.inj htaken)
  exact h htwin hmark hread

end Mirrored

end PowerTelemetry.Yaml
