import Mathlib.Data.List.Basic
import PowerTelemetry.Search
/-!
# Pieces of lists

Taking a list apart at an element and replacing a run are two passes over the
same list.  They change places when the element is neither in the run nor in
what the run gives way to (`splitAt_replaceAll`).

A run occurs where it is a part of the list (`occurs_iff_infix`), which nothing in
front changes that does not agree with it (`infix_append_iff`).
-/

namespace PowerTelemetry.Search

variable {α : Type} [BEq α] [LawfulBEq α]

/-! ## Lists taken apart -/

/-- There is a first piece. -/
theorem exists_cons_of_splitAt (sep : α) (l : List α) :
    ∃ piece pieces, splitAt sep l = piece :: pieces ∧ piece <+: l := by
  induction l with
  | nil => exact ⟨[], [], rfl, List.prefix_rfl⟩
  | cons a rest ih =>
    obtain ⟨piece, pieces, hrest, hpre⟩ := ih
    by_cases ha : a = sep
    · exact ⟨[], splitAt sep rest, by simp [splitAt, ha], List.nil_prefix⟩
    · exact ⟨a :: piece, pieces, by simp [splitAt, ha, hrest],
        (List.prefix_cons_inj a).mpr hpre⟩

theorem splitAt_cons_self (sep : α) (rest : List α) :
    splitAt sep (sep :: rest) = [] :: splitAt sep rest := by
  simp [splitAt]

theorem splitAt_cons_of_ne {sep a : α} (h : a ≠ sep) (rest : List α) :
    splitAt sep (a :: rest) = (splitAt sep rest).modifyHead (a :: ·) := by
  obtain ⟨piece, pieces, hrest, -⟩ := exists_cons_of_splitAt sep rest
  simp [splitAt, h, hrest]

/-- A run without the separator becomes part of the first piece. -/
theorem splitAt_append {sep : α} {run : List α} (h : sep ∉ run) (rest : List α) :
    splitAt sep (run ++ rest) = (splitAt sep rest).modifyHead (run ++ ·) := by
  induction run with
  | nil =>
    obtain ⟨piece, pieces, hrest, -⟩ := exists_cons_of_splitAt sep rest
    rw [List.nil_append, hrest]
    rfl
  | cons a run ih =>
    obtain ⟨ha, hrun⟩ := List.ne_and_not_mem_of_not_mem_cons h
    rw [List.cons_append, splitAt_cons_of_ne (Ne.symm ha), ih hrun, List.modifyHead_modifyHead]
    rfl

/-- The first occurrence of an element is where those before it end. -/
theorem cutAt?_append {sep : α} {before : List α} (h : sep ∉ before) (after : List α) :
    cutAt? sep (before ++ sep :: after) = some (before, after) := by
  induction before with
  | nil => simp [cutAt?]
  | cons a before ih =>
    obtain ⟨ha, hbefore⟩ := List.ne_and_not_mem_of_not_mem_cons h
    simp [cutAt?, Ne.symm ha, ih hbefore]

theorem cutAt?_eq_none {sep : α} {l : List α} (h : sep ∉ l) : cutAt? sep l = none := by
  induction l with
  | nil => rfl
  | cons a rest ih =>
    obtain ⟨ha, hrest⟩ := List.ne_and_not_mem_of_not_mem_cons h
    simp [cutAt?, Ne.symm ha, ih hrest]

/-- A run occurs first where its first element does. -/
theorem indexOf?_append {a : α} {before : List α} (h : a ∉ before) (run after : List α) :
    indexOf? (a :: run) (before ++ a :: run ++ after) = some before.length := by
  induction before with
  | nil =>
    have hpre : (a :: run).isPrefixOf (a :: (run ++ after)) = true :=
      List.isPrefixOf_iff_prefix.mpr (List.prefix_append (a :: run) after)
    rw [List.nil_append, List.cons_append, indexOf?, if_pos hpre]
    rfl
  | cons b before ih =>
    obtain ⟨hb, hbefore⟩ := List.ne_and_not_mem_of_not_mem_cons h
    have hpre : ¬ (a :: run).isPrefixOf (b :: (before ++ a :: run ++ after)) = true := by
      simp [hb]
    rw [List.cons_append, List.cons_append, indexOf?, if_neg hpre, ih hbefore]
    rfl

/-- A run that occurs lies inside of the list. -/
theorem add_length_le_of_indexOf? {run l : List α} {i : Nat} (h : indexOf? run l = some i) :
    i + run.length ≤ l.length := by
  induction l generalizing i with
  | nil =>
    obtain ⟨hempty, rfl⟩ := by simpa [indexOf?] using h
    simp [hempty]
  | cons a rest ih =>
    rw [indexOf?] at h
    split at h
    · rename_i hpre
      obtain rfl : 0 = i := Option.some.inj h
      have hle : run.length ≤ (a :: rest).length := (List.isPrefixOf_iff_prefix.mp hpre).length_le
      omega
    · obtain ⟨j, hj, rfl⟩ := Option.map_eq_some_iff.mp h
      have hle : j + run.length ≤ rest.length := ih hj
      simp only [List.length_cons]
      omega

/-- A run occurs where it is a part of the list. -/
theorem occurs_iff_infix (run l : List α) : occurs run l = true ↔ run <:+: l := by
  rw [occurs]
  induction l with
  | nil =>
    rw [indexOf?, List.infix_nil, ← List.isEmpty_iff]
    cases run.isEmpty <;> simp
  | cons a rest ih =>
    rw [indexOf?, List.infix_cons_iff, ← ih, ← List.isPrefixOf_iff_prefix]
    cases run.isPrefixOf (a :: rest) <;> simp

/-- A run does not start in front of a list if none of the ends of what is there agrees with it. -/
theorem infix_append_iff {β : Type} {run front : List β}
    (h : ∀ tail ∈ front.tails, tail ≠ [] → ¬run <+: tail ∧ ¬tail <+: run) (rest : List β) :
    run <:+: front ++ rest ↔ run <:+: rest := by
  induction front with
  | nil => rfl
  | cons a front ih =>
    obtain ⟨hlong, hshort⟩ := h (a :: front) (by simp) (List.cons_ne_nil a front)
    have hnot : ¬run <+: a :: (front ++ rest) := fun hrun =>
      (List.prefix_or_prefix_of_prefix hrun (List.prefix_append (a :: front) rest)).elim
        hlong hshort
    rw [List.cons_append, List.infix_cons_iff, or_iff_right hnot]
    exact ih fun tail htail => h tail (by simp [htail])

/-! ## Runs replaced -/

variable {a : α} {run other : List α}

/-- A run at the front gives way. -/
theorem replaceAll_append (a : α) (run other l : List α) :
    replaceAll a run other (a :: run ++ l) = other ++ replaceAll a run other l := by
  have hpre : (a :: run).isPrefixOf (a :: (run ++ l)) = true :=
    List.isPrefixOf_iff_prefix.mpr (List.prefix_append (a :: run) l)
  rw [List.cons_append, replaceAll, if_pos hpre, List.drop_left]

/-- An element stays where the run does not start. -/
theorem replaceAll_cons_of_not_run {c : α} {rest : List α} (h : ¬ a :: run <+: c :: rest) :
    replaceAll a run other (c :: rest) = c :: replaceAll a run other rest := by
  rw [replaceAll, if_neg (by rwa [List.isPrefixOf_iff_prefix])]

/-- The run itself gives way. -/
theorem replaceAll_self (a : α) (run other : List α) : replaceAll a run other (a :: run) = other := by
  have h := replaceAll_append a run other []
  rwa [replaceAll, List.append_nil, List.append_nil] at h

/-- The pieces of a list with the run replaced are the pieces of the list, with
the run replaced in each. -/
theorem splitAt_replaceAll {sep : α} (hrun : sep ∉ a :: run) (hother : sep ∉ other) (l : List α) :
    splitAt sep (replaceAll a run other l) = (splitAt sep l).map (replaceAll a run other) := by
  induction l using replaceAll.induct a run with
  | case1 => simp [splitAt, replaceAll]
  | case2 c rest hpre ih =>
    obtain ⟨tail, htail⟩ := List.isPrefixOf_iff_prefix.mp hpre
    have hrest : run ++ tail = rest := (List.cons.inj htail).2
    have hdrop : rest.drop run.length = tail := by rw [← hrest, List.drop_left]
    obtain ⟨piece, pieces, hpieces, -⟩ := exists_cons_of_splitAt sep tail
    rw [hdrop] at ih
    rw [← htail, replaceAll_append, splitAt_append hother, ih, splitAt_append hrun, hpieces]
    simp only [List.map_cons, List.modifyHead_cons, replaceAll_append]
  | case3 c rest hpre ih =>
    rw [List.isPrefixOf_iff_prefix] at hpre
    rw [replaceAll_cons_of_not_run hpre]
    by_cases hc : c = sep
    · rw [hc, splitAt_cons_self, splitAt_cons_self, ih, List.map_cons, replaceAll]
    · obtain ⟨piece, pieces, hpieces, hfirst⟩ := exists_cons_of_splitAt sep rest
      -- the run does not start there in the piece either, which may be shorter than the list
      have hpiece : ¬ a :: run <+: c :: piece := fun h =>
        hpre (h.trans ((List.prefix_cons_inj c).mpr hfirst))
      rw [splitAt_cons_of_ne hc, splitAt_cons_of_ne hc, ih, hpieces]
      simp only [List.map_cons, List.modifyHead_cons, replaceAll_cons_of_not_run hpiece]

/-- What is a single element once the run is replaced by that element is the
element or the run. -/
theorem eq_of_replaceAll_eq_singleton {c : α} {l : List α} (h : replaceAll a run [c] l = [c]) :
    l = [c] ∨ l = a :: run := by
  -- nothing is left of an empty list only
  have hnil (l : List α) (h : replaceAll a run [c] l = []) : l = [] := by
    rcases l with _ | ⟨d, rest⟩
    · rfl
    · rw [replaceAll] at h
      split at h <;> simp at h
  rcases l with _ | ⟨d, rest⟩
  · simp [replaceAll] at h
  by_cases hpre : a :: run <+: d :: rest
  · obtain ⟨tail, htail⟩ := hpre
    rw [← htail, replaceAll_append, List.singleton_append] at h
    have htl := hnil tail (List.cons.inj h).2
    exact .inr (by rw [← htail, htl, List.append_nil])
  · rw [replaceAll_cons_of_not_run hpre] at h
    obtain ⟨hd, hrest⟩ := List.cons.inj h
    exact .inl (by rw [hd, hnil rest hrest])

end PowerTelemetry.Search
