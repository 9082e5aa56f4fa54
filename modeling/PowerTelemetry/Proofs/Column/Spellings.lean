import PowerTelemetry.Proofs.Column.Names
/-!
# Spellings of a column

Different attributes share a column when their plain names are equal, or when one has the
mark that the other one gets.  A name of a column is a spelling of itself.

* `plainName_normalizeName` says that the name of a column is plain, and
  `isReserved_or_isMarked_normalizeName` that it is one of the bare names or marked.
* `normalizeName_cases` has the two ways in which a plain name becomes that of a column,
  and `normalizeName_merges` is the result: which spellings come together.
* `le_of_normalizeName` says that a bare name is the last one of its spellings.
-/

namespace PowerTelemetry.Column

variable {path other name : String}

/-! ## The name of a column -/

theorem isMarked_iff : isMarked name ↔ mark.toList <+: name.toList :=
  List.isPrefixOf_iff_prefix

theorem isMarked_mark_append (name : String) : isMarked (mark ++ name) := by
  rw [isMarked_iff, String.toList_append]
  exact List.prefix_append _ _

/-- A plain name is kept or gets the mark. -/
theorem normalizeName_cases (path : String) :
    (isReserved (plainName path) || isMarked (plainName path)) = true ∧
        normalizeName path = plainName path ∨
      (isReserved (plainName path) || isMarked (plainName path)) = false ∧
        normalizeName path = mark ++ plainName path := by
  rw [normalizeName]
  cases isReserved (plainName path) || isMarked (plainName path) with
  | true => exact .inl ⟨rfl, if_pos rfl⟩
  | false => exact .inr ⟨rfl, if_neg Bool.false_ne_true⟩

/-- The name of a column is one of the bare names or marked. -/
theorem isReserved_or_isMarked_normalizeName (path : String) :
    (isReserved (normalizeName path) || isMarked (normalizeName path)) = true := by
  rcases normalizeName_cases path with ⟨hkept, hname⟩ | ⟨-, hname⟩
  · simpa only [hname] using hkept
  · rw [hname, isMarked_mark_append, Bool.or_true]

/-- A plain name has no capital letters and no points. -/
theorem isLowered_of_mem_plainName {c : Char} (h : c ∈ (plainName path).toList) :
    Text.IsLowered c ∧ c ≠ '.' := by
  rw [plainName, String.toList_ofList, List.mem_map] at h
  obtain ⟨d, hd, rfl⟩ := h
  rw [Text.lowercase, String.toList_ofList] at hd
  split
  · exact ⟨by decide +kernel, by decide⟩
  · rename_i hdot
    exact ⟨Text.isLowered_of_mem_lowerAfter hd, hdot⟩

theorem isLowered_of_mem_normalizeName {c : Char} (h : c ∈ (normalizeName path).toList) :
    Text.IsLowered c ∧ c ≠ '.' := by
  rcases normalizeName_cases path with ⟨-, hname⟩ | ⟨-, hname⟩
  · exact isLowered_of_mem_plainName (hname ▸ h)
  · rw [hname, String.toList_append, List.mem_append] at h
    rcases h with hmark | hplain
    · refine ⟨Text.isLowered_of_all (by decide +kernel) c hmark, ?_⟩
      rintro rfl
      exact absurd hmark (by decide)
    · exact isLowered_of_mem_plainName hplain

/-- The name of a column is plain. -/
theorem plainName_normalizeName (path : String) :
    plainName (normalizeName path) = normalizeName path :=
  plainName_of_isLowered fun _ => isLowered_of_mem_normalizeName

theorem normalizeName_normalizeName (path : String) :
    normalizeName (normalizeName path) = normalizeName path := by
  have hkept := isReserved_or_isMarked_normalizeName path
  rw [← plainName_normalizeName path] at hkept
  rcases normalizeName_cases (normalizeName path) with ⟨-, hname⟩ | ⟨hnot, -⟩
  · rw [hname, plainName_normalizeName]
  · rw [hkept] at hnot
    cases hnot

/-! ## Spellings that come together -/

/-- `name` is what `bare` becomes, which has no mark and is none of the bare names. -/
def AddsMark (name bare : String) : Prop :=
  name = mark ++ bare ∧ (isReserved bare || isMarked bare) = false

/-- A marked name is that of the column, whichever of the two it is. -/
theorem normalizeName_eq_of_addsMark (h : AddsMark (plainName path) (plainName other)) :
    normalizeName path = normalizeName other := by
  obtain ⟨hname, hbare⟩ := h
  rcases normalizeName_cases path with ⟨-, hpath⟩ | ⟨hnot, -⟩
  · rcases normalizeName_cases other with ⟨hkept, -⟩ | ⟨-, hother⟩
    · rw [hbare] at hkept
      cases hkept
    · rw [hpath, hother, hname]
  · rw [hname, isMarked_mark_append, Bool.or_true] at hnot
    cases hnot

theorem normalizeName_eq_iff :
    normalizeName path = normalizeName other ↔
      plainName path = plainName other ∨ AddsMark (plainName path) (plainName other) ∨
        AddsMark (plainName other) (plainName path) := by
  constructor
  · intro h
    rcases normalizeName_cases path with ⟨_, hpath⟩ | ⟨hbare, hpath⟩ <;>
      rcases normalizeName_cases other with ⟨_, hother⟩ | ⟨hbare', hother⟩ <;>
      rw [hpath, hother] at h
    · exact .inl h
    · exact .inr (.inl ⟨h, hbare'⟩)
    · exact .inr (.inr ⟨h.symm, hbare⟩)
    · exact .inl (String.append_right_inj mark |>.mp h)
  · rintro (hplain | hmarked | hmarked)
    · rw [normalizeName, normalizeName, hplain]
    · exact normalizeName_eq_of_addsMark hmarked
    · exact (normalizeName_eq_of_addsMark hmarked).symm

/-- Spellings of columns.  The name of a column is a spelling of itself, has no points,
and is one of the two bare names or marked.  Two attributes share a column if their
plain names are equal, or one is the other one with the mark, which this needed: it has
none yet, and is none of the bare names.  No other spellings come together. -/
theorem normalizeName_merges :
    (∀ path, normalizeName (normalizeName path) = normalizeName path ∧
        '.' ∉ (normalizeName path).toList ∧
        (normalizeName path = timestampName ∨ normalizeName path = serialNumberName ∨
          mark.toList <+: (normalizeName path).toList)) ∧
      ∀ path other, normalizeName path = normalizeName other ↔
        plainName path = plainName other ∨ AddsMark (plainName path) (plainName other) ∨
          AddsMark (plainName other) (plainName path) := by
  refine ⟨fun path => ⟨normalizeName_normalizeName path, ?_, ?_⟩, fun _ _ => normalizeName_eq_iff⟩
  · intro hdot
    exact (isLowered_of_mem_normalizeName hdot).2 rfl
  · have hname := isReserved_or_isMarked_normalizeName path
    simpa only [isReserved, Bool.or_eq_true, beq_iff_eq, isMarked_iff, or_assoc] using hname

-- A point does not end a word, but an underscore does, so the two sigmas differ.
example : normalizeName "ΑΣ.Β" ≠ normalizeName "ΑΣ_Β" := by decide +kernel

/-! ## Bare names -/

/-- Points come before underscores. -/
theorem not_map_points_lt (l : List Char) :
    ¬(l.map fun c => if c = '.' then '_' else c) < l := by
  induction l with
  | nil => exact List.not_lt_nil _
  | cons c rest ih =>
    rw [List.map_cons, List.cons_lt_cons_iff]
    rintro (hlt | ⟨-, hlater⟩)
    · by_cases hdot : c = '.'
      · rw [if_pos hdot, hdot] at hlt
        exact absurd hlt (by decide)
      · rw [if_neg hdot] at hlt
        exact Nat.lt_irrefl _ hlt
    · exact ih hlater

/-- A plain name that is ASCII, without a `k`, is the last one of its spellings. -/
theorem le_plainName (h : ∀ c ∈ (plainName path).toList, c.toNat < 128 ∧ c ≠ 'k') :
    path ≤ plainName path := by
  rw [plainName, String.toList_ofList, Text.lowercase, String.toList_ofList,
    List.forall_mem_map] at h
  have hlower : ¬Text.lowerAfter [] path.toList < path.toList := by
    refine Text.not_lowerAfter_lt fun c hc => ?_
    have hplain := h c hc
    split at hplain
    · rename_i hdot
      rw [hdot]
      decide
    · exact hplain
  have hpoints := not_map_points_lt (Text.lowerAfter [] path.toList)
  rw [← String.not_lt, plainName, Text.lowercase, String.toList_ofList, String.lt_iff,
    String.toList_ofList]
  exact List.not_lt.mpr (List.le_trans (List.not_lt.mp hlower) (List.not_lt.mp hpoints))

theorem plainName_of_normalizeName {bare : String} (hbare : isReserved bare)
    (h : normalizeName path = bare) : plainName path = bare := by
  rcases normalizeName_cases path with ⟨-, hname⟩ | ⟨-, hname⟩
  · rw [← hname, h]
  · rw [hname] at h
    simp only [isReserved, Bool.or_eq_true, beq_iff_eq] at hbare
    rcases hbare with rfl | rfl
    · exact absurd h (mark_append_ne_timestampName _)
    · exact absurd h (mark_append_ne_serialNumberName _)

/-- A bare name is the last one of its spellings. -/
theorem le_of_normalizeName {bare : String} (hbare : isReserved bare)
    (h : normalizeName path = bare) : path ≤ bare := by
  have hplain := plainName_of_normalizeName hbare h
  have hascii : bare.toList.all fun c => decide (c.toNat < 128 ∧ c ≠ 'k') := by
    simp only [isReserved, Bool.or_eq_true, beq_iff_eq] at hbare
    rcases hbare with rfl | rfl <;> decide
  rw [← hplain] at hascii ⊢
  exact le_plainName fun c hc => of_decide_eq_true (List.all_eq_true.mp hascii c hc)

end PowerTelemetry.Column
