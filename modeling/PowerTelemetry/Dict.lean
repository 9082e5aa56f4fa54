/-!
# Maps ordered by name

A `Dict α` maps names to values of type `α`.  It is a list of entries in
strictly ascending order of their names, so a name has at most one entry, two
dictionaries with the same look-ups are equal, and walking the entries walks
the names in order.  Names are ordered by code points, which is also the order
of their UTF-8 bytes.

The lemmas do three things:

* give the look-ups of each operation (`get?_empty`, `get?_insert`, `get?_map`,
  `get?_ofList`);
* tie look-ups to entries (`get?_eq_some_iff`, `contains_eq_isSome`);
* conclude equality from equal look-ups (`ext_get?`), and rebuild a map from its
  entries (`ofList_entries`).
-/

namespace PowerTelemetry

/-- The entries of a map, by ascending name. -/
structure Dict (α : Type) where
  entries : List (String × α)
  sorted : entries.Pairwise (fun a b => a.1 < b.1)

namespace Dict

variable {α β : Type}

/-! ## Operations -/

/-- The map without entries. -/
def empty : Dict α :=
  ⟨[], List.Pairwise.nil⟩

instance : Inhabited (Dict α) := ⟨empty⟩

/-- The first entry of a name. -/
def lookup (name : String) : List (String × α) → Option α
  | [] => none
  | (n, v) :: rest => if n = name then some v else lookup name rest

/-- The entries with one more, in the place of an entry of the same name if
there is one. -/
def put (name : String) (value : α) : List (String × α) → List (String × α)
  | [] => [(name, value)]
  | (n, v) :: rest =>
    if name < n then (name, value) :: (n, v) :: rest
    else if name = n then (name, value) :: rest
    else (n, v) :: put name value rest

theorem mem_put {name : String} {value : α} {e : String × α} {l : List (String × α)}
    (h : e ∈ put name value l) : e = (name, value) ∨ e ∈ l := by
  induction l with
  | nil => simpa [put] using h
  | cons a rest ih =>
    obtain ⟨n, v⟩ := a
    rw [put] at h
    split at h
    · simpa using h
    · split at h
      · rcases List.mem_cons.mp h with h | h
        · exact .inl h
        · exact .inr (List.mem_cons_of_mem _ h)
      · rcases List.mem_cons.mp h with h | h
        · exact .inr (h ▸ List.mem_cons_self)
        · exact (ih h).imp id (List.mem_cons_of_mem _)

theorem pairwise_put (name : String) (value : α) {l : List (String × α)}
    (h : l.Pairwise (fun a b => a.1 < b.1)) :
    (put name value l).Pairwise (fun a b => a.1 < b.1) := by
  induction l with
  | nil => simp [put]
  | cons a rest ih =>
    obtain ⟨n, v⟩ := a
    obtain ⟨hhead, htail⟩ := List.pairwise_cons.mp h
    rw [put]
    split
    · rename_i hlt
      refine List.pairwise_cons.mpr ⟨?_, h⟩
      intro e he
      rcases List.mem_cons.mp he with rfl | he
      · exact hlt
      · exact String.lt_trans hlt (hhead e he)
    · rename_i hnlt
      split
      · rename_i heq
        subst heq
        exact List.pairwise_cons.mpr ⟨hhead, htail⟩
      · rename_i hne
        refine List.pairwise_cons.mpr ⟨?_, ih htail⟩
        intro e he
        rcases mem_put he with rfl | he
        · exact Std.lt_of_le_of_ne (String.not_lt.mp hnlt) (Ne.symm hne)
        · exact hhead e he

/-- The value of a name. -/
def get? (d : Dict α) (name : String) : Option α :=
  lookup name d.entries

/-- The name has an entry. -/
def contains (d : Dict α) (name : String) : Bool :=
  (d.get? name).isSome

/-- The map with one more entry, which takes the place of an entry of the same
name. -/
def insert (d : Dict α) (name : String) (value : α) : Dict α :=
  ⟨put name value d.entries, pairwise_put name value d.sorted⟩

/-- The entries one after another; of two with one name the later stands. -/
def ofList (l : List (String × α)) : Dict α :=
  l.foldl (fun d e => d.insert e.1 e.2) empty

/-- The entries, by ascending name. -/
def toList (d : Dict α) : List (String × α) :=
  d.entries

/-- The names, ascending. -/
def names (d : Dict α) : List String :=
  d.entries.map (·.1)

/-- The values, in the order of their names. -/
def values (d : Dict α) : List α :=
  d.entries.map (·.2)

/-- Each value replaced. -/
def map (f : String → α → β) (d : Dict α) : Dict β :=
  ⟨d.entries.map (fun e => (e.1, f e.1 e.2)), by
    rw [List.pairwise_map]
    exact d.sorted⟩

instance [BEq α] : BEq (Dict α) := ⟨fun a b => a.entries == b.entries⟩

instance [DecidableEq α] : DecidableEq (Dict α) := fun a b =>
  decidable_of_iff (a.entries = b.entries) <| by
    cases a
    cases b
    simp

/-! ## Look-ups -/

theorem lookup_put (name : String) (value : α) (other : String) (l : List (String × α)) :
    lookup other (put name value l) = if name = other then some value else lookup other l := by
  induction l with
  | nil => simp [put, lookup]
  | cons a rest ih =>
    obtain ⟨n, v⟩ := a
    rw [put]
    split
    · simp only [lookup]
    · split
      · rename_i heq
        subst heq
        simp only [lookup]
        split <;> rfl
      · rename_i hne
        simp only [lookup, ih]
        split
        · rename_i heq
          subst heq
          rw [if_neg hne]
        · rfl

@[simp] theorem get?_empty (name : String) : (empty : Dict α).get? name = none := rfl

theorem get?_insert (d : Dict α) (name : String) (value : α) (other : String) :
    (d.insert name value).get? other = if name = other then some value else d.get? other :=
  lookup_put name value other d.entries

@[simp] theorem get?_insert_self (d : Dict α) (name : String) (value : α) :
    (d.insert name value).get? name = some value := by
  rw [get?_insert, if_pos rfl]

theorem get?_insert_of_ne (d : Dict α) {name other : String} (value : α) (h : name ≠ other) :
    (d.insert name value).get? other = d.get? other := by
  rw [get?_insert, if_neg h]

theorem contains_eq_isSome (d : Dict α) (name : String) :
    d.contains name = (d.get? name).isSome := rfl

/-- An insert adds one name. -/
theorem contains_insert (d : Dict α) (name : String) (value : α) (other : String) :
    (d.insert name value).contains other = (decide (name = other) || d.contains other) := by
  rw [contains_eq_isSome, contains_eq_isSome, get?_insert]
  by_cases h : name = other <;> simp [h]

theorem mem_of_lookup {name : String} {value : α} {l : List (String × α)}
    (h : lookup name l = some value) : (name, value) ∈ l := by
  induction l with
  | nil => simp [lookup] at h
  | cons a rest ih =>
    obtain ⟨n, v⟩ := a
    rw [lookup] at h
    split at h
    · rename_i heq
      simp_all
    · exact List.mem_cons_of_mem _ (ih h)

theorem lookup_of_mem {name : String} {value : α} {l : List (String × α)}
    (hs : l.Pairwise (fun a b => a.1 < b.1)) (h : (name, value) ∈ l) :
    lookup name l = some value := by
  induction l with
  | nil => simp at h
  | cons a rest ih =>
    obtain ⟨n, v⟩ := a
    obtain ⟨hhead, htail⟩ := List.pairwise_cons.mp hs
    rcases List.mem_cons.mp h with h | h
    · cases h
      simp [lookup]
    · have hlt : n < name := hhead _ h
      have hne : n ≠ name := fun he => String.lt_irrefl name (he ▸ hlt)
      rw [lookup, if_neg hne]
      exact ih htail h

/-- A name has the value of its entry. -/
theorem get?_eq_some_iff (d : Dict α) (name : String) (value : α) :
    d.get? name = some value ↔ (name, value) ∈ d.entries :=
  ⟨mem_of_lookup, lookup_of_mem d.sorted⟩

theorem lookup_map (f : String → α → β) (name : String) (l : List (String × α)) :
    lookup name (l.map fun e => (e.1, f e.1 e.2)) = (lookup name l).map (f name) := by
  induction l with
  | nil => rfl
  | cons a rest ih =>
    rw [List.map_cons, lookup, lookup, ih]
    split
    · rename_i heq
      rw [heq, Option.map_some]
    · rfl

theorem get?_map (f : String → α → β) (d : Dict α) (name : String) :
    (d.map f).get? name = (d.get? name).map (f name) :=
  lookup_map f name d.entries

/-- Of the entries that make a map, the last one of a name counts. -/
theorem get?_ofList (l : List (String × α)) (name : String) :
    (ofList l).get? name = lookup name l.reverse := by
  rw [ofList, List.foldl_eq_foldr_reverse]
  induction l.reverse with
  | nil => rfl
  | cons a rest ih => rw [List.foldr_cons, get?_insert, ih, lookup]

/-- A map made from entries has no other ones. -/
theorem mem_of_get?_ofList {l : List (String × α)} {name : String} {value : α}
    (h : (ofList l).get? name = some value) : (name, value) ∈ l := by
  rw [get?_ofList] at h
  exact List.mem_reverse.mp (mem_of_lookup h)

/-- Among entries of different names each is found. -/
theorem lookup_eq_some_iff {l : List (String × α)} (h : (l.map (·.1)).Nodup) (name : String)
    (value : α) : lookup name l = some value ↔ (name, value) ∈ l := by
  refine ⟨mem_of_lookup, fun hmem => ?_⟩
  induction l with
  | nil => cases hmem
  | cons a rest ih =>
    obtain ⟨hfresh, hrest⟩ := List.nodup_cons.mp h
    rw [lookup]
    rcases List.mem_cons.mp hmem with rfl | hmem
    · rw [if_pos rfl]
    · have hne : a.1 ≠ name := fun heq =>
        hfresh (List.mem_map.mpr ⟨(name, value), hmem, heq.symm⟩)
      rw [if_neg hne, ih hrest hmem]

/-- A map made from entries of different names has just these. -/
theorem get?_ofList_eq_some_iff {l : List (String × α)} (h : (l.map (·.1)).Nodup) (name : String)
    (value : α) : (ofList l).get? name = some value ↔ (name, value) ∈ l := by
  have hreverse : (l.reverse.map (·.1)).Nodup := by
    rw [List.map_reverse]
    exact List.pairwise_reverse.mpr (h.imp Ne.symm)
  rw [get?_ofList, lookup_eq_some_iff hreverse, List.mem_reverse]

theorem exists_lookup_of_mem {name : String} {value : α} {l : List (String × α)}
    (h : (name, value) ∈ l) : ∃ found, lookup name l = some found := by
  induction l with
  | nil => cases h
  | cons a rest ih =>
    rw [lookup]
    split
    · exact ⟨a.2, rfl⟩
    · rename_i hne
      rcases List.mem_cons.mp h with rfl | h
      · exact absurd rfl hne
      · exact ih h

/-- A map made from entries has all of them if none gives way to another one of the same
name. -/
theorem mem_entries_ofList_iff {l : List (String × α)}
    (h : ∀ a ∈ l, ∀ b ∈ l, a.1 = b.1 → a = b) (e : String × α) :
    e ∈ (ofList l).entries ↔ e ∈ l := by
  obtain ⟨name, value⟩ := e
  rw [← get?_eq_some_iff]
  refine ⟨mem_of_get?_ofList, fun hmem => ?_⟩
  obtain ⟨found, hfound⟩ := exists_lookup_of_mem (List.mem_reverse.mpr hmem)
  rw [← get?_ofList] at hfound
  obtain ⟨-, rfl⟩ := Prod.mk.inj (h _ hmem _ (mem_of_get?_ofList hfound) rfl)
  exact hfound

/-! ## Equality -/

theorem entries_eq_of_mem {l r : List (String × α)}
    (hl : l.Pairwise (fun a b => a.1 < b.1)) (hr : r.Pairwise (fun a b => a.1 < b.1))
    (h : ∀ e, e ∈ l ↔ e ∈ r) : l = r := by
  induction l generalizing r with
  | nil =>
    cases r with
    | nil => rfl
    | cons b _ => exact absurd ((h b).mpr List.mem_cons_self) (by simp)
  | cons a l ih =>
    cases r with
    | nil => exact absurd ((h a).mp List.mem_cons_self) (by simp)
    | cons b r =>
      obtain ⟨hal, hl'⟩ := List.pairwise_cons.mp hl
      obtain ⟨hbr, hr'⟩ := List.pairwise_cons.mp hr
      have hab : a = b := by
        rcases List.mem_cons.mp ((h a).mp List.mem_cons_self) with hab | har
        · exact hab
        · rcases List.mem_cons.mp ((h b).mpr List.mem_cons_self) with hba | hbl
          · exact hba.symm
          · exact absurd (String.lt_trans (hal b hbl) (hbr a har)) (String.lt_irrefl _)
      subst hab
      refine congrArg (a :: ·) (ih hl' hr' fun e => ⟨fun he => ?_, fun he => ?_⟩)
      · rcases List.mem_cons.mp ((h e).mp (List.mem_cons_of_mem _ he)) with rfl | he'
        · exact absurd (hal e he) (String.lt_irrefl _)
        · exact he'
      · rcases List.mem_cons.mp ((h e).mpr (List.mem_cons_of_mem _ he)) with rfl | he'
        · exact absurd (hbr e he) (String.lt_irrefl _)
        · exact he'

/-- Two maps with the same look-ups are equal. -/
theorem ext_get? {d e : Dict α} (h : ∀ name, d.get? name = e.get? name) : d = e := by
  have hmem : ∀ p, p ∈ d.entries ↔ p ∈ e.entries := by
    intro (name, value)
    rw [← get?_eq_some_iff, ← get?_eq_some_iff, h]
  obtain ⟨de, ds⟩ := d
  obtain ⟨ee, es⟩ := e
  obtain rfl : de = ee := entries_eq_of_mem ds es hmem
  rfl

/-! ## Entries in order -/

/-- An entry with the greatest name goes to the end. -/
theorem put_of_lt {name : String} (value : α) {l : List (String × α)}
    (h : ∀ e ∈ l, e.1 < name) : put name value l = l ++ [(name, value)] := by
  induction l with
  | nil => rfl
  | cons a rest ih =>
    obtain ⟨n, v⟩ := a
    have hlt : n < name := h (n, v) List.mem_cons_self
    have hnlt : ¬ name < n := fun h' => String.lt_irrefl n (String.lt_trans hlt h')
    have hne : name ≠ n := fun he => String.lt_irrefl n (he ▸ hlt)
    rw [put, if_neg hnlt, if_neg hne, ih fun e he => h e (List.mem_cons_of_mem _ he),
      List.cons_append]

private theorem entries_foldl_insert (l : List (String × α)) :
    ∀ d : Dict α, (d.entries ++ l).Pairwise (fun a b => a.1 < b.1) →
      (l.foldl (fun d e => d.insert e.1 e.2) d).entries = d.entries ++ l := by
  induction l with
  | nil =>
    intro d _
    rw [List.foldl_nil, List.append_nil]
  | cons a rest ih =>
    intro d h
    have hlast : ∀ e ∈ d.entries, e.1 < a.1 := fun e he =>
      (List.pairwise_append.mp h).2.2 e he a List.mem_cons_self
    have hput : (d.insert a.1 a.2).entries = d.entries ++ [a] := put_of_lt a.2 hlast
    rw [List.foldl_cons, ih (d.insert a.1 a.2) (by rw [hput]; simpa using h), hput]
    simp

/-- The entries of a map make that map. -/
theorem ofList_entries (d : Dict α) : ofList d.entries = d := by
  obtain ⟨entries, sorted⟩ := d
  have h : (ofList entries).entries = entries := entries_foldl_insert entries empty sorted
  exact ext_get? fun name => by rw [get?, h, get?]

end Dict

end PowerTelemetry
