import PowerTelemetry.Cloud.Signature
import PowerTelemetry.Proofs.Json.Paths
import Mathlib.Data.List.TakeWhile
import Mathlib.Data.Set.Function
/-!
# Parameters of a body

Each scalar of a body is one parameter.  `pathText` is its name: the names of the members
on its path with points between, and `[i]` for the places in arrays.

* `mem_leaves_iff` says that what is flattened are the scalars with the texts of their
  paths.
* Every step starts with a point or a bracket (`opens`), and there is none in the rest of it
  if no name has one.  So two paths with one text are the same path (`pathText_inj`).
* `flatten_bijOn` is the result: one parameter for each scalar, and no two scalars with one
  name.
-/

namespace PowerTelemetry.Cloud

open Json (Step)

/-! ## Names of parameters -/

/-- The text of a step that is not the first one. -/
def stepText : Step → List Char
  | .member name => '.' :: name.toList
  | .item index => '[' :: (Nat.toDigits 10 index ++ [']'])

/-- The text of a path.  No point stands in front of the first name. -/
def pathText : List Step → List Char
  | .member name :: path => name.toList ++ path.flatMap stepText
  | path => path.flatMap stepText

/-- The text of a scalar: a string as it is, and anything else in JSON. -/
def scalarText : Json → String
  | .string s => s
  | other => other.compact

/-- The parameter of a scalar with its path. -/
def parameter (l : List Step × Json) : String × String :=
  (String.ofList (pathText l.1), scalarText l.2)

/-! ## Scalars of a body -/

theorem mem_memberLeaves_iff (path : Option (List Char)) (members : List (String × Json))
    (l : List Char × List Char) :
    l ∈ memberLeaves path members ↔
      ∃ m ∈ members, l ∈ leaves (some (memberPath path m.1)) m.2 := by
  induction members with
  | nil => simp [memberLeaves]
  | cons m rest ih => simp [memberLeaves, ih]

theorem mem_itemLeaves_iff (path : Option (List Char)) (first : Nat) (items : List Json)
    (l : List Char × List Char) :
    l ∈ itemLeaves path first items ↔
      ∃ index item, items[index]? = some item ∧
        l ∈ leaves (some (itemPath path (first + index))) item := by
  induction items generalizing first with
  | nil => simp [itemLeaves]
  | cons item rest ih =>
    rw [itemLeaves, List.mem_append, ih]
    constructor
    · rintro (hl | ⟨index, other, hother, hl⟩)
      · exact ⟨0, item, rfl, hl⟩
      · refine ⟨index + 1, other, hother, ?_⟩
        rwa [show first + (index + 1) = first + 1 + index by omega]
    · rintro ⟨index, other, hother, hl⟩
      cases index with
      | zero =>
        obtain rfl : item = other := Option.some.inj hother
        exact .inl hl
      | succ index =>
        refine .inr ⟨index, other, hother, ?_⟩
        rwa [show first + 1 + index = first + (index + 1) by omega]

/-- The leaf of a scalar whose path goes on from a given one. -/
def leafBehind (path : List Char) (l : List Step × Json) : List Char × List Char :=
  (path ++ l.1.flatMap stepText, (scalarText l.2).toList)

theorem leafBehind_member (path : List Char) (name : String) (l : List Step × Json) :
    leafBehind path (.member name :: l.1, l.2) =
      leafBehind (memberPath (some path) name) l := by
  simp [leafBehind, memberPath, stepText]

theorem leafBehind_item (path : List Char) (index : Nat) (l : List Step × Json) :
    leafBehind path (.item index :: l.1, l.2) =
      leafBehind (itemPath (some path) index) l := by
  simp [leafBehind, itemPath, stepText]

variable {j : Json}

/-- What a value below a path is flattened to: its scalars, with the texts of their
paths. -/
theorem mem_leaves_iff (h : j.EachObject List.Nodup) (path : List Char)
    (l : List Char × List Char) :
    l ∈ leaves (some path) j ↔ ∃ s ∈ j.scalars, l = leafBehind path s := by
  induction h generalizing path with
  | null => simp [leaves, Json.not_mem_scalars_null]
  | bool b =>
    simp [leaves, Json.mem_scalars_of_isScalar (j := .bool b) trivial, leafBehind, scalarText,
      Json.compact]
  | number n =>
    simp [leaves, Json.mem_scalars_of_isScalar (j := .number n) trivial, leafBehind, scalarText,
      Json.compact]
  | string s =>
    simp [leaves, Json.mem_scalars_of_isScalar (j := .string s) trivial, leafBehind, scalarText]
  | array inside ih =>
    rw [leaves, mem_itemLeaves_iff]
    constructor
    · rintro ⟨index, item, hitem, hl⟩
      obtain ⟨rest, hrest, rfl⟩ := (ih item (List.mem_of_getElem? hitem) _).mp hl
      refine ⟨_, (Json.mem_scalars_array_iff _ _).mpr ⟨index, item, hitem, rest, hrest, rfl⟩, ?_⟩
      rw [leafBehind_item, Nat.zero_add]
    · rintro ⟨s, hs, rfl⟩
      obtain ⟨index, item, hitem, rest, hrest, rfl⟩ := (Json.mem_scalars_array_iff _ _).mp hs
      refine ⟨index, item, hitem, (ih item (List.mem_of_getElem? hitem) _).mpr ⟨rest, hrest, ?_⟩⟩
      rw [leafBehind_item, Nat.zero_add]
  | object names inside ih =>
    rw [leaves, mem_memberLeaves_iff]
    constructor
    · rintro ⟨m, hm, hl⟩
      obtain ⟨rest, hrest, rfl⟩ := (ih m hm _).mp hl
      exact ⟨_, (Json.mem_scalars_object_iff names _).mpr ⟨m, hm, rest, hrest, rfl⟩,
        (leafBehind_member _ _ _).symm⟩
    · rintro ⟨s, hs, rfl⟩
      obtain ⟨m, hm, rest, hrest, rfl⟩ := (Json.mem_scalars_object_iff names _).mp hs
      exact ⟨m, hm, (ih m hm _).mpr ⟨rest, hrest, leafBehind_member _ _ _⟩⟩

variable {members : List (String × Json)}

/-- What an object is flattened to: the parameters of its scalars. -/
theorem mem_leaves_object_iff (h : (Json.object members).EachObject List.Nodup)
    (e : String × String) :
    e ∈ (leaves none (.object members)).map (fun l => (String.ofList l.1, String.ofList l.2)) ↔
      ∃ s ∈ (Json.object members).scalars, e = parameter s := by
  cases h with
  | object names inside =>
    have hpair (m : String × Json) (rest : List Step × Json) :
        (String.ofList (leafBehind (memberPath none m.1) rest).1,
          String.ofList (leafBehind (memberPath none m.1) rest).2)
          = parameter (.member m.1 :: rest.1, rest.2) := by
      simp [leafBehind, memberPath, parameter, pathText]
    rw [leaves, List.mem_map]
    constructor
    · rintro ⟨l, hl, rfl⟩
      obtain ⟨m, hm, hl⟩ := (mem_memberLeaves_iff _ _ _).mp hl
      obtain ⟨rest, hrest, rfl⟩ := (mem_leaves_iff (inside m hm) _ _).mp hl
      exact ⟨_, (Json.mem_scalars_object_iff names _).mpr ⟨m, hm, rest, hrest, rfl⟩, hpair m rest⟩
    · rintro ⟨s, hs, rfl⟩
      obtain ⟨m, hm, rest, hrest, rfl⟩ := (Json.mem_scalars_object_iff names _).mp hs
      exact ⟨_, (mem_memberLeaves_iff _ _ _).mpr
        ⟨m, hm, (mem_leaves_iff (inside m hm) _ _).mpr ⟨rest, hrest, rfl⟩⟩, hpair m rest⟩

/-! ## Names tell paths -/

/-- The characters that a step starts with. -/
def opens (c : Char) : Bool :=
  c == '.' || c == '['

/-- A name without points and opening brackets. -/
def IsPlainName (name : String) : Prop :=
  '.' ∉ name.toList ∧ '[' ∉ name.toList

/-- A step by a plain name or to a place. -/
def IsPlainStep : Step → Prop
  | .member name => IsPlainName name
  | .item _ => True

theorem opens_eq_false_of_isPlainName {name : String} (h : IsPlainName name) :
    ∀ c ∈ name.toList, opens c = false := by
  intro c hc
  have hpoint : c ≠ '.' := fun heq => h.1 (heq ▸ hc)
  have hbracket : c ≠ '[' := fun heq => h.2 (heq ▸ hc)
  simp [opens, hpoint, hbracket]

theorem opens_eq_false_of_place (index : Nat) :
    ∀ c ∈ Nat.toDigits 10 index ++ [']'], opens c = false := by
  intro c hc
  rcases List.mem_append.mp hc with hc | hc
  · have hdigit : c.isDigit = true := Nat.isDigit_of_mem_toDigits (by decide) (by decide) hc
    have hpoint : c ≠ '.' := by
      intro heq
      exact absurd (heq ▸ hdigit) (by decide)
    have hbracket : c ≠ '[' := by
      intro heq
      exact absurd (heq ▸ hdigit) (by decide)
    simp [opens, hpoint, hbracket]
  · obtain rfl := List.mem_singleton.mp hc
    rfl

theorem opens_of_mem_head? (path : List Step) :
    ∀ c ∈ (path.flatMap stepText).head?, opens c = true := by
  cases path with
  | nil => simp
  | cons s path => cases s <;> simp [stepText, opens]

/-- A text without these characters ends where the next step starts. -/
theorem append_inj_of_opens {a b : List Char} {p q : List Step}
    (ha : ∀ c ∈ a, opens c = false) (hb : ∀ c ∈ b, opens c = false)
    (h : a ++ p.flatMap stepText = b ++ q.flatMap stepText) :
    a = b ∧ p.flatMap stepText = q.flatMap stepText := by
  -- either text is what stands before the first character that opens a step
  have hfront {l : List Char} {path : List Step} (hl : ∀ c ∈ l, opens c = false) :
      (l ++ path.flatMap stepText).takeWhile (!opens ·) = l := by
    rw [List.takeWhile_append_of_pos (by simpa using hl)]
    have hhead := opens_of_mem_head? path
    cases htext : path.flatMap stepText with
    | nil => simp
    | cons c rest => simp [hhead c (by simp [htext])]
  obtain rfl : a = b := by rw [← hfront ha, h, hfront hb]
  exact ⟨rfl, List.append_cancel_left h⟩

theorem toDigits_inj {i k : Nat} (h : Nat.toDigits 10 i = Nat.toDigits 10 k) : i = k := by
  have hvalue (n : Nat) : Nat.ofDigitChars 10 (Nat.toDigits 10 n) 0 = n :=
    Nat.ofDigitChars_toDigits (by decide) (by decide)
  rw [← hvalue i, h, hvalue]

/-- The text of a plain step tells the step, whatever steps follow. -/
theorem stepText_append_inj {s t : Step} {p q : List Step} (hs : IsPlainStep s)
    (ht : IsPlainStep t)
    (h : stepText s ++ p.flatMap stepText = stepText t ++ q.flatMap stepText) :
    s = t ∧ p.flatMap stepText = q.flatMap stepText := by
  cases s with
  | member name =>
    cases t with
    | member other =>
      obtain ⟨hname, hrest⟩ := append_inj_of_opens (opens_eq_false_of_isPlainName hs)
        (opens_eq_false_of_isPlainName ht) (List.cons.inj h).2
      exact ⟨congrArg Step.member (String.toList_inj.mp hname), hrest⟩
    | item place => cases h
  | item index =>
    cases t with
    | member other => cases h
    | item place =>
      obtain ⟨hplace, hrest⟩ := append_inj_of_opens (opens_eq_false_of_place index)
        (opens_eq_false_of_place place) (List.cons.inj h).2
      exact ⟨congrArg Step.item (toDigits_inj (List.append_cancel_right hplace)), hrest⟩

/-- The texts of plain steps one after another tell all of them. -/
theorem flatMap_stepText_inj {p q : List Step} (hp : ∀ s ∈ p, IsPlainStep s)
    (hq : ∀ s ∈ q, IsPlainStep s) (h : p.flatMap stepText = q.flatMap stepText) : p = q := by
  induction p generalizing q with
  | nil =>
    cases q with
    | nil => rfl
    | cons t q => cases t <;> simp [stepText] at h
  | cons s p ih =>
    cases q with
    | nil => cases s <;> simp [stepText] at h
    | cons t q =>
      obtain ⟨hs, hsteps⟩ := List.forall_mem_cons.mp hp
      obtain ⟨ht, hothers⟩ := List.forall_mem_cons.mp hq
      rw [List.flatMap_cons, List.flatMap_cons] at h
      obtain ⟨hfirst, hrest⟩ := stepText_append_inj hs ht h
      rw [hfirst, ih hsteps hothers hrest]

/-- Two paths of an object have one text only if they are the same. -/
theorem pathText_inj {name other : String} {p q : List Step}
    (hp : ∀ s ∈ .member name :: p, IsPlainStep s) (hq : ∀ s ∈ .member other :: q, IsPlainStep s)
    (h : pathText (.member name :: p) = pathText (.member other :: q)) :
    Step.member name :: p = .member other :: q := by
  obtain ⟨hname, hsteps⟩ := List.forall_mem_cons.mp hp
  obtain ⟨hother, hothers⟩ := List.forall_mem_cons.mp hq
  obtain ⟨heq, hrest⟩ := append_inj_of_opens (opens_eq_false_of_isPlainName hname)
    (opens_eq_false_of_isPlainName hother) h
  rw [String.toList_inj.mp heq, flatMap_stepText_inj hsteps hothers hrest]

/-! ## One parameter for each scalar -/

/-- The path of a scalar of an object starts with a name, and all its names are plain. -/
theorem exists_path_of_mem_scalars (hdistinct : (Json.object members).EachObject List.Nodup)
    (hplain : (Json.object members).EachObject fun names => ∀ name ∈ names, IsPlainName name)
    {s : List Step × Json} (hs : s ∈ (Json.object members).scalars) :
    ∃ name path, s.1 = .member name :: path ∧ ∀ step ∈ s.1, IsPlainStep step := by
  have hsteps : ∀ step ∈ s.1, IsPlainStep step := by
    intro step hstep
    cases step with
    | member name =>
      obtain ⟨names, hnames, hname⟩ := hplain.exists_names_of_at? hs.1 hstep
      exact hnames name hname
    | item index => trivial
  cases hdistinct with
  | object names inside =>
    obtain ⟨m, -, rest, -, rfl⟩ := (Json.mem_scalars_object_iff names s).mp hs
    exact ⟨m.1, rest.1, rfl, hsteps⟩

/-- No two scalars of an object have parameters of one name. -/
theorem injOn_name_parameter (hdistinct : (Json.object members).EachObject List.Nodup)
    (hplain : (Json.object members).EachObject fun names => ∀ name ∈ names, IsPlainName name) :
    Set.InjOn (fun s => (parameter s).1) (Json.object members).scalars := by
  intro s hs t ht hname
  obtain ⟨name, path, hpath, hsteps⟩ := exists_path_of_mem_scalars hdistinct hplain hs
  obtain ⟨other, way, hway, hothers⟩ := exists_path_of_mem_scalars hdistinct hplain ht
  have htext : pathText s.1 = pathText t.1 := String.ofList_injective hname
  have hsame : s.1 = t.1 := by
    rw [hpath] at hsteps htext ⊢
    rw [hway] at hothers htext ⊢
    exact pathText_inj hsteps hothers htext
  -- a path leads to one value
  have hleaf : some s.2 = some t.2 := by
    rw [← hs.1, ← ht.1, hsame]
  exact Prod.ext hsame (Option.some.inj hleaf)

/-- Every scalar of a body is one parameter, and every parameter is that of one scalar, if
the objects in the body have different names for their members and there is no point and no
opening bracket in any of these.  So nulls and empty containers add nothing, and no scalar
takes the place of another one. -/
theorem flatten_bijOn (hdistinct : (Json.object members).EachObject List.Nodup)
    (hplain : (Json.object members).EachObject fun names =>
      ∀ name ∈ names, '.' ∉ name.toList ∧ '[' ∉ name.toList) :
    Set.BijOn parameter (Json.object members).scalars
        {e | e ∈ (flatten (.object members)).entries} ∧
      Set.InjOn (fun s => (parameter s).1) (Json.object members).scalars := by
  have hnames := injOn_name_parameter hdistinct hplain
  have hentries (e : String × String) : e ∈ (flatten (.object members)).entries ↔
      ∃ s ∈ (Json.object members).scalars, e = parameter s := by
    rw [flatten, Dict.mem_entries_ofList_iff, mem_leaves_object_iff hdistinct]
    simp only [mem_leaves_object_iff hdistinct]
    rintro _ ⟨s, hs, rfl⟩ _ ⟨t, ht, rfl⟩ hname
    rw [hnames hs ht hname]
  refine ⟨⟨fun s hs => ?_, fun s hs t ht heq => ?_, fun e he => ?_⟩, hnames⟩
  · exact (hentries _).mpr ⟨s, hs, rfl⟩
  · exact hnames hs ht (congrArg Prod.fst heq)
  · obtain ⟨s, hs, rfl⟩ := (hentries e).mp he
    exact ⟨s, hs, rfl⟩

/-- A body with empty names, a closing bracket in a name, a null, an empty object and an
array in an array. -/
def nestedBody : Json :=
  .object
    [("", .object [("", .string "x"), ("0]", .null)]),
     ("list", .array [.object [], .array [.bool true, .number (.natural 7)]])]

theorem flatten_bijOn_nestedBody :
    nestedBody.EachObject List.Nodup ∧
      (nestedBody.EachObject fun names =>
        ∀ name ∈ names, '.' ∉ name.toList ∧ '[' ∉ name.toList) ∧
      Set.BijOn parameter nestedBody.scalars {e | e ∈ (flatten nestedBody).entries} ∧
      Set.InjOn (fun s => (parameter s).1) nestedBody.scalars := by
  have heach {p : List String → Prop} (houter : p ["", "list"]) (hinner : p ["", "0]"])
      (hnone : p []) : nestedBody.EachObject p := by
    have hobject : (Json.object [("", .string "x"), ("0]", .null)]).EachObject p :=
      .object hinner (by simp [Json.EachObject.string, Json.EachObject.null])
    have hflags : (Json.array [.bool true, .number (.natural 7)]).EachObject p :=
      .array (by simp [Json.EachObject.bool, Json.EachObject.number])
    have hempty : (Json.object []).EachObject p := .object hnone (by simp)
    exact .object houter (by simp [hobject, hflags, hempty, Json.EachObject.array])
  have hdistinct := heach (p := List.Nodup) (by decide) (by decide) (by decide)
  have hplain := heach (p := fun names => ∀ name ∈ names, '.' ∉ name.toList ∧ '[' ∉ name.toList)
    (by decide) (by decide) (by decide)
  exact ⟨hdistinct, hplain, flatten_bijOn hdistinct hplain⟩

example : (flatten nestedBody).entries =
    [(".", "x"), ("list[1][0]", "true"), ("list[1][1]", "7")] := by
  decide +kernel

end PowerTelemetry.Cloud
