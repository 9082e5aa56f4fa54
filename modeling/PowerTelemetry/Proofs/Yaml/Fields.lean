import PowerTelemetry.Proofs.Yaml.Variations
import PowerTelemetry.Yaml.Typed
/-!
# Fields of documents that differ in one text

Documents that are the same but for the texts of entries of one name have the same records, in
which every field of another name reads the same, and one of that name the same or the texts.
-/

namespace PowerTelemetry.Yaml

namespace Variation

variable {v : Variation} {d e : Document} {node node' : Node} {α : Type}

/-! ## Scalars -/

theorem Anchored.lookup {nodes nodes' : List (Nat × Node)} (h : v.Anchored nodes nodes')
    (number : Nat) : Option.Rel v.Same (nodes.lookup number) (nodes'.lookup number) := by
  induction h with
  | nil => exact .none
  | @cons p q nodes nodes' hpq _ ih =>
    obtain ⟨i, node⟩ := p
    obtain ⟨j, node'⟩ := q
    obtain ⟨rfl, hnode⟩ := hpq
    simp only [List.lookup_cons]
    split
    · exact .some hnode
    · exact ih

theorem Documents.resolve (h : v.Documents d e) (hnode : v.Same node node') :
    v.Same (d.resolve node) (e.resolve node') := by
  cases hnode with
  | «alias» number =>
    have hlookup := h.anchored.lookup number
    simp only [Document.resolve]
    generalize d.anchored.lookup number = found at hlookup ⊢
    generalize e.anchored.lookup number = found' at hlookup ⊢
    cases hlookup with
    | none => exact .scalar _ _ _
    | some hsame => exact hsame
  | scalar => exact .scalar _ _ _
  | sequence hitems => exact .sequence hitems
  | mapping hpairs => exact .mapping hpairs

/-- What holds of alike nodes holds of what they stand for. -/
@[elab_as_elim] theorem Documents.resolved (h : v.Documents d e) (hnode : v.Same node node')
    {motive : Node → Node → Prop} (hmotive : ∀ {n n' : Node}, v.Same n n' → motive n n') :
    motive (d.resolve node) (e.resolve node') :=
  hmotive (h.resolve hnode)

theorem Documents.text? (h : v.Documents d e) (hnode : v.Same node node') :
    e.text? node' = d.text? node := by
  rw [Document.text?, Document.text?]
  refine h.resolved hnode fun hsame => ?_
  cases hsame <;> rfl

theorem Documents.typedText? (h : v.Documents d e) (type : String) (hnode : v.Same node node') :
    e.typedText? type node' = d.typedText? type node := by
  rw [Document.typedText?, Document.typedText?]
  refine h.resolved hnode fun hsame => ?_
  cases hsame <;> rfl

theorem Documents.absent? (h : v.Documents d e) (hnode : v.Same node node') :
    e.absent? node' = d.absent? node := by
  rw [Document.absent?, Document.absent?]
  refine h.resolved hnode fun hsame => ?_
  cases hsame <;> rfl

theorem Documents.flag? (h : v.Documents d e) (hnode : v.Same node node') :
    e.flag? node' = d.flag? node := by
  rw [Document.flag?, Document.flag?, h.typedText? _ hnode]

theorem Documents.natural? (h : v.Documents d e) (bits : Nat) (hnode : v.Same node node') :
    e.natural? bits node' = d.natural? bits node := by
  rw [Document.natural?, Document.natural?, h.typedText? _ hnode]

theorem Documents.uint8? (h : v.Documents d e) (hnode : v.Same node node') :
    e.uint8? node' = d.uint8? node := by
  rw [Document.uint8?, Document.uint8?, h.natural? _ hnode]

theorem Documents.uint16? (h : v.Documents d e) (hnode : v.Same node node') :
    e.uint16? node' = d.uint16? node := by
  rw [Document.uint16?, Document.uint16?, h.natural? _ hnode]

theorem Documents.uint32? (h : v.Documents d e) (hnode : v.Same node node') :
    e.uint32? node' = d.uint32? node := by
  rw [Document.uint32?, Document.uint32?, h.natural? _ hnode]

theorem Documents.uint64? (h : v.Documents d e) (hnode : v.Same node node') :
    e.uint64? node' = d.uint64? node := by
  rw [Document.uint64?, Document.uint64?, h.natural? _ hnode]

theorem Documents.int64? (h : v.Documents d e) (hnode : v.Same node node') :
    e.int64? node' = d.int64? node := by
  rw [Document.int64?, Document.int64?, h.typedText? _ hnode]

/-- Readers that find the same in alike nodes. -/
def Agrees (v : Variation) (read? read'? : Node → Option α) : Prop :=
  ∀ {node node' : Node}, v.Same node node' → read'? node' = read? node

theorem Documents.optional? (h : v.Documents d e) {read? read'? : Node → Option α}
    (hread : v.Agrees read? read'?) (hnode : v.Same node node') :
    e.optional? read'? node' = d.optional? read? node := by
  rw [Document.optional?, Document.optional?, h.absent? hnode, hread hnode]

theorem mapM_items {read? read'? : Node → Option α} (hread : v.Agrees read? read'?)
    {items items' : List Node} (h : v.Items items items') :
    items'.mapM read'? = items.mapM read? := by
  induction items generalizing items' with
  | nil =>
    cases h
    rfl
  | cons node items ih =>
    cases h with
    | cons hnode hrest => rw [List.mapM_cons, List.mapM_cons, hread hnode, ih hrest]

theorem Documents.list? (h : v.Documents d e) {read? read'? : Node → Option α}
    (hread : v.Agrees read? read'?) (hnode : v.Same node node') :
    e.list? read'? node' = d.list? read? node := by
  rw [Document.list?, Document.list?]
  refine h.resolved hnode fun hsame => ?_
  cases hsame with
  | scalar style tag text => split <;> simp_all
  | sequence hitems => exact mapM_items hread hitems
  | _ => rfl

/-! ## Records -/

/-- What two records hold under a name: the same, or the texts of an entry. -/
def Held (v : Variation) (name : String) (node node' : Node) : Prop :=
  v.Same node node' ∨ name = v.name ∧ node = .scalar .doubleQuoted none v.left ∧
    node' = .scalar .doubleQuoted none v.right

/-- Records that are the same but for the texts of the entries. -/
def Fields (v : Variation) : List (String × Node) → List (String × Node) → Prop :=
  List.Forall₂ fun p q => q.1 = p.1 ∧ v.Held p.1 p.2 q.2

/-- The entries of pairs. -/
def entries? (d : Document) (pairs : List (Node × Node)) : Option (List (String × Node)) :=
  pairs.mapM fun (key, value) => do return (← d.text? key, value)

theorem entries?_cons (d : Document) (key value : Node) (pairs : List (Node × Node)) :
    entries? d ((key, value) :: pairs) =
      (d.text? key).bind fun name => (entries? d pairs).map ((name, value) :: ·) := by
  rw [entries?, List.mapM_cons]
  dsimp only
  cases d.text? key with
  | none => rfl
  | some name =>
    rw [Option.bind_some, Option.map_eq_bind]
    rfl

theorem Documents.entries? (h : v.Documents d e) {pairs pairs' : List (Node × Node)}
    (hpairs : v.Pairs pairs pairs') :
    Option.Rel v.Fields (entries? d pairs) (entries? e pairs') := by
  induction pairs generalizing pairs' with
  | nil =>
    cases hpairs
    exact .some .nil
  | cons pair pairs ih =>
    cases hpairs with
    | @cons key key' value value' pairs pairs' hkey hvalue hrest =>
      rw [entries?_cons, entries?_cons, h.text? hkey]
      exact rel_bind_same fun name => rel_map (ih hrest) fun _ _ hfields =>
        .cons ⟨rfl, .inl hvalue⟩ hfields
    | @entry pairs pairs' hrest =>
      rw [entries?_cons, entries?_cons]
      have hentry : v.Held v.name (.scalar .doubleQuoted none v.left)
          (.scalar .doubleQuoted none v.right) := .inr ⟨rfl, rfl, rfl⟩
      have hmore : Option.Rel v.Fields
          ((Variation.entries? d pairs).map ((v.name, .scalar .doubleQuoted none v.left) :: ·))
          ((Variation.entries? e pairs').map ((v.name, .scalar .doubleQuoted none v.right) :: ·)) :=
        rel_map (ih hrest) fun _ _ hfields => .cons ⟨rfl, hentry⟩ hfields
      exact hmore

theorem Fields.count {fields fields' : List (String × Node)} (h : v.Fields fields fields')
    (name : String) :
    (fields'.filter (·.1 == name)).length = (fields.filter (·.1 == name)).length := by
  induction h with
  | nil => rfl
  | cons hpq _ ih =>
    simp only [List.filter_cons, hpq.1]
    split
    · simp [ih]
    · exact ih

theorem Fields.lookup {fields fields' : List (String × Node)} (h : v.Fields fields fields')
    (name : String) : Option.Rel (v.Held name) (fields.lookup name) (fields'.lookup name) := by
  induction h with
  | nil => exact .none
  | @cons p q fields fields' hpq _ ih =>
    obtain ⟨a, node⟩ := p
    obtain ⟨b, node'⟩ := q
    obtain ⟨rfl, hheld⟩ := hpq
    simp only [List.lookup_cons]
    split
    · rename_i hname
      obtain rfl : name = b := by simpa using hname
      exact .some hheld
    · exact ih

theorem Documents.record? (h : v.Documents d e) (known : List String) (hnode : v.Same node node') :
    Option.Rel v.Fields (d.record? known node) (e.record? known node') := by
  rw [Document.record?, Document.record?]
  refine h.resolved hnode fun hsame => ?_
  cases hsame with
  | scalar style tag text =>
    split
    · simp_all
    · exact .some .nil
    · exact .none
  | mapping hpairs =>
    refine rel_bind (h.entries? hpairs) fun fields fields' hfields => ?_
    simp only [hfields.count]
    split
    · exact .some hfields
    · exact .none
  | _ => exact .none

theorem Documents.rootRecord? (h : v.Documents d e) (known : List String) :
    Option.Rel v.Fields (d.rootRecord? known) (e.rootRecord? known) := by
  rw [Document.rootRecord?, Document.rootRecord?]
  have hroot := h.root
  generalize d.root = root at hroot ⊢
  generalize e.root = root' at hroot ⊢
  cases hroot with
  | none => exact .some .nil
  | some hsame => exact h.record? known hsame

/-! ## Fields -/

variable {fields fields' : List (String × Node)} {name : String} {read? read'? : Node → Option α}

/-- Under another name the records hold alike nodes. -/
theorem Fields.lookup_of_ne (h : v.Fields fields fields') (hname : name ≠ v.name) :
    Option.Rel v.Same (fields.lookup name) (fields'.lookup name) := by
  have hlookup := h.lookup name
  generalize fields.lookup name = found at hlookup ⊢
  generalize fields'.lookup name = found' at hlookup ⊢
  cases hlookup with
  | none => exact .none
  | some hheld => exact .some (hheld.resolve_right fun hentry => hname hentry.1)

theorem Fields.rel_required? {R : α → α → Prop} (h : v.Fields fields fields') (hname : name ≠ v.name)
    (hread : ∀ {node node' : Node}, v.Same node node' → Option.Rel R (read? node) (read'? node')) :
    Option.Rel R (Yaml.required? fields name read?) (Yaml.required? fields' name read'?) :=
  rel_bind (h.lookup_of_ne hname) fun _ _ hsame => hread hsame

/-- A field of another name reads the same. -/
theorem Fields.required? (h : v.Fields fields fields') (hname : name ≠ v.name)
    (hread : v.Agrees read? read'?) :
    Yaml.required? fields' name read'? = Yaml.required? fields name read? := by
  rw [Yaml.required?, Yaml.required?]
  have hlookup := h.lookup_of_ne hname
  generalize fields.lookup name = found at hlookup ⊢
  generalize fields'.lookup name = found' at hlookup ⊢
  cases hlookup with
  | none => rfl
  | some hsame => exact hread hsame

theorem Fields.field? (h : v.Fields fields fields') (hname : name ≠ v.name) (standard : α)
    (hread : v.Agrees read? read'?) :
    Yaml.field? fields' name standard read'? = Yaml.field? fields name standard read? := by
  rw [Yaml.field?, Yaml.field?]
  have hlookup := h.lookup_of_ne hname
  generalize fields.lookup name = found at hlookup ⊢
  generalize fields'.lookup name = found' at hlookup ⊢
  cases hlookup with
  | none => rfl
  | some hsame => exact hread hsame

/-- Two texts that may be absent: the same, or the texts of an entry. -/
def Texts (v : Variation) (text text' : Option String) : Prop :=
  text' = text ∨ text = some v.left ∧ text' = some v.right

/-- A field of the name of the entries reads the same, or as their texts. -/
theorem Fields.optionalText? (h : v.Fields fields fields') (hdocuments : v.Documents d e)
    (name : String) :
    Option.Rel v.Texts (Yaml.field? fields name none (d.optional? d.text?))
      (Yaml.field? fields' name none (e.optional? e.text?)) := by
  rw [Yaml.field?, Yaml.field?]
  have hlookup := h.lookup name
  generalize fields.lookup name = found at hlookup ⊢
  generalize fields'.lookup name = found' at hlookup ⊢
  cases hlookup with
  | none => exact .some (.inl rfl)
  | some hheld =>
    rcases hheld with hsame | ⟨-, rfl, rfl⟩
    · dsimp only
      rw [hdocuments.optional? hdocuments.text? hsame]
      cases d.optional? d.text? _ with
      | none => exact .none
      | some text => exact .some (.inl rfl)
    · exact .some (.inr ⟨rfl, rfl⟩)

/-! ## Texts that follow an entry -/

variable {a b c : String} {p q r : Option String}

theorem Texts.orElse (h : v.Texts p q) (other : Option String) :
    v.Texts (p <|> other) (q <|> other) := by
  rcases h with rfl | ⟨rfl, rfl⟩
  · exact .inl rfl
  · exact .inr ⟨rfl, rfl⟩

/-- A text that follows one change of the entry follows the other changes. -/
theorem Texts.eq_right (hfollows : Texts ⟨name, a, b⟩ p q) (hne : q ≠ p)
    (hp : Texts ⟨name, a, c⟩ p r) (hq : Texts ⟨name, b, c⟩ q r) : a ≠ b ∧ r = some c := by
  rcases hfollows with rfl | ⟨rfl, rfl⟩
  · exact absurd rfl hne
  refine ⟨fun h => hne (congrArg some h.symm), ?_⟩
  rcases hp with rfl | ⟨-, h⟩
  · rcases hq with h | ⟨-, h⟩
    · exact absurd h.symm hne
    · exact h
  · exact h

/-- A text that is the same with two texts of the entry does not follow it. -/
theorem Texts.eq_self (hne : a ≠ b) (hp : Texts ⟨name, a, c⟩ p r) (hq : Texts ⟨name, b, c⟩ p r) :
    r = p := by
  rcases hp with h | ⟨rfl, -⟩
  · exact h
  rcases hq with h | ⟨h, -⟩
  · exact h
  · exact absurd (Option.some.inj h) hne

end Variation

end PowerTelemetry.Yaml
