import PowerTelemetry.Proofs.Yaml.Entries
import PowerTelemetry.Yaml.Node
/-!
# Documents that differ in one text

Tokens that are the same but for the texts of entries of one name are read to documents that are
the same but for these texts.
-/

namespace PowerTelemetry.Yaml

/-- Two texts that entries of a name have. -/
structure Variation where
  name : String
  left : String
  right : String

namespace Variation

variable (v : Variation)

/-- Tokens that are the same but for the texts of the entries. -/
inductive Tokens : List Token → List Token → Prop where
  | nil : Tokens [] []
  | same (t : Token) {ts us : List Token} (h : Tokens ts us) : Tokens (t :: ts) (t :: us)
  | entry {ts us : List Token} (h : Tokens ts us) :
      Tokens (entryTokens v.name v.left ++ ts) (entryTokens v.name v.right ++ us)

/-- The key of the entries. -/
def key : Node :=
  .scalar .plain none v.name

mutual

/-- Nodes that are the same but for the texts of the entries. -/
inductive Same : Node → Node → Prop where
  | scalar (style : Style) (tag : Option String) (text : String) :
      Same (.scalar style tag text) (.scalar style tag text)
  | alias (number : Nat) : Same (.alias number) (.alias number)
  | sequence {items items' : List Node} (h : Items items items') :
      Same (.sequence items) (.sequence items')
  | mapping {pairs pairs' : List (Node × Node)} (h : Pairs pairs pairs') :
      Same (.mapping pairs) (.mapping pairs')

/-- Items that are the same but for the texts of the entries. -/
inductive Items : List Node → List Node → Prop where
  | nil : Items [] []
  | cons {node node' : Node} {items items' : List Node} (h : Same node node')
      (hrest : Items items items') : Items (node :: items) (node' :: items')

/-- Pairs that are the same but for the texts of the entries. -/
inductive Pairs : List (Node × Node) → List (Node × Node) → Prop where
  | nil : Pairs [] []
  | cons {key key' value value' : Node} {pairs pairs' : List (Node × Node)} (hkey : Same key key')
      (hvalue : Same value value') (hrest : Pairs pairs pairs') :
      Pairs ((key, value) :: pairs) ((key', value') :: pairs')
  | entry {pairs pairs' : List (Node × Node)} (hrest : Pairs pairs pairs') :
      Pairs ((v.key, .scalar .doubleQuoted none v.left) :: pairs)
        ((v.key, .scalar .doubleQuoted none v.right) :: pairs')

end

/-- Anchored nodes that are the same but for the texts of the entries. -/
def Anchored : List (Nat × Node) → List (Nat × Node) → Prop :=
  List.Forall₂ fun p q => q.1 = p.1 ∧ v.Same p.2 q.2

/-- Readers at tokens that are the same but for the texts of the entries. -/
inductive Readers : Reader → Reader → Prop where
  | mk {ts us : List Token} {handles : List (String × String)} {names : List (String × Nat)}
      {anchored anchored' : List (Nat × Node)} (tokens : v.Tokens ts us)
      (hanchored : v.Anchored anchored anchored') :
      Readers ⟨ts, handles, names, anchored⟩ ⟨us, handles, names, anchored'⟩

/-- Both readers find nothing, or alike things. -/
abbrev Reads {α : Type} (R : α → α → Prop) : Option (α × Reader) → Option (α × Reader) → Prop :=
  Option.Rel fun p q => R p.1 q.1 ∧ v.Readers p.2 q.2

variable {v} {α β : Type} {R : α → α → Prop} {S : β → β → Prop} {ts us : List Token} {r s : Reader}

theorem rel_bind {α β : Type} {R : α → α → Prop} {S : β → β → Prop} {x y : Option α}
    {f g : α → Option β} (h : Option.Rel R x y) (hfg : ∀ a b, R a b → Option.Rel S (f a) (g b)) :
    Option.Rel S (x.bind f) (y.bind g) := by
  cases h with
  | none => exact .none
  | some hab => exact hfg _ _ hab

theorem rel_map {α β : Type} {R : α → α → Prop} {S : β → β → Prop} {x y : Option α} {f g : α → β}
    (h : Option.Rel R x y) (hfg : ∀ a b, R a b → S (f a) (g b)) :
    Option.Rel S (x.map f) (y.map g) := by
  cases h with
  | none => exact .none
  | some hab => exact .some (hfg _ _ hab)

theorem rel_map_same {α β : Type} {S : β → β → Prop} {x : Option α} {f g : α → β}
    (hfg : ∀ a, S (f a) (g a)) : Option.Rel S (x.map f) (x.map g) := by
  cases x with
  | none => exact .none
  | some a => exact .some (hfg a)

theorem rel_bind_same {α β : Type} {S : β → β → Prop} {x : Option α} {f g : α → Option β}
    (hfg : ∀ a, Option.Rel S (f a) (g a)) : Option.Rel S (x.bind f) (x.bind g) := by
  cases x with
  | none => exact .none
  | some a => exact hfg a

theorem rel_bind_eq {α β : Type} {S : β → β → Prop} {x y : Option α} {f g : α → Option β}
    (hxy : y = x) (hfg : ∀ a, Option.Rel S (f a) (g a)) :
    Option.Rel S (x.bind f) (y.bind g) := by
  subst hxy
  exact rel_bind_same hfg

theorem eq_of_rel {α : Type} {x y : Option α} (h : Option.Rel Eq x y) : y = x := by
  cases h with
  | none => rfl
  | some heq => rw [heq]

/-! ## What the next token says -/

theorem Tokens.length_eq (h : v.Tokens ts us) : us.length = ts.length := by
  induction h with
  | nil => rfl
  | same t _ ih => simp [ih]
  | entry _ ih => simp [entryTokens, ih]

theorem Tokens.head? (h : v.Tokens ts us) : us.head? = ts.head? := by
  cases h <;> rfl

theorem Tokens.endsPart (h : v.Tokens ts us) : Reader.endsPart us = Reader.endsPart ts := by
  cases h with
  | same t _ => cases t <;> rfl
  | _ => rfl

theorem Tokens.endsItem (h : v.Tokens ts us) : Reader.endsItem us = Reader.endsItem ts := by
  cases h with
  | same t _ => cases t <;> rfl
  | _ => rfl

theorem Tokens.endsFlowPart (h : v.Tokens ts us) :
    Reader.endsFlowPart us = Reader.endsFlowPart ts := by
  cases h with
  | same t _ => cases t <;> rfl
  | _ => rfl

theorem Tokens.endsFlowItem (h : v.Tokens ts us) :
    Reader.endsFlowItem us = Reader.endsFlowItem ts := by
  cases h with
  | same t _ => cases t <;> rfl
  | _ => rfl

theorem Tokens.atValue (h : v.Tokens ts us) : Reader.atValue us = Reader.atValue ts := by
  cases h with
  | same t _ => cases t <;> rfl
  | _ => rfl

/-! ## Properties -/

theorem Readers.keep (h : v.Readers r s) (properties : Properties) {node node' : Node}
    (hnode : v.Same node node') :
    v.Same (r.keep properties node).1 (s.keep properties node').1 ∧
      v.Readers (r.keep properties node).2 (s.keep properties node').2 := by
  rw [Reader.keep, Reader.keep]
  cases properties.anchor with
  | none => exact ⟨hnode, h⟩
  | some number =>
    obtain ⟨htokens, hanchored⟩ := h
    exact ⟨hnode, htokens, .cons ⟨rfl, hnode⟩ hanchored⟩

/-- The properties in front are the same. -/
theorem Readers.properties? (h : v.Readers r s) : v.Reads Eq r.properties? s.properties? := by
  obtain ⟨htokens, hanchored⟩ := h
  cases htokens with
  | nil => exact .some ⟨rfl, .nil, hanchored⟩
  | entry h => exact .some ⟨rfl, .entry h, hanchored⟩
  | @same t ts us h =>
    cases t with
    | anchor name =>
      cases h with
      | nil => exact .some ⟨rfl, .nil, hanchored⟩
      | entry h => exact .some ⟨rfl, .entry h, hanchored⟩
      | @same t ts us h =>
        cases t with
        | tag handle suffix => exact rel_bind_same fun tag => .some ⟨rfl, h, hanchored⟩
        | _ => exact .some ⟨rfl, .same _ h, hanchored⟩
    | tag handle suffix =>
      cases h with
      | nil => exact rel_bind_same fun tag => .some ⟨rfl, .nil, hanchored⟩
      | entry h => exact rel_bind_same fun tag => .some ⟨rfl, .entry h, hanchored⟩
      | @same t ts us h =>
        cases t with
        | anchor name => exact rel_bind_same fun tag => .some ⟨rfl, h, hanchored⟩
        | _ => exact rel_bind_same fun tag => .some ⟨rfl, .same _ h, hanchored⟩
    | _ => exact .some ⟨rfl, .same _ h, hanchored⟩

section Scalar

variable (fuel : Nat) (inBlock unindented : Bool) (style : Style) (text : String) (more : List Token)
  (handles : List (String × String)) (names : List (String × Nat)) (anchored : List (Nat × Node))

/-- A scalar in front is taken. -/
theorem node?_scalar :
    Reader.node? (fuel + 1) inBlock unindented ⟨.scalar style text :: more, handles, names, anchored⟩ =
      some (.scalar style none text, ⟨more, handles, names, anchored⟩) := by
  simp [Reader.node?, Reader.properties?, Reader.next, Reader.keep, Reader.scalarTag]

theorem part?_scalar :
    Reader.part? (fuel + 2) inBlock unindented false
        ⟨.scalar style text :: more, handles, names, anchored⟩ =
      some (.scalar style none text, ⟨more, handles, names, anchored⟩) :=
  node?_scalar fuel inBlock unindented style text more handles names anchored

theorem blockValue?_scalar :
    Reader.blockValue? (fuel + 3) ⟨.value :: .scalar style text :: more, handles, names, anchored⟩ =
      some (.scalar style none text, ⟨more, handles, names, anchored⟩) :=
  part?_scalar fuel true true style text more handles names anchored

theorem flowValue?_scalar :
    Reader.flowValue? (fuel + 3) ⟨.value :: .scalar style text :: more, handles, names, anchored⟩ =
      some (.scalar style none text, ⟨more, handles, names, anchored⟩) :=
  part?_scalar fuel false false style text more handles names anchored

/-- The key and the value of a pair, and the pairs behind it. -/
theorem blockPairs?_key :
    Reader.blockPairs? (fuel + 1) ⟨.key :: more, handles, names, anchored⟩ =
      (Reader.part? fuel true true (Reader.endsPart more) ⟨more, handles, names, anchored⟩).bind
        fun p => (Reader.blockValue? fuel p.2).bind fun q =>
          (Reader.blockPairs? fuel q.2).map fun pairs => ((p.1, q.1) :: pairs.1, pairs.2) := by
  simp only [Option.map_eq_bind]
  rfl

/-- An entry in front is taken, if there are enough steps. -/
theorem blockPairs?_entry (name : String) :
    Reader.blockPairs? (fuel + 1) ⟨entryTokens name text ++ more, handles, names, anchored⟩ =
      if fuel < 3 then none
      else (Reader.blockPairs? fuel ⟨more, handles, names, anchored⟩).map fun p =>
        ((.scalar .plain none name, .scalar .doubleQuoted none text) :: p.1, p.2) := by
  match fuel with
  | 0 => rfl
  | 1 => rfl
  | 2 => rfl
  | fuel + 3 =>
    simp only [entryTokens, List.cons_append, List.nil_append, blockPairs?_key, Reader.endsPart]
    rw [part?_scalar, Option.bind_some, blockValue?_scalar, Option.bind_some, if_neg (by omega)]

/-- An entry without its key is a pair between brackets. -/
theorem flowPairItem?_entry (name : String) :
    Reader.flowPairItem? (fuel + 1)
        ⟨(entryTokens name text).tail ++ more, handles, names, anchored⟩ =
      if fuel < 2 then none
      else some (.mapping [(.scalar .plain none name, .scalar .doubleQuoted none text)],
        ⟨more, handles, names, anchored⟩) := by
  match fuel with
  | 0 => rfl
  | 1 => rfl
  | fuel + 2 =>
    rw [if_neg (by omega)]
    simp only [entryTokens, List.tail_cons, List.cons_append, List.nil_append,
      Reader.flowPairItem?, Reader.atValue, Reader.endsFlowItem, Bool.or_self, Bool.false_eq_true,
      if_false, node?_scalar, Option.bind_eq_bind, Option.bind_some, Reader.next, List.drop_one]
    rw [part?_scalar]
    rfl

end Scalar

/-! ## All readers -/

/-- What readers find with so many steps. -/
structure Alike (v : Variation) (fuel : Nat) : Prop where
  node : ∀ {inBlock unindented : Bool} {r s : Reader}, v.Readers r s →
    v.Reads v.Same (r.node? fuel inBlock unindented) (s.node? fuel inBlock unindented)
  part : ∀ {inBlock unindented ended : Bool} {r s : Reader}, v.Readers r s →
    v.Reads v.Same (r.part? fuel inBlock unindented ended) (s.part? fuel inBlock unindented ended)
  blockItems : ∀ {r s : Reader}, v.Readers r s →
    v.Reads v.Items (r.blockItems? fuel) (s.blockItems? fuel)
  unindentedItems : ∀ {r s : Reader}, v.Readers r s →
    v.Reads v.Items (r.unindentedItems? fuel) (s.unindentedItems? fuel)
  blockPairs : ∀ {r s : Reader}, v.Readers r s →
    v.Reads v.Pairs (r.blockPairs? fuel) (s.blockPairs? fuel)
  blockValue : ∀ {r s : Reader}, v.Readers r s →
    v.Reads v.Same (r.blockValue? fuel) (s.blockValue? fuel)
  flowItems : ∀ {first : Bool} {r s : Reader}, v.Readers r s →
    v.Reads v.Items (r.flowItems? fuel first) (s.flowItems? fuel first)
  flowPairItem : ∀ {r s : Reader}, v.Readers r s →
    v.Reads v.Same (r.flowPairItem? fuel) (s.flowPairItem? fuel)
  flowPairs : ∀ {first : Bool} {r s : Reader}, v.Readers r s →
    v.Reads v.Pairs (r.flowPairs? fuel first) (s.flowPairs? fuel first)
  flowValue : ∀ {r s : Reader}, v.Readers r s →
    v.Reads v.Same (r.flowValue? fuel) (s.flowValue? fuel)

variable {fuel : Nat}

theorem Alike.blockItems_succ (h : v.Alike fuel) (hr : v.Readers r s) :
    v.Reads v.Items (r.blockItems? (fuel + 1)) (s.blockItems? (fuel + 1)) := by
  obtain ⟨htokens, hanchored⟩ := hr
  cases htokens with
  | nil => exact .none
  | entry _ => exact .none
  | @same t ts us htokens =>
    cases t with
    | blockEntry =>
      simp only [Reader.blockItems?, htokens.endsItem, Option.bind_eq_bind]
      refine rel_bind (h.part ⟨htokens, hanchored⟩) fun p q hpq => ?_
      refine rel_bind (h.blockItems hpq.2) fun p' q' hpq' => ?_
      exact .some ⟨.cons hpq.1 hpq'.1, hpq'.2⟩
    | blockEnd => exact .some ⟨.nil, htokens, hanchored⟩
    | _ => exact .none

theorem Alike.unindentedItems_succ (h : v.Alike fuel) (hr : v.Readers r s) :
    v.Reads v.Items (r.unindentedItems? (fuel + 1)) (s.unindentedItems? (fuel + 1)) := by
  obtain ⟨htokens, hanchored⟩ := hr
  cases htokens with
  | nil => exact .some ⟨.nil, .nil, hanchored⟩
  | entry htokens => exact .some ⟨.nil, .entry htokens, hanchored⟩
  | @same t ts us htokens =>
    cases t with
    | blockEntry =>
      simp only [Reader.unindentedItems?, htokens.endsItem, htokens.endsPart, Option.bind_eq_bind]
      refine rel_bind (h.part ⟨htokens, hanchored⟩) fun p q hpq => ?_
      refine rel_bind (h.unindentedItems hpq.2) fun p' q' hpq' => ?_
      exact .some ⟨.cons hpq.1 hpq'.1, hpq'.2⟩
    | _ => exact .some ⟨.nil, .same _ htokens, hanchored⟩

theorem Alike.part_succ {inBlock unindented ended : Bool} (h : v.Alike fuel) (hr : v.Readers r s) :
    v.Reads v.Same (r.part? (fuel + 1) inBlock unindented ended)
      (s.part? (fuel + 1) inBlock unindented ended) := by
  cases ended with
  | true => exact .some ⟨.scalar _ _ _, hr⟩
  | false => exact h.node hr

theorem Alike.blockValue_succ (h : v.Alike fuel) (hr : v.Readers r s) :
    v.Reads v.Same (r.blockValue? (fuel + 1)) (s.blockValue? (fuel + 1)) := by
  obtain ⟨htokens, hanchored⟩ := hr
  cases htokens with
  | nil => exact .some ⟨.scalar _ _ _, .nil, hanchored⟩
  | entry htokens => exact .some ⟨.scalar _ _ _, .entry htokens, hanchored⟩
  | @same t ts us htokens =>
    cases t with
    | value =>
      simp only [Reader.blockValue?, htokens.endsPart]
      exact h.part ⟨htokens, hanchored⟩
    | _ => exact .some ⟨.scalar _ _ _, .same _ htokens, hanchored⟩

theorem Alike.flowValue_succ (h : v.Alike fuel) (hr : v.Readers r s) :
    v.Reads v.Same (r.flowValue? (fuel + 1)) (s.flowValue? (fuel + 1)) := by
  obtain ⟨htokens, hanchored⟩ := hr
  cases htokens with
  | nil => exact .some ⟨.scalar _ _ _, .nil, hanchored⟩
  | entry htokens => exact .some ⟨.scalar _ _ _, .entry htokens, hanchored⟩
  | @same t ts us htokens =>
    cases t with
    | value =>
      simp only [Reader.flowValue?, htokens.endsFlowPart]
      exact h.part ⟨htokens, hanchored⟩
    | _ => exact .some ⟨.scalar _ _ _, .same _ htokens, hanchored⟩

theorem Alike.blockPairs_succ (h : v.Alike fuel) (hr : v.Readers r s) :
    v.Reads v.Pairs (r.blockPairs? (fuel + 1)) (s.blockPairs? (fuel + 1)) := by
  obtain ⟨htokens, hanchored⟩ := hr
  cases htokens with
  | nil => exact .none
  | @entry ts us htokens =>
    simp only [blockPairs?_entry]
    split
    · exact .none
    · exact rel_map (h.blockPairs ⟨htokens, hanchored⟩) fun p q hpq => ⟨.entry hpq.1, hpq.2⟩
  | @same t ts us htokens =>
    cases t with
    | key =>
      simp only [Reader.blockPairs?, htokens.endsPart, Option.bind_eq_bind]
      refine rel_bind (h.part ⟨htokens, hanchored⟩) fun p q hpq => ?_
      refine rel_bind (h.blockValue hpq.2) fun p' q' hpq' => ?_
      refine rel_bind (h.blockPairs hpq'.2) fun p'' q'' hpq'' => ?_
      exact .some ⟨.cons hpq.1 hpq'.1 hpq''.1, hpq''.2⟩
    | blockEnd => exact .some ⟨.nil, htokens, hanchored⟩
    | _ => exact .none

theorem Readers.nextPart? (first : Bool) (hr : v.Readers r s) :
    Option.Rel v.Readers (Reader.nextPart? first r) (Reader.nextPart? first s) := by
  cases first with
  | true => exact .some hr
  | false =>
    obtain ⟨htokens, hanchored⟩ := hr
    cases htokens with
    | nil => exact .none
    | entry _ => exact .none
    | @same t ts us htokens =>
      cases t with
      | flowEntry => exact .some ⟨htokens, hanchored⟩
      | _ => exact .none

/-- The value of a single pair, after its key. -/
def flowPairValue? (fuel : Nat) (key : Node) (r : Reader) : Option (Node × Reader) :=
  match r.tokens with
  | .value :: rest => do
    let (value, r) ← Reader.part? fuel false false (Reader.endsFlowItem rest) r.next
    return (.mapping [(key, value)], r)
  | _ => return (.mapping [(key, .missing)], r)

theorem flowPairItem?_succ (fuel : Nat) (r : Reader) :
    Reader.flowPairItem? (fuel + 1) r =
      if Reader.atValue r.tokens || Reader.endsFlowItem r.tokens then
        flowPairValue? fuel .missing r.next
      else (Reader.node? fuel false false r).bind fun p => flowPairValue? fuel p.1 p.2 := by
  rw [Reader.flowPairItem?]
  rfl

theorem Alike.flowPairValue (h : v.Alike fuel) {key key' : Node} (hkey : v.Same key key')
    (hr : v.Readers r s) :
    v.Reads v.Same (flowPairValue? fuel key r) (flowPairValue? fuel key' s) := by
  obtain ⟨htokens, hanchored⟩ := hr
  have hmissing : v.Same (.mapping [(key, .missing)]) (.mapping [(key', .missing)]) :=
    .mapping (.cons hkey (.scalar _ _ _) .nil)
  cases htokens with
  | nil => exact .some ⟨hmissing, .nil, hanchored⟩
  | entry htokens => exact .some ⟨hmissing, .entry htokens, hanchored⟩
  | @same t ts us htokens =>
    cases t with
    | value =>
      simp only [flowPairValue?, htokens.endsFlowItem]
      exact rel_bind (h.part ⟨htokens, hanchored⟩) fun p q hpq =>
        .some ⟨.mapping (.cons hkey hpq.1 .nil), hpq.2⟩
    | _ => exact .some ⟨hmissing, .same _ htokens, hanchored⟩

theorem Alike.flowPairItem_succ (h : v.Alike fuel) (hr : v.Readers r s) :
    v.Reads v.Same (r.flowPairItem? (fuel + 1)) (s.flowPairItem? (fuel + 1)) := by
  rw [flowPairItem?_succ, flowPairItem?_succ]
  have hkey : v.Reads v.Same (Reader.node? fuel false false r) (Reader.node? fuel false false s) :=
    h.node hr
  have hnode := rel_bind hkey fun p q hpq => h.flowPairValue hpq.1 hpq.2
  obtain ⟨htokens, hanchored⟩ := hr
  cases htokens with
  | nil => exact hnode
  | entry _ => exact hnode
  | @same t ts us htokens =>
    cases t with
    | value => exact h.flowPairValue (.scalar _ _ _) ⟨htokens, hanchored⟩
    | flowEntry => exact h.flowPairValue (.scalar _ _ _) ⟨htokens, hanchored⟩
    | flowSequenceEnd => exact h.flowPairValue (.scalar _ _ _) ⟨htokens, hanchored⟩
    | _ => exact hnode

/-- The items from the next one on. -/
def flowItemsFrom? (fuel : Nat) (r : Reader) : Option (List Node × Reader) :=
  match r.tokens with
  | .flowSequenceEnd :: _ => return ([], r.next)
  | .key :: _ => do
    let (item, r) ← Reader.flowPairItem? fuel r.next
    let (items, r) ← Reader.flowItems? fuel false r
    return (item :: items, r)
  | _ => do
    let (item, r) ← Reader.node? fuel false false r
    let (items, r) ← Reader.flowItems? fuel false r
    return (item :: items, r)

theorem flowItems?_succ (fuel : Nat) (first : Bool) (r : Reader) :
    Reader.flowItems? (fuel + 1) first r =
      match r.tokens with
      | .flowSequenceEnd :: _ => some ([], r.next)
      | _ => (Reader.nextPart? first r).bind (flowItemsFrom? fuel) := by
  rw [Reader.flowItems?]
  rfl

/-- An entry between brackets is a pair with one text or the other. -/
theorem Tokens.flowPairItem? (htokens : v.Tokens ts us) {handles : List (String × String)}
    {names : List (String × Nat)} {anchored anchored' : List (Nat × Node)}
    (hanchored : v.Anchored anchored anchored') (fuel : Nat) :
    v.Reads v.Same
      (Reader.flowPairItem? fuel
        ⟨(entryTokens v.name v.left).tail ++ ts, handles, names, anchored⟩)
      (Reader.flowPairItem? fuel
        ⟨(entryTokens v.name v.right).tail ++ us, handles, names, anchored'⟩) := by
  cases fuel with
  | zero => exact .none
  | succ fuel =>
    rw [flowPairItem?_entry, flowPairItem?_entry]
    split
    · exact .none
    · exact .some ⟨.mapping (.entry .nil), htokens, hanchored⟩

theorem Alike.flowItemsFrom (h : v.Alike fuel) (hr : v.Readers r s) :
    v.Reads v.Items (flowItemsFrom? fuel r) (flowItemsFrom? fuel s) := by
  have hitems {x y : Option (Node × Reader)} (hxy : v.Reads v.Same x y) :
      v.Reads v.Items
        (do
          let (item, r) ← x
          let (items, r) ← Reader.flowItems? fuel false r
          return (item :: items, r))
        (do
          let (item, r) ← y
          let (items, r) ← Reader.flowItems? fuel false r
          return (item :: items, r)) :=
    rel_bind hxy fun p q hpq => rel_bind (h.flowItems hpq.2) fun p' q' hpq' =>
      .some ⟨.cons hpq.1 hpq'.1, hpq'.2⟩
  have hitem : v.Reads v.Same (Reader.node? fuel false false r) (Reader.node? fuel false false s) :=
    h.node hr
  have hnode := hitems hitem
  obtain ⟨htokens, hanchored⟩ := hr
  cases htokens with
  | nil => exact hnode
  | entry htokens => exact hitems (htokens.flowPairItem? hanchored fuel)
  | @same t ts us htokens =>
    cases t with
    | flowSequenceEnd => exact .some ⟨.nil, htokens, hanchored⟩
    | key => exact hitems (h.flowPairItem ⟨htokens, hanchored⟩)
    | _ => exact hnode

theorem Alike.flowItems_succ {first : Bool} (h : v.Alike fuel) (hr : v.Readers r s) :
    v.Reads v.Items (r.flowItems? (fuel + 1) first) (s.flowItems? (fuel + 1) first) := by
  rw [flowItems?_succ, flowItems?_succ]
  have hfrom := rel_bind (hr.nextPart? first) fun p q hpq => h.flowItemsFrom hpq
  obtain ⟨htokens, hanchored⟩ := hr
  cases htokens with
  | nil => exact hfrom
  | entry _ => exact hfrom
  | @same t ts us htokens =>
    cases t with
    | flowSequenceEnd => exact .some ⟨.nil, htokens, hanchored⟩
    | _ => exact hfrom

/-- The pairs from the next one on. -/
def flowPairsFrom? (fuel : Nat) (r : Reader) : Option (List (Node × Node) × Reader) :=
  match r.tokens with
  | .flowMappingEnd :: _ => return ([], r.next)
  | .key :: rest => do
    let (key, r) ← Reader.part? fuel false false (Reader.atValue rest || Reader.endsFlowPart rest) r.next
    let (value, r) ← Reader.flowValue? fuel r
    let (pairs, r) ← Reader.flowPairs? fuel false r
    return ((key, value) :: pairs, r)
  | _ => do
    let (key, r) ← Reader.node? fuel false false r
    let (pairs, r) ← Reader.flowPairs? fuel false r
    return ((key, .missing) :: pairs, r)

theorem flowPairs?_succ (fuel : Nat) (first : Bool) (r : Reader) :
    Reader.flowPairs? (fuel + 1) first r =
      match r.tokens with
      | .flowMappingEnd :: _ => some ([], r.next)
      | _ => (Reader.nextPart? first r).bind (flowPairsFrom? fuel) := by
  rw [Reader.flowPairs?]
  rfl

/-- An entry between braces is taken, if there are enough steps. -/
theorem flowPairsFrom?_entry (fuel : Nat) (name text : String) (more : List Token)
    (handles : List (String × String)) (names : List (String × Nat)) (anchored : List (Nat × Node)) :
    flowPairsFrom? fuel ⟨entryTokens name text ++ more, handles, names, anchored⟩ =
      if fuel < 3 then none
      else (Reader.flowPairs? fuel false ⟨more, handles, names, anchored⟩).map fun p =>
        ((.scalar .plain none name, .scalar .doubleQuoted none text) :: p.1, p.2) := by
  match fuel with
  | 0 => rfl
  | 1 => rfl
  | 2 => rfl
  | fuel + 3 =>
    rw [if_neg (by omega), Option.map_eq_bind]
    simp only [flowPairsFrom?, entryTokens, List.cons_append, List.nil_append, Reader.atValue,
      Reader.endsFlowPart, Bool.or_self, Reader.next, List.drop_one, List.tail_cons, part?_scalar,
      flowValue?_scalar, Option.bind_eq_bind, Option.bind_some]
    rfl

theorem Alike.flowPairsFrom (h : v.Alike fuel) (hr : v.Readers r s) :
    v.Reads v.Pairs (flowPairsFrom? fuel r) (flowPairsFrom? fuel s) := by
  have hnode :
      v.Reads v.Pairs
        (do
          let (key, r) ← Reader.node? fuel false false r
          let (pairs, r) ← Reader.flowPairs? fuel false r
          return ((key, .missing) :: pairs, r))
        (do
          let (key, r) ← Reader.node? fuel false false s
          let (pairs, r) ← Reader.flowPairs? fuel false r
          return ((key, .missing) :: pairs, r)) :=
    rel_bind (h.node hr) fun p q hpq => rel_bind (h.flowPairs hpq.2) fun p' q' hpq' =>
      .some ⟨.cons hpq.1 (.scalar _ _ _) hpq'.1, hpq'.2⟩
  obtain ⟨htokens, hanchored⟩ := hr
  cases htokens with
  | nil => exact hnode
  | entry htokens =>
    rw [flowPairsFrom?_entry, flowPairsFrom?_entry]
    split
    · exact .none
    · exact rel_map (h.flowPairs ⟨htokens, hanchored⟩) fun p q hpq => ⟨.entry hpq.1, hpq.2⟩
  | @same t ts us htokens =>
    cases t with
    | flowMappingEnd => exact .some ⟨.nil, htokens, hanchored⟩
    | key =>
      simp only [flowPairsFrom?, htokens.atValue, htokens.endsFlowPart, Option.bind_eq_bind]
      refine rel_bind (h.part ⟨htokens, hanchored⟩) fun p q hpq => ?_
      refine rel_bind (h.flowValue hpq.2) fun p' q' hpq' => ?_
      refine rel_bind (h.flowPairs hpq'.2) fun p'' q'' hpq'' => ?_
      exact .some ⟨.cons hpq.1 hpq'.1 hpq''.1, hpq''.2⟩
    | _ => exact hnode

theorem Alike.flowPairs_succ {first : Bool} (h : v.Alike fuel) (hr : v.Readers r s) :
    v.Reads v.Pairs (r.flowPairs? (fuel + 1) first) (s.flowPairs? (fuel + 1) first) := by
  rw [flowPairs?_succ, flowPairs?_succ]
  have hfrom := rel_bind (hr.nextPart? first) fun p q hpq => h.flowPairsFrom hpq
  obtain ⟨htokens, hanchored⟩ := hr
  cases htokens with
  | nil => exact hfrom
  | entry _ => exact hfrom
  | @same t ts us htokens =>
    cases t with
    | flowMappingEnd => exact .some ⟨.nil, htokens, hanchored⟩
    | _ => exact hfrom

/-- The block that the first of some tokens starts, or an empty scalar with properties. -/
def block? (fuel : Nat) (inBlock unindented : Bool) (properties : Properties) (ts : List Token)
    (r : Reader) : Option (Node × Reader) :=
  if unindented && ts.head? == some .blockEntry then do
    let (items, r) ← Reader.unindentedItems? fuel r
    return r.keep properties (.sequence items)
  else if inBlock && ts.head? == some .blockSequenceStart then do
    let (items, r) ← Reader.blockItems? fuel r.next
    return r.keep properties (.sequence items)
  else if inBlock && ts.head? == some .blockMappingStart then do
    let (pairs, r) ← Reader.blockPairs? fuel r.next
    return r.keep properties (.mapping pairs)
  else if properties.anchor.isSome || properties.tag.isSome then
    return r.keep properties (.scalar .plain properties.tag "")
  else none

/-- The node that the next token starts, after its properties. -/
def bare? (fuel : Nat) (inBlock unindented : Bool) (properties : Properties) (r : Reader) :
    Option (Node × Reader) :=
  match r.tokens with
  | .scalar style text :: _ =>
    return r.next.keep properties (.scalar style (Reader.scalarTag properties) text)
  | .flowSequenceStart :: _ => do
    let (items, r) ← Reader.flowItems? fuel true r.next
    return r.keep properties (.sequence items)
  | .flowMappingStart :: _ => do
    let (pairs, r) ← Reader.flowPairs? fuel true r.next
    return r.keep properties (.mapping pairs)
  | ts => block? fuel inBlock unindented properties ts r

theorem node?_succ (fuel : Nat) (inBlock unindented : Bool) (r : Reader) :
    Reader.node? (fuel + 1) inBlock unindented r =
      match r.tokens with
      | .alias name :: _ => (r.names.lookup name).map fun number => (.alias number, r.next)
      | _ => r.properties?.bind fun p => bare? fuel inBlock unindented p.1 p.2 := by
  rw [Reader.node?]
  rfl

theorem Readers.next {t : Token} (hr : v.Readers r s) (hhead : r.tokens.head? = some t)
    (ht : t ≠ .key) : v.Readers r.next s.next := by
  obtain ⟨htokens, hanchored⟩ := hr
  cases htokens with
  | nil => cases hhead
  | entry _ => exact absurd (Option.some.inj hhead).symm ht
  | same t htokens => exact ⟨htokens, hanchored⟩

theorem Readers.head? (hr : v.Readers r s) : s.tokens.head? = r.tokens.head? := by
  obtain ⟨htokens, -⟩ := hr
  exact htokens.head?

/-- Items are kept as a sequence. -/
theorem rel_sequence {x y : Option (List Node × Reader)} (properties : Properties)
    (h : v.Reads v.Items x y) :
    v.Reads v.Same (x.bind fun p => some (p.2.keep properties (.sequence p.1)))
      (y.bind fun p => some (p.2.keep properties (.sequence p.1))) :=
  rel_bind h fun _ _ hpq => .some (hpq.2.keep properties (.sequence hpq.1))

/-- Pairs are kept as a mapping. -/
theorem rel_mapping {x y : Option (List (Node × Node) × Reader)} (properties : Properties)
    (h : v.Reads v.Pairs x y) :
    v.Reads v.Same (x.bind fun p => some (p.2.keep properties (.mapping p.1)))
      (y.bind fun p => some (p.2.keep properties (.mapping p.1))) :=
  rel_bind h fun _ _ hpq => .some (hpq.2.keep properties (.mapping hpq.1))

theorem Alike.block (h : v.Alike fuel) {inBlock unindented : Bool} (properties : Properties)
    (hr : v.Readers r s) :
    v.Reads v.Same (block? fuel inBlock unindented properties r.tokens r)
      (block? fuel inBlock unindented properties s.tokens s) := by
  rw [block?, block?, hr.head?]
  split
  · exact rel_sequence properties (h.unindentedItems hr)
  split
  · rename_i hstart
    have hhead : r.tokens.head? = some .blockSequenceStart := by
      simp only [Bool.and_eq_true, beq_iff_eq] at hstart
      exact hstart.2
    exact rel_sequence properties (h.blockItems (hr.next hhead (by simp)))
  split
  · rename_i hstart
    have hhead : r.tokens.head? = some .blockMappingStart := by
      simp only [Bool.and_eq_true, beq_iff_eq] at hstart
      exact hstart.2
    exact rel_mapping properties (h.blockPairs (hr.next hhead (by simp)))
  split
  · exact .some (hr.keep properties (.scalar _ _ _))
  · exact .none

theorem Alike.bare (h : v.Alike fuel) {inBlock unindented : Bool} (properties : Properties)
    (hr : v.Readers r s) :
    v.Reads v.Same (bare? fuel inBlock unindented properties r)
      (bare? fuel inBlock unindented properties s) := by
  have hblock : v.Reads v.Same (block? fuel inBlock unindented properties r.tokens r)
      (block? fuel inBlock unindented properties s.tokens s) := h.block properties hr
  obtain ⟨htokens, hanchored⟩ := hr
  cases htokens with
  | nil => exact hblock
  | entry _ => exact hblock
  | @same t ts us htokens =>
    cases t with
    | scalar style text =>
      exact .some (Readers.keep ⟨htokens, hanchored⟩ properties (.scalar _ _ _))
    | flowSequenceStart => exact rel_sequence properties (h.flowItems ⟨htokens, hanchored⟩)
    | flowMappingStart => exact rel_mapping properties (h.flowPairs ⟨htokens, hanchored⟩)
    | _ => exact hblock

theorem Alike.node_succ {inBlock unindented : Bool} (h : v.Alike fuel) (hr : v.Readers r s) :
    v.Reads v.Same (r.node? (fuel + 1) inBlock unindented)
      (s.node? (fuel + 1) inBlock unindented) := by
  rw [node?_succ, node?_succ]
  have hbare :
      v.Reads v.Same (r.properties?.bind fun p => bare? fuel inBlock unindented p.1 p.2)
        (s.properties?.bind fun p => bare? fuel inBlock unindented p.1 p.2) :=
    rel_bind hr.properties? fun p q hpq => hpq.1 ▸ h.bare p.1 hpq.2
  obtain ⟨htokens, hanchored⟩ := hr
  cases htokens with
  | nil => exact hbare
  | entry _ => exact hbare
  | @same t ts us htokens =>
    cases t with
    | «alias» name => exact rel_map_same fun _ => ⟨.alias _, htokens, hanchored⟩
    | _ => exact hbare

theorem alike (v : Variation) (fuel : Nat) : v.Alike fuel := by
  induction fuel with
  | zero => constructor <;> intros <;> exact .none
  | succ fuel ih =>
    exact ⟨ih.node_succ, ih.part_succ, ih.blockItems_succ, ih.unindentedItems_succ,
      ih.blockPairs_succ, ih.blockValue_succ, ih.flowItems_succ, ih.flowPairItem_succ,
      ih.flowPairs_succ, ih.flowValue_succ⟩

/-! ## Documents -/

/-- Documents that are the same but for the texts of the entries. -/
structure Documents (v : Variation) (d e : Document) : Prop where
  root : Option.Rel v.Same d.root e.root
  anchored : v.Anchored d.anchored e.anchored

theorem Tokens.onlyEnds (h : v.Tokens ts us) : onlyEnds us = onlyEnds ts := by
  induction h with
  | nil => rfl
  | same t _ ih => exact congrArg (_ && ·) ih
  | entry _ _ => rfl

theorem Tokens.endsContent (h : v.Tokens ts us) : endsContent us = endsContent ts := by
  cases h with
  | same t _ => cases t <;> rfl
  | _ => rfl

theorem Readers.content? (hr : v.Readers r s) :
    Option.Rel v.Documents (content? r) (content? s) := by
  have htokens : v.Tokens r.tokens s.tokens := by
    obtain ⟨htokens, -⟩ := hr
    exact htokens
  rw [Yaml.content?, Yaml.content?, htokens.length_eq]
  refine rel_bind ((alike v _).node hr) fun p q ⟨hnode, hrest⟩ => ?_
  obtain ⟨node, r⟩ := p
  obtain ⟨node', s⟩ := q
  obtain ⟨htokens, hanchored⟩ := hrest
  dsimp only
  rw [htokens.onlyEnds]
  split
  · exact .some ⟨.some hnode, hanchored⟩
  · exact .none

theorem Tokens.directives? (h : v.Tokens ts us) (versioned : Bool)
    (handles : List (String × String)) :
    Option.Rel (fun p q => q.1 = p.1 ∧ v.Tokens p.2 q.2) (directives? versioned handles ts)
      (directives? versioned handles us) := by
  induction h generalizing versioned handles with
  | nil => exact .some ⟨rfl, .nil⟩
  | entry h _ => exact .some ⟨rfl, .entry h⟩
  | same t h ih =>
    cases t with
    | version major minor =>
      simp only [Yaml.directives?]
      split
      · exact .none
      · exact ih _ _
    | tagHandle handle expansion =>
      simp only [Yaml.directives?]
      split
      · exact .none
      · exact ih _ _
    | _ => exact .some ⟨rfl, .same _ h⟩

theorem Tokens.explicit? (h : v.Tokens ts us) :
    Option.Rel v.Documents (Document.ofTokens?.explicit? ts) (Document.ofTokens?.explicit? us) := by
  refine rel_bind (h.directives? false []) fun p q ⟨hhandles, hrest⟩ => ?_
  obtain ⟨handles, ts⟩ := p
  obtain ⟨handles', us⟩ := q
  dsimp only at hhandles hrest ⊢
  subst hhandles
  cases hrest with
  | nil => exact .none
  | entry _ => exact .none
  | @same t ts us htokens =>
    cases t with
    | documentStart =>
      simp only [htokens.endsContent, htokens.onlyEnds]
      split
      · split
        · exact .some ⟨.some (.scalar _ _ _), .nil⟩
        · exact .none
      · exact Readers.content? ⟨htokens, .nil⟩
    | _ => exact .none

/-- Tokens that are the same but for the texts of some entries are read to such documents. -/
theorem Tokens.ofTokens? (h : v.Tokens ts us) :
    Option.Rel v.Documents (Document.ofTokens? ts) (Document.ofTokens? us) := by
  have hexplicit := h.explicit?
  have hcontent : Option.Rel v.Documents (content? (Reader.ofTokens [] ts))
      (content? (Reader.ofTokens [] us)) := Readers.content? ⟨h, .nil⟩
  cases h with
  | nil => exact .some ⟨.none, .nil⟩
  | entry _ => exact hcontent
  | same t _ =>
    cases t with
    | version => exact hexplicit
    | tagHandle => exact hexplicit
    | documentStart => exact hexplicit
    | _ => exact hcontent

theorem Tokens.refl (v : Variation) (ts : List Token) : v.Tokens ts ts := by
  induction ts with
  | nil => exact .nil
  | cons t ts ih => exact .same t ih

theorem Tokens.append (h : v.Tokens ts us) (before : List Token) :
    v.Tokens (before ++ ts) (before ++ us) := by
  induction before with
  | nil => exact h
  | cons t before ih => exact .same t ih

end Variation

/-- Texts that differ in the text of one entry hold documents that differ in it. -/
theorem exists_ofText?_entry {front name x v tx tv after : List Char} {d : Document}
    (hname : IsName name) (hline : OwnLine front name x after) (hx : ReadsAs x tx)
    (hv : ReadsAs v tv)
    (hdocument : Document.ofText? (String.ofList (front ++ entry name x after)) = some d) :
    ∃ e, Document.ofText? (String.ofList (front ++ entry name v after)) = some e ∧
      (⟨String.ofList name, String.ofList tx, String.ofList tv⟩ : Variation).Documents d e := by
  rw [Document.ofText?, String.toList_ofList] at hdocument
  obtain ⟨ts, htokens, hdocument⟩ := Option.bind_eq_some_iff.mp hdocument
  obtain ⟨before, behind, rfl, htokens'⟩ := tokens?_entry hname hline hx hv htokens
  have hvariation : (⟨String.ofList name, String.ofList tx, String.ofList tv⟩ : Variation).Tokens
      (before ++ entryTokens (String.ofList name) (String.ofList tx) ++ behind)
      (before ++ entryTokens (String.ofList name) (String.ofList tv) ++ behind) := by
    rw [List.append_assoc, List.append_assoc]
    exact (Variation.Tokens.entry (Variation.Tokens.refl _ behind)).append before
  have hrel := hvariation.ofTokens?
  rw [hdocument] at hrel
  rw [Document.ofText?, String.toList_ofList, htokens', Option.bind_some]
  generalize Document.ofTokens? _ = found at hrel ⊢
  cases hrel with
  | some hdocuments => exact ⟨_, rfl, hdocuments⟩

end PowerTelemetry.Yaml
