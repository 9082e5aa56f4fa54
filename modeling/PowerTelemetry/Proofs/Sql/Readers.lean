import PowerTelemetry.Proofs.Sql.Tokens
/-!
# Readers of tokens

A `Reader` takes something from the front of the tokens of a statement: at least
one of them, so what is behind it is shorter and lists of such things can be read
by recursion.  `Reader.Reads` says that it takes what was written as given
tokens, whatever stands behind them.

Main results: `Reader.Reads.all?_eq` and `Reader.Reads.list`, by which lists are
read back if their members are.
-/

namespace PowerTelemetry.Sql

/-- What takes something from the front of the tokens: at least one of them, and
nothing from where a list ends. -/
structure Reader (α : Type) where
  take? : List Token → Option (α × List Token)
  shorter : ∀ {ts a rest}, take? ts = some (a, rest) → rest.length < ts.length
  stops : ∀ rest, take? (.mark ')' :: rest) = none

namespace Reader

variable {α : Type} (r : Reader α)

/-- One or more with commas between. -/
def separated? (ts : List Token) : Option (List α × List Token) :=
  match _h : r.take? ts with
  | none => none
  | some (a, .mark ',' :: rest) => (separated? rest).map fun m => (a :: m.1, m.2)
  | some (a, rest) => some ([a], rest)
termination_by ts.length
decreasing_by
  have := r.shorter ‹_›
  simp only [List.length_cons] at this
  omega

/-- Any number with commas between, and nothing behind them. -/
def all? (ts : List Token) : Option (List α) :=
  if ts = [] then some []
  else match r.separated? ts with
    | some (as, []) => some as
    | _ => none

/-- Any number in parentheses, with commas between. -/
def list? : List Token → Option (List α × List Token)
  | .mark '(' :: ts =>
    match r.separated? ts, ts with
    | some (as, .mark ')' :: rest), _ => some (as, rest)
    | none, .mark ')' :: rest => some ([], rest)
    | _, _ => none
  | _ => none

variable {r}

theorem separated?_of_comma {ts rest : List Token} {a : α}
    (h : r.take? ts = some (a, .mark ',' :: rest)) :
    r.separated? ts = (r.separated? rest).map fun m => (a :: m.1, m.2) := by
  rw [separated?]
  split
  next hn => simp [h] at hn
  next hs =>
    rw [h] at hs
    cases hs
    rfl
  next hne hs =>
    rw [h] at hs
    cases hs
    exact absurd rfl (hne _)

theorem separated?_of_last {ts rest : List Token} {a : α} (h : r.take? ts = some (a, rest))
    (hr : rest.head? ≠ some (.mark ',')) : r.separated? ts = some ([a], rest) := by
  rw [separated?]
  split
  next hn => simp [h] at hn
  next hs =>
    rw [h] at hs
    cases hs
    exact absurd rfl hr
  next hs =>
    rw [h] at hs
    cases hs
    rfl

theorem length_of_separated? {ts : List Token} {as : List α} {rest : List Token}
    (h : r.separated? ts = some (as, rest)) : rest.length < ts.length := by
  induction ts using separated?.induct r generalizing as with
  | case1 ts hn =>
    rw [separated?] at h
    split at h <;> simp_all
  | case2 ts a after ht ih =>
    rw [separated?_of_comma ht, Option.map_eq_some_iff] at h
    obtain ⟨m, hm, he⟩ := h
    cases he
    have := ih hm
    have := r.shorter ht
    simp only [List.length_cons] at this
    omega
  | case3 ts a after hne ht =>
    have hr : after.head? ≠ some (.mark ',') := by
      intro hc
      obtain ⟨l, rfl⟩ := List.head?_eq_some_iff.1 hc
      exact hne _ rfl
    rw [separated?_of_last ht hr] at h
    cases h
    exact r.shorter ht

theorem length_of_list? {ts : List Token} {as : List α} {rest : List Token}
    (h : r.list? ts = some (as, rest)) : rest.length < ts.length := by
  unfold list? at h
  split at h
  · split at h
    next hs =>
      cases h
      have := length_of_separated? hs
      simp only [List.length_cons] at this ⊢
      omega
    next =>
      cases h
      simp only [List.length_cons]
      omega
    next => cases h
  · cases h

/-- The reader of lists in parentheses. -/
def list (r : Reader α) : Reader (List α) where
  take? := r.list?
  shorter := length_of_list?
  stops := fun _ => rfl

/-- The reader takes what is written as given tokens, whatever stands behind
it. -/
def Reads (r : Reader α) (write : α → List Token) : Prop :=
  ∀ a rest, r.take? (write a ++ rest) = some (a, rest)

variable {write : α → List Token}

theorem Reads.separated (h : r.Reads write) {rest : List Token}
    (hr : rest.head? ≠ some (.mark ',')) :
    ∀ as : List α, as ≠ [] → r.separated? (commaTokens (as.map write) ++ rest) = some (as, rest)
  | [a], _ => separated?_of_last (h a rest) hr
  | a :: b :: as, _ => by
    have ih := h.separated hr (b :: as) (by simp)
    have ht : r.take? (commaTokens ((a :: b :: as).map write) ++ rest) =
        some (a, .mark ',' :: (commaTokens ((b :: as).map write) ++ rest)) := by
      simp only [List.map_cons, commaTokens, List.append_assoc, List.cons_append]
      exact h a _
    rw [separated?_of_comma ht, ih]
    rfl

theorem Reads.all?_eq (h : r.Reads write) (as : List α) :
    r.all? (commaTokens (as.map write)) = some as := by
  cases as with
  | nil => simp [all?, commaTokens]
  | cons a as =>
    have hs : r.separated? (commaTokens ((a :: as).map write)) = some (a :: as, []) := by
      simpa only [List.append_nil] using
        h.separated (by simp : ([] : List Token).head? ≠ some (.mark ',')) (a :: as) (by simp)
    have hne : commaTokens ((a :: as).map write) ≠ [] := by
      have := length_of_separated? hs
      exact List.ne_nil_of_length_pos this
    rw [all?, if_neg hne, hs]

theorem Reads.list (h : r.Reads write) :
    r.list.Reads fun as => listTokens (as.map write) := by
  intro as rest
  show r.list? (.mark '(' :: (commaTokens (as.map write) ++ [.mark ')'] ++ rest)) = _
  rw [List.append_assoc, List.singleton_append]
  cases as with
  | nil =>
    -- nothing is taken from the end of the list, so the parenthesis is seen next
    have hs : r.separated? (.mark ')' :: rest) = none := by
      rw [separated?]
      split
      next => rfl
      all_goals
        next h => simp [r.stops] at h
    simp [list?, commaTokens, hs]
  | cons a as =>
    have hr : (.mark ')' :: rest : List Token).head? ≠ some (.mark ',') := by simp
    simp only [list?, h.separated hr (a :: as) (by simp)]

end Reader

end PowerTelemetry.Sql
