/-!
# Search in lists

Where a run of elements occurs in a list, and lists taken apart at an element
or a run.  Texts are searched as lists of characters, payloads as lists of
bytes.
-/

namespace PowerTelemetry.Search

variable {α : Type} [BEq α]

/-- How many elements stand before the first occurrence of a run. -/
def indexOf? (run : List α) : List α → Option Nat
  | [] => if run.isEmpty then some 0 else none
  | a :: rest =>
    if run.isPrefixOf (a :: rest) then some 0 else (indexOf? run rest).map (· + 1)

/-- The run occurs in the list. -/
def occurs (run l : List α) : Bool :=
  (indexOf? run l).isSome

/-- The pieces between the occurrences of an element; one more than those. -/
def splitAt (separator : α) : List α → List (List α)
  | [] => [[]]
  | a :: rest =>
    if a == separator then [] :: splitAt separator rest
    else match splitAt separator rest with
      | [] => [[a]]
      | piece :: pieces => (a :: piece) :: pieces

/-- The elements before the first occurrence of an element and those after
it. -/
def cutAt? (separator : α) : List α → Option (List α × List α)
  | [] => none
  | a :: rest =>
    if a == separator then some ([], rest)
    else (cutAt? separator rest).map fun r => (a :: r.1, r.2)

/-- What is after the element is shorter. -/
theorem length_of_cutAt? {separator : α} {l before after : List α}
    (h : cutAt? separator l = some (before, after)) : after.length < l.length := by
  induction l generalizing before with
  | nil => simp [cutAt?] at h
  | cons a rest ih =>
    unfold cutAt? at h
    split at h
    · simp only [Option.some.injEq, Prod.mk.injEq] at h
      simp [h.2]
    · obtain ⟨⟨b, c⟩, hb, he⟩ := Option.map_eq_some_iff.1 h
      simp only [Prod.mk.injEq] at he
      have := ih (he.2 ▸ hb)
      simp only [List.length_cons]
      omega

/-- The elements before the last occurrence of an element and those after
it. -/
def cutAtLast? (separator : α) (l : List α) : Option (List α × List α) :=
  (cutAt? separator l.reverse).map fun r => (r.2.reverse, r.1.reverse)

/-- Every occurrence of a run, from the front, gives way to another run.  The
run to replace is `a :: run`. -/
def replaceAll (a : α) (run : List α) (other : List α) (l : List α) : List α :=
  match l with
  | [] => []
  | c :: rest =>
    if (a :: run).isPrefixOf (c :: rest) then other ++ replaceAll a run other (rest.drop run.length)
    else c :: replaceAll a run other rest
termination_by l.length
decreasing_by
  · simp only [List.length_drop, List.length_cons]
    omega
  · simp

end PowerTelemetry.Search
