import PowerTelemetry.Cloud.Signature
import PowerTelemetry.Proofs.Search.Pieces
import Mathlib.Data.List.Basic
/-!
# What a signed text says

A signed text is taken apart at its ampersands, and each piece at its first equals sign.
`pairsOf?` does this, and `pairsOf?_signedText` says that it gives back the pairs which
the text was made of, if they are `Separable`: no ampersand stands in them, and no equals
sign in a name.  The last three pairs say who asks when, whatever the parameters are called,
so two requests with one signed text are the same (`signedText_eq_iff`).
-/

namespace PowerTelemetry.Cloud

open Search (splitAt cutAt? splitAt_append splitAt_cons_self cutAt?_append)

/-! ## Reading -/

/-- A name and a value, from a text with an equals sign. -/
def pairOf? (text : List Char) : Option (String × String) :=
  (cutAt? '=' text).map fun cut => (String.ofList cut.1, String.ofList cut.2)

/-- The names and values in a text with ampersands between. -/
def pairsOf? (text : String) : Option (List (String × String)) :=
  (splitAt '&' text.toList).mapM pairOf?

/-! ## Reading what was written -/

/-- What was joined is taken apart again. -/
theorem splitAt_joined (texts : List (List Char)) (hne : texts ≠ [])
    (hplain : ∀ text ∈ texts, '&' ∉ text) : splitAt '&' (joined texts) = texts := by
  induction texts using joined.induct with
  | case1 => exact absurd rfl hne
  | case2 text =>
    have htext : '&' ∉ text := hplain text List.mem_cons_self
    have hsplit := splitAt_append htext []
    rw [List.append_nil] at hsplit
    rw [joined, hsplit]
    simp [splitAt]
  | case3 text rest hrest ih =>
    -- the first piece ends at the first ampersand, and the rest is taken apart by itself
    obtain ⟨htext, hothers⟩ := List.forall_mem_cons.mp hplain
    have hne : rest ≠ [] := fun h => hrest h
    rw [joined.eq_3 _ _ hrest, splitAt_append htext, splitAt_cons_self, ih hne hothers,
      List.modifyHead_cons, List.append_nil]

theorem pairOf?_pairText {name : String} (h : '=' ∉ name.toList) (value : String) :
    pairOf? (pairText name value) = some (name, value) := by
  rw [pairOf?, pairText, cutAt?_append h, Option.map_some, String.ofList_toList,
    String.ofList_toList]

theorem mapM_pairOf? {pairs : List (String × String)} (h : ∀ p ∈ pairs, '=' ∉ p.1.toList) :
    (pairs.map fun p => pairText p.1 p.2).mapM pairOf? = some pairs := by
  induction pairs with
  | nil => rfl
  | cons p rest ih =>
    obtain ⟨hname, hrest⟩ := List.forall_mem_cons.mp h
    rw [List.map_cons, List.mapM_cons, pairOf?_pairText hname, ih hrest]
    rfl

/-- No ampersand stands in what is signed, and no equals sign in the name of a
parameter. -/
structure Separable (parameters : Dict String) (accessKey nonce timestamp : String) : Prop where
  names : ∀ e ∈ parameters.entries, '&' ∉ e.1.toList ∧ '=' ∉ e.1.toList
  values : ∀ e ∈ parameters.entries, '&' ∉ e.2.toList
  accessKey : '&' ∉ accessKey.toList
  nonce : '&' ∉ nonce.toList
  timestamp : '&' ∉ timestamp.toList

variable {parameters others : Dict String}
variable {accessKey nonce timestamp accessKey' nonce' timestamp' : String}

/-- The names and values of all pairs are as those of the parameters. -/
theorem Separable.pairs (h : Separable parameters accessKey nonce timestamp) :
    ∀ p ∈ signedPairs parameters accessKey nonce timestamp,
      '&' ∉ p.1.toList ∧ '=' ∉ p.1.toList ∧ '&' ∉ p.2.toList := by
  intro p hp
  simp only [signedPairs, List.mem_append, List.mem_cons, List.not_mem_nil, or_false] at hp
  rcases hp with hp | rfl | rfl | rfl
  · exact ⟨(h.names p hp).1, (h.names p hp).2, h.values p hp⟩
  · exact ⟨by simp, by simp, h.accessKey⟩
  · exact ⟨by simp, by simp, h.nonce⟩
  · exact ⟨by simp, by simp, h.timestamp⟩

theorem not_mem_pairText {name value : String} (hname : '&' ∉ name.toList)
    (hvalue : '&' ∉ value.toList) : '&' ∉ pairText name value := by
  simp [pairText, hname, hvalue]

/-- A signed text is read as the pairs that it was made of. -/
theorem pairsOf?_signedText (h : Separable parameters accessKey nonce timestamp) :
    pairsOf? (signedText parameters accessKey nonce timestamp)
      = some (signedPairs parameters accessKey nonce timestamp) := by
  have hplain : ∀ text ∈ (signedPairs parameters accessKey nonce timestamp).map
      (fun p => pairText p.1 p.2), '&' ∉ text := by
    refine List.forall_mem_map.mpr fun p hp => ?_
    obtain ⟨hname, -, hvalue⟩ := h.pairs p hp
    exact not_mem_pairText hname hvalue
  rw [pairsOf?, signedText, String.toList_ofList,
    splitAt_joined _ (by simp [signedPairs]) hplain]
  exact mapM_pairOf? fun p hp => (h.pairs p hp).2.1

/-- Equal pairs are those of equal requests: the last three of them are apart. -/
theorem signedPairs_inj
    (h : signedPairs parameters accessKey nonce timestamp
      = signedPairs others accessKey' nonce' timestamp') :
    parameters = others ∧ accessKey = accessKey' ∧ nonce = nonce' ∧ timestamp = timestamp' := by
  obtain ⟨hentries, hlast⟩ := List.append_inj' h rfl
  simp only [List.cons.injEq, Prod.mk.injEq, true_and, and_true] at hlast
  refine ⟨?_, hlast⟩
  cases parameters
  cases others
  simpa using hentries

/-- The signed text determines the request: its parameters, and who asks when. -/
theorem signedText_eq_iff (h : Separable parameters accessKey nonce timestamp)
    (h' : Separable others accessKey' nonce' timestamp') :
    signedText parameters accessKey nonce timestamp
        = signedText others accessKey' nonce' timestamp' ↔
      parameters = others ∧ accessKey = accessKey' ∧ nonce = nonce' ∧ timestamp = timestamp' := by
  constructor
  · intro htext
    have hread := pairsOf?_signedText h
    rw [htext, pairsOf?_signedText h'] at hread
    exact signedPairs_inj (Option.some.inj hread).symm
  · rintro ⟨rfl, rfl, rfl, rfl⟩
    rfl

/-- Parameters that are called like the pairs behind them, with an equals sign and with
nothing for a value, are not taken for these pairs. -/
theorem signedText_eq_iff_lookalikes :
    Separable (Dict.ofList [("accessKey", "k="), ("nonce", "")]) "k=" "1" "2" ∧
      Separable (Dict.ofList [("nonce", "")]) "k=" "1" "2" ∧
      signedText (Dict.ofList [("accessKey", "k="), ("nonce", "")]) "k=" "1" "2"
        ≠ signedText (Dict.ofList [("nonce", "")]) "k=" "1" "2" := by
  have hmore : Separable (Dict.ofList [("accessKey", "k="), ("nonce", "")]) "k=" "1" "2" := by
    constructor <;> decide +kernel
  have hless : Separable (Dict.ofList [("nonce", "")]) "k=" "1" "2" := by
    constructor <;> decide +kernel
  refine ⟨hmore, hless, fun htext => ?_⟩
  obtain ⟨hparameters, -⟩ := (signedText_eq_iff hmore hless).mp htext
  exact absurd hparameters (by decide +kernel)

end PowerTelemetry.Cloud
