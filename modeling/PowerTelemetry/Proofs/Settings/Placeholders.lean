import PowerTelemetry.Proofs.Outcome
import PowerTelemetry.Proofs.Search.Pieces
import PowerTelemetry.Settings.Placeholder
/-!
# The grammar of placeholders

A text with placeholders is a sequence of `Piece`s: characters, doubled and lone dollar
signs, and names in brackets.  `WellFormed` says which sequences spell themselves: a name
ends at its first closing bracket, and what follows a lone dollar sign does not go on with
it.

The text of such a sequence is taken apart into just its pieces (`segments_append`), so that
expanding it copies what they stand for, up to the first variable that is not set
(`expand_grammar`).  Nothing in the value of a variable is looked at.
-/

namespace PowerTelemetry.Placeholder

/-! ## Pieces -/

/-- The brackets around a name. -/
inductive Bracket where
  | round
  | curly
  deriving DecidableEq, Repr

/-- The bracket in front of a name. -/
def Bracket.opening : Bracket → Char
  | round => '('
  | curly => '\x7b'

/-- The bracket behind a name. -/
def Bracket.closing : Bracket → Char
  | round => ')'
  | curly => '\x7d'

@[simp] theorem closing?_opening (b : Bracket) : closing? b.opening = some b.closing := by
  cases b <;> rfl

/-- A piece of a text. -/
inductive Piece where
  | literal (c : Char)
  /-- Two dollar signs. -/
  | doubled
  /-- A dollar sign that stands for itself. -/
  | lone
  | named (b : Bracket) (name : List Char)
  deriving DecidableEq, Repr

namespace Piece

/-- How a piece is written. -/
def text : Piece → List Char
  | literal c => [c]
  | doubled => ['$', '$']
  | lone => ['$']
  | named b name => '$' :: b.opening :: (name ++ [b.closing])

/-- The variable of a piece, if it has one. -/
def name? : Piece → Option String
  | named _ name => some (String.ofList name)
  | _ => none

/-- What stands for a piece where its variable is set. -/
def copied (value? : String → Option String) : Piece → List Char
  | literal c => [c]
  | doubled | lone => ['$']
  | named _ name => ((value? (String.ofList name)).getD "").toList

/-- The variable of a piece, if it is not set. -/
def unset? (value? : String → Option String) (p : Piece) : Option String :=
  p.name?.filter fun name => (value? name).isNone

/-- The piece spells itself in front of a text. -/
def SpellsBefore (after : List Char) : Piece → Prop
  | literal c => c ≠ '$'
  | doubled => True
  | lone => ∀ c ∈ after.head?, c ≠ '$' ∧ c ≠ '(' ∧ c ≠ '\x7b'
  | named b name => b.closing ∉ name

instance (after : List Char) (p : Piece) : Decidable (p.SpellsBefore after) :=
  match p with
  | literal _ | named _ _ => inferInstanceAs (Decidable ¬_)
  | doubled => .isTrue trivial
  | lone => Option.decidableForallMem after.head?

/-- The segment that a piece is. -/
def segment : Piece → Segment
  | literal c => .literal c
  | doubled | lone => .literal '$'
  | named _ name => .named (String.ofList name)

end Piece

/-- How pieces are written. -/
def written (pieces : List Piece) : List Char :=
  pieces.flatMap Piece.text

/-- All pieces spell themselves in front of the others and a text. -/
def WellFormed (after : List Char) : List Piece → Prop
  | [] => True
  | p :: rest => p.SpellsBefore (written rest ++ after) ∧ WellFormed after rest

instance decidableWellFormed (after : List Char) :
    (pieces : List Piece) → Decidable (WellFormed after pieces)
  | [] => .isTrue trivial
  | _ :: rest => @instDecidableAnd _ _ _ (decidableWellFormed after rest)

/-! ## Segments -/

/-- After an opening bracket the name goes up to the first closing one. -/
theorem segments_bracket (b : Bracket) (rest : List Char) :
    segments ('$' :: b.opening :: rest) =
      match Search.cutAt? b.closing rest with
      | none => [.unterminated b.closing]
      | some (name, after) => .named (String.ofList name) :: segments after := by
  have hopening : b.opening ≠ '$' := by cases b <;> decide
  rw [segments.eq_3 b.opening rest hopening, closing?_opening]
  simp only
  split <;> simp only [*]

/-- A piece that spells itself is one segment of the text. -/
theorem segments_text_append {p : Piece} {after : List Char} (h : p.SpellsBefore after) :
    segments (p.text ++ after) = p.segment :: segments after := by
  cases p with
  | literal c =>
    have hc : c ≠ '$' := h
    exact segments.eq_4 c after (fun _ heq _ => hc heq) (fun _ _ heq _ => hc heq)
  | doubled => exact segments.eq_2 after
  | lone =>
    cases after with
    | nil => exact segments.eq_4 '$' [] (by simp) (by simp)
    | cons c rest =>
      obtain ⟨hdollar, hround, hcurly⟩ := h c rfl
      have hclosing : closing? c = none := by rw [closing?, if_neg hround, if_neg hcurly]
      exact (segments.eq_3 c rest hdollar).trans (by rw [hclosing]; rfl)
  | named b name =>
    have hwritten : (Piece.named b name).text ++ after
        = '$' :: b.opening :: (name ++ b.closing :: after) := by
      simp [Piece.text]
    rw [hwritten, segments_bracket, Search.cutAt?_append h]
    rfl

/-- A name without its closing bracket takes up the rest of the text. -/
theorem segments_unterminated {b : Bracket} {rest : List Char} (h : b.closing ∉ rest) :
    segments ('$' :: b.opening :: rest) = [.unterminated b.closing] := by
  rw [segments_bracket, Search.cutAt?_eq_none h]

/-! ## Expansion -/

variable {value? : String → Option String}

theorem expand_of_segments {text rest : List Char} {s : Segment}
    (h : segments text = s :: segments rest) :
    expand value? text = s.expansion value? >>= fun front => (expand value? rest).map (front ++ ·) := by
  rw [expand, expand, h, List.mapM_cons]
  cases s.expansion value? with
  | error e => rfl
  | ok front =>
    cases (segments rest).mapM (Segment.expansion value?) with
    | error e => rfl
    | ok parts => rfl

/-- A piece is copied if its variable is set. -/
theorem expansion_segment (p : Piece) :
    p.segment.expansion value? =
      match p.unset? value? with
      | some name => .error (.undefined name)
      | none => .ok (p.copied value?) := by
  cases p with
  | named b name =>
    cases hvalue : value? (String.ofList name) <;>
      simp [Piece.segment, Segment.expansion, Piece.unset?, Piece.name?, Piece.copied, Option.filter,
        hvalue]
  | _ => rfl

/-- What pieces in front of a text do: the first variable that is not set is an error, and
otherwise they are copied. -/
theorem expand_written_append {pieces : List Piece} {after : List Char}
    (h : WellFormed after pieces) :
    expand value? (written pieces ++ after) =
      match pieces.findSome? (Piece.unset? value?) with
      | some name => .error (.undefined name)
      | none => (expand value? after).map (pieces.flatMap (Piece.copied value?) ++ ·) := by
  induction pieces with
  | nil =>
    cases hafter : expand value? after <;> simp [written, hafter, Except.map]
  | cons p rest ih =>
    obtain ⟨hspells, hrest⟩ := h
    have hsegments := segments_text_append hspells
    have hwritten : written (p :: rest) ++ after = p.text ++ (written rest ++ after) := by
      simp [written]
    rw [hwritten, expand_of_segments hsegments, expansion_segment, ih hrest, List.findSome?_cons]
    cases p.unset? value? with
    | some name => rfl
    | none =>
      simp only [ok_bind]
      cases rest.findSome? (Piece.unset? value?) with
      | some name => rfl
      | none =>
        cases expand value? after <;> simp [Except.map]

/-- What pieces that are the whole text do. -/
theorem expand_written {pieces : List Piece} (h : WellFormed [] pieces) :
    expand value? (written pieces) =
      match pieces.findSome? (Piece.unset? value?) with
      | some name => .error (.undefined name)
      | none => .ok (pieces.flatMap (Piece.copied value?)) := by
  have hnil : expand value? [] = .ok [] := by simp [expand, segments, pure, Except.pure, Except.map]
  have hexpand := @expand_written_append value? pieces [] h
  rw [List.append_nil, hnil] at hexpand
  simpa only [Except.map, List.append_nil] using hexpand

/-- A text that a name without its closing bracket ends has no expansion. -/
theorem expand_unterminated {b : Bracket} {rest : List Char} (h : b.closing ∉ rest) :
    expand value? ('$' :: b.opening :: rest) = .error (.unterminated b.closing) := by
  rw [expand, segments_unterminated h]
  rfl

/-! ## Whole texts -/

/-- A text with every dollar sign doubled. -/
def doubled (text : List Char) : List Char :=
  text.flatMap fun c => if c = '$' then ['$', '$'] else [c]

/-- A character as a piece. -/
def Piece.ofChar (c : Char) : Piece :=
  if c = '$' then doubled else literal c

theorem written_ofChar (text : List Char) : written (text.map Piece.ofChar) = doubled text := by
  rw [written, List.flatMap_map, doubled]
  congr 1
  funext c
  rw [Piece.ofChar]
  split <;> rfl

theorem wellFormed_ofChar (text : List Char) : WellFormed [] (text.map Piece.ofChar) := by
  induction text with
  | nil => trivial
  | cons c rest ih =>
    refine ⟨?_, ih⟩
    rw [Piece.ofChar]
    split
    · trivial
    · assumption

theorem copied_ofChar (text : List Char) :
    (text.map Piece.ofChar).flatMap (Piece.copied value?) = text := by
  induction text with
  | nil => rfl
  | cons c rest ih =>
    rw [List.map_cons, List.flatMap_cons, ih, Piece.ofChar]
    split
    · rename_i h
      rw [h]
      rfl
    · rfl

theorem unset?_ofChar (c : Char) : (Piece.ofChar c).unset? value? = none := by
  rw [Piece.ofChar]
  split <;> rfl

/-- Expanding follows the grammar.  The text of pieces is copied, with the values of the
variables as they are and one dollar sign for a doubled or a lone one, and the first
variable that is not set is the error.  A bracket that does not close is an error, unless
there is an earlier one.  So a text comes out of its own doubled dollar signs. -/
theorem expand_grammar (value? : String → Option String) :
    (∀ pieces, WellFormed [] pieces →
      expand value? (written pieces) =
        match pieces.findSome? (Piece.unset? value?) with
        | some name => .error (.undefined name)
        | none => .ok (pieces.flatMap (Piece.copied value?))) ∧
    (∀ pieces (b : Bracket) rest, WellFormed ('$' :: b.opening :: rest) pieces →
      b.closing ∉ rest →
      expand value? (written pieces ++ '$' :: b.opening :: rest) =
        match pieces.findSome? (Piece.unset? value?) with
        | some name => .error (.undefined name)
        | none => .error (.unterminated b.closing)) ∧
    ∀ text, expand value? (doubled text) = .ok text := by
  refine ⟨fun pieces => expand_written, fun pieces b rest h hrest => ?_, fun text => ?_⟩
  · rw [expand_written_append h, expand_unterminated hrest]
    rfl
  · have hset : (text.map Piece.ofChar).findSome? (Piece.unset? value?) = none := by
      simp [List.findSome?_eq_none_iff, unset?_ofChar]
    rw [← written_ofChar, expand_written (wellFormed_ofChar text), hset]
    simp only [copied_ofChar]

/-- A value that looks like a placeholder. -/
private def sample (name : String) : Option String :=
  if name = "A" then some "$(B)" else if name = "B\x7b" then some "b" else none

/-- Runs of dollar signs, a brace in a name and a value that is not looked at. -/
theorem expand_grammar_runs :
    expand sample "$$$$$\x7bA\x7d$x$(B\x7b)$".toList = .ok "$$$(B)$xb$".toList := by
  have hpieces : WellFormed [] [.doubled, .doubled, .named .curly ['A'], .lone, .literal 'x',
      .named .round ['B', '\x7b'], .lone] := by
    simp [WellFormed, Piece.SpellsBefore, written, Piece.text, Bracket.closing]
  exact ((expand_grammar sample).1 _ hpieces).trans (by decide)

end PowerTelemetry.Placeholder
