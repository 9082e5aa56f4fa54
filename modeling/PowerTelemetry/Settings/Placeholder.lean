import PowerTelemetry.Search
/-!
# Placeholders

A placeholder in a text is the name of a variable in brackets with a dollar sign
in front, `$(NAME)` or `${NAME}`.  It gives way to the value of the variable, in
which nothing is replaced any more.  Two dollar signs stand for one; a dollar
sign before anything else stands for itself.

`segments` takes a text apart into characters and placeholders, and `expand`
puts the values in.
-/

namespace PowerTelemetry.Placeholder

/-- What is wrong with a placeholder. -/
inductive Error where
  | unterminated (closing : Char)
  | undefined (name : String)
  deriving DecidableEq, Repr

/-- The text of an error. -/
def Error.message : Error → String
  | unterminated closing =>
    "unterminated env placeholder: missing '" ++ String.singleton closing ++ "'"
  | undefined name => "missing environment variable: " ++ name

/-! ## Segments -/

/-- A part of a text. -/
inductive Segment where
  | literal (c : Char)
  | named (name : String)
  /-- A placeholder that runs up to the end of the text. -/
  | unterminated (closing : Char)
  deriving DecidableEq, Repr

/-- The bracket that closes a name. -/
def closing? (opening : Char) : Option Char :=
  if opening = '(' then some ')' else if opening = '\x7b' then some '\x7d' else none

/-- The parts of a text, from the front. -/
def segments (text : List Char) : List Segment :=
  match text with
  | [] => []
  | '$' :: '$' :: rest => .literal '$' :: segments rest
  | '$' :: c :: rest =>
    match closing? c with
    | none => .literal '$' :: segments (c :: rest)
    | some closing =>
      match h : Search.cutAt? closing rest with
      | none => [.unterminated closing]
      | some (name, after) =>
        have := Search.length_of_cutAt? h
        .named (String.ofList name) :: segments after
  | c :: rest => .literal c :: segments rest
termination_by text.length
decreasing_by all_goals simp only [List.length_cons]; omega

/-- The names of the variables in a text. -/
def names (text : List Char) : List String :=
  (segments text).filterMap fun
    | .named name => some name
    | _ => none

/-! ## Values -/

/-- What a part of a text stands for. -/
def Segment.expansion (value? : String → Option String) : Segment → Except Error (List Char)
  | literal c => .ok [c]
  | named name =>
    match value? name with
    | some value => .ok value.toList
    | none => .error (.undefined name)
  | unterminated closing => .error (.unterminated closing)

/-- `expand_env_placeholders`: the text with its placeholders replaced, or the first
error in it. -/
def expand (value? : String → Option String) (text : List Char) : Except Error (List Char) :=
  ((segments text).mapM (Segment.expansion value?)).map List.flatten

end PowerTelemetry.Placeholder
