import PowerTelemetry.Proofs.Sql.Readers
/-!
# What a statement asks for

`Request.read?` is the reader for the statements that grow tables and add rows:
the text is split into tokens, and the tokens say what is asked for.  The one
reader gives back the table, the columns in their order, their kinds and the
number of rows from every text that `Statement.create`, `Statement.adapt` and
`Statement.insert` write, so no two requests of one kind share a text.  Main
result: `Request.read_text`.
-/

namespace PowerTelemetry.Sql

/-! ## Parts -/

/-- Reads an identifier. -/
def nameReader : Reader String where
  take?
    | .name name :: rest => some (name, rest)
    | _ => none
  shorter := by
    intro ts a rest h
    split at h <;> cases h
    simp
  stops := fun _ => rfl

/-- The kind of a column by its type. -/
def takeKind? : List Token → Option (ColumnKind × List Token)
  | .word "VARCHAR" :: .mark '(' :: .number length :: .mark ')' :: rest =>
    if length < UInt32.size then some (.text (UInt32.ofNat length), rest) else none
  | .word "BIGINT" :: rest => some (.integer, rest)
  | .word "DOUBLE" :: .word "PRECISION" :: rest => some (.decimal, rest)
  | .word "TIMESTAMPTZ" :: rest => some (.timestamp, rest)
  | _ => none

theorem length_of_takeKind? {ts : List Token} {kind : ColumnKind} {rest : List Token}
    (h : takeKind? ts = some (kind, rest)) : rest.length < ts.length := by
  unfold takeKind? at h
  split at h
  · split_ifs at h
    cases h
    simp only [List.length_cons]
    omega
  all_goals cases h
  all_goals
    simp only [List.length_cons]
    omega

/-- Reads a name and a type. -/
def columnReader : Reader Column where
  take?
    | .name name :: rest => (takeKind? rest).map fun k => (⟨name, k.1⟩, k.2)
    | _ => none
  shorter := by
    intro ts a rest h
    split at h
    · obtain ⟨k, hk, he⟩ := Option.map_eq_some_iff.1 h
      cases he
      have := length_of_takeKind? hk
      simp only [List.length_cons]
      omega
    · cases h
  stops := fun _ => rfl

/-- Reads a column to be added. -/
def additionReader : Reader Column where
  take?
    | .word "ADD" :: .word "COLUMN" :: .word "IF" :: .word "NOT" :: .word "EXISTS" :: rest =>
      columnReader.take? rest
    | _ => none
  shorter := by
    intro ts a rest h
    split at h
    · have := columnReader.shorter h
      simp only [List.length_cons]
      omega
    · cases h
  stops := fun _ => rfl

/-- Reads a numbered place. -/
def placeReader : Reader Nat where
  take?
    | .place number :: rest => some (number, rest)
    | _ => none
  shorter := by
    intro ts a rest h
    split at h <;> cases h
    simp
  stops := fun _ => rfl

/-! ## Requests -/

/-- What a statement asks for. -/
inductive Request where
  | create (table : String) (columns : List Column)
  | adapt (table : String) (columns : List Column)
  | insert (table : String) (fields : List String) (rows : Nat)
  deriving DecidableEq, Repr

namespace Request

/-- The numbers of the places in rows of the same width, counted through from
one. -/
def numbering (width rows : Nat) : List (List Nat) :=
  (List.range rows).map fun i => (List.range width).map (i * width + 1 + ·)

/-- What the tokens of a statement ask for.  Rows have to be as wide as the list
of fields, and their places numbered through. -/
def ofTokens? : List Token → Option Request
  | .word "CREATE" :: .word "TABLE" :: .name table :: ts =>
    match columnReader.list.take? ts with
    | some (columns, []) => some (create table columns)
    | _ => none
  | .word "ALTER" :: .word "TABLE" :: .name table :: ts =>
    (additionReader.all? ts).map (adapt table)
  | .word "INSERT" :: .word "INTO" :: .name table :: ts =>
    match nameReader.list.take? ts with
    | some (fields, .word "VALUES" :: ts) =>
      match placeReader.list.all? ts with
      | some places =>
        if places = numbering fields.length places.length then
          some (insert table fields places.length)
        else none
      | none => none
    | _ => none
  | _ => none

/-- What the text of a statement asks for. -/
def read? (text : String) : Option Request :=
  (tokens? text.toList).bind ofTokens?

end Request

/-! ## Reading what was written -/

/-- The tokens of a name. -/
def nameTokens (name : String) : List Token := [.name name]

/-- The tokens of a type. -/
def kindTokens : ColumnKind → List Token
  | .text length => [.word "VARCHAR", .mark '(', .number length.toNat, .mark ')']
  | .integer => [.word "BIGINT"]
  | .decimal => [.word "DOUBLE", .word "PRECISION"]
  | .timestamp => [.word "TIMESTAMPTZ"]

/-- The tokens of a name and a type. -/
def columnTokens (column : Column) : List Token :=
  .name column.name :: kindTokens column.kind

/-- The tokens of a column to be added. -/
def additionTokens (column : Column) : List Token :=
  [.word "ADD", .word "COLUMN", .word "IF", .word "NOT", .word "EXISTS"] ++ columnTokens column

/-- The tokens of a numbered place. -/
def placeTokens (number : Nat) : List Token := [.place number]

theorem reads_name : nameReader.Reads nameTokens := by
  intro name rest
  rfl

theorem takeKind?_kindTokens (kind : ColumnKind) (rest : List Token) :
    takeKind? (kindTokens kind ++ rest) = some (kind, rest) := by
  cases kind with
  | text length => simp [kindTokens, takeKind?, UInt32.toNat_lt_size]
  | integer => simp [kindTokens, takeKind?]
  | decimal => simp [kindTokens, takeKind?]
  | timestamp => simp [kindTokens, takeKind?]

theorem reads_column : columnReader.Reads columnTokens := by
  intro column rest
  simp [columnReader, columnTokens, takeKind?_kindTokens]

theorem reads_addition : additionReader.Reads additionTokens := by
  intro column rest
  exact reads_column column rest

theorem reads_place : placeReader.Reads placeTokens := by
  intro number rest
  rfl

/-! ### The tokens of what was written -/

theorem splits_kind (kind : ColumnKind) : Splits (typeText kind) (kindTokens kind) := by
  cases kind with
  | text length =>
    have number : Splits (Nat.toDigits 10 length.toNat ++ [')'])
        [.number length.toNat, .mark ')'] :=
      (splits_number length.toNat).append splits_close (breaks_cons _ (by decide) (by decide))
    have word : Splits "VARCHAR".toList [.word "VARCHAR"] :=
      splits_word (by decide)
    exact word.append (number.cons (by decide) fun _ => rfl)
      (breaks_cons _ (by decide) (by decide))
  | integer => exact splits_word (by decide)
  | decimal =>
    have precision : Splits "PRECISION".toList [.word "PRECISION"] := splits_word (by decide)
    exact precision.after_words ["DOUBLE"] (by decide)
  | timestamp => exact splits_word (by decide)

theorem splits_column (column : Column) : Splits (columnText column) (columnTokens column) :=
  (splits_name column.name).spaced (splits_kind column.kind)

theorem splits_addition (column : Column) :
    Splits ("ADD COLUMN IF NOT EXISTS ".toList ++ columnText column) (additionTokens column) :=
  (splits_column column).after_words ["ADD", "COLUMN", "IF", "NOT", "EXISTS"] (by decide)

/-- The rows of places by the numbers in them. -/
theorem placesTexts_eq (width rows : Nat) :
    ((List.range rows).map fun i => placesText (i * width + 1) width) =
      (Request.numbering width rows).map fun row => parenthesized (row.map placeText) := by
  simp [Request.numbering, placesText, Function.comp_def]

theorem splits_createText (table : String) (columns : List Column) :
    Splits (createText table columns)
      ([.word "CREATE", .word "TABLE", .name table] ++ listTokens (columns.map columnTokens)) := by
  have named := (splits_name table).spaced (Splits.parenthesized splits_column columns)
  exact named.after_words ["CREATE", "TABLE"] (by decide)

theorem splits_adaptText (table : String) (columns : List Column) :
    Splits (adaptText table columns)
      ([.word "ALTER", .word "TABLE", .name table] ++ commaTokens (columns.map additionTokens)) := by
  have named := (splits_name table).spaced (Splits.commaSeparated splits_addition columns)
  exact named.after_words ["ALTER", "TABLE"] (by decide)

/-- The tokens of fields and rows of places. -/
def rowsTokens (fields : List String) (rows : Nat) : List Token :=
  listTokens (fields.map nameTokens) ++ ([.word "VALUES"] ++
    commaTokens ((Request.numbering fields.length rows).map fun row =>
      listTokens (row.map placeTokens)))

theorem splits_rows (fields : List String) (rows : Nat) :
    Splits (parenthesized (fields.map quotedName) ++ " VALUES ".toList ++
      commaSeparated ((List.range rows).map fun i =>
        placesText (i * fields.length + 1) fields.length)) (rowsTokens fields rows) := by
  have places := Splits.commaSeparated (Splits.parenthesized splits_place)
    (Request.numbering fields.length rows)
  have values := places.after_words ["VALUES"] (by decide)
  rw [List.append_assoc, placesTexts_eq]
  exact (Splits.parenthesized splits_name fields).spaced values

theorem splits_insertText (table : String) (fields : List String) (rows : Nat) :
    Splits (insertText table fields rows)
      ([.word "INSERT", .word "INTO", .name table] ++ rowsTokens fields rows) := by
  have named := (splits_name table).spaced (splits_rows fields rows)
  exact named.after_words ["INSERT", "INTO"] (by decide)

/-! ## Requests and their texts -/

namespace Request

theorem read?_create (table : String) (columns : List Column) :
    read? (Statement.create table columns).text = some (create table columns) := by
  have hl : columnReader.list.take? (listTokens (columns.map columnTokens)) =
      some (columns, []) := by
    simpa using reads_column.list columns []
  have ht : ofTokens? ([.word "CREATE", .word "TABLE", .name table] ++
      listTokens (columns.map columnTokens)) = some (create table columns) := by
    simp only [List.cons_append, List.nil_append, ofTokens?, hl]
  rw [read?, Statement.create, String.toList_ofList, (splits_createText table columns).tokens?_eq]
  exact ht

theorem read?_adapt (table : String) (columns : List Column) :
    read? (Statement.adapt table columns).text = some (adapt table columns) := by
  have ht : ofTokens? ([.word "ALTER", .word "TABLE", .name table] ++
      commaTokens (columns.map additionTokens)) = some (adapt table columns) := by
    simp only [List.cons_append, List.nil_append, ofTokens?, reads_addition.all?_eq, Option.map_some]
  rw [read?, Statement.adapt, String.toList_ofList, (splits_adaptText table columns).tokens?_eq]
  exact ht

theorem length_numbering (width rows : Nat) : (numbering width rows).length = rows := by
  simp [numbering]

theorem read?_insert (table : String) (fields : List String) (rows : List (List Datum)) :
    read? (Statement.insert table fields rows).text = some (insert table fields rows.length) := by
  have ht : ofTokens? ([.word "INSERT", .word "INTO", .name table] ++
      rowsTokens fields rows.length) = some (insert table fields rows.length) := by
    have hl (rest : List Token) :
        nameReader.list.take? (listTokens (fields.map nameTokens) ++ rest) = some (fields, rest) :=
      reads_name.list fields rest
    have hp := reads_place.list.all?_eq (numbering fields.length rows.length)
    simp only [List.cons_append, List.nil_append, ofTokens?, rowsTokens, hl, hp, length_numbering,
      if_true]
  rw [read?, Statement.insert, String.toList_ofList,
    (splits_insertText table fields rows.length).tokens?_eq]
  exact ht

/-- The texts of statements say what was asked for and nothing else.  The reader
gives back the table, the columns in their order with their kinds, and the number
of rows, so two requests of one kind have the same text only if they are the same;
and no character of a name ends its identifier. -/
theorem read_text (table other : String) (columns others : List Column)
    (fields names : List String) (rows more : List (List Datum)) (name : String)
    (rest : List Char) :
    read? (Statement.create table columns).text = some (create table columns) ∧
    read? (Statement.adapt table columns).text = some (adapt table columns) ∧
    read? (Statement.insert table fields rows).text = some (insert table fields rows.length) ∧
    ((Statement.create table columns).text = (Statement.create other others).text ↔
      table = other ∧ columns = others) ∧
    ((Statement.adapt table columns).text = (Statement.adapt other others).text ↔
      table = other ∧ columns = others) ∧
    ((Statement.insert table fields rows).text = (Statement.insert other names more).text ↔
      table = other ∧ fields = names ∧ rows.length = more.length) ∧
    (rest.head? ≠ some '"' →
      Token.take? (quotedName name ++ rest) = some (.name name, rest)) := by
  refine ⟨read?_create table columns, read?_adapt table columns, read?_insert table fields rows,
    ⟨?created, ?_⟩, ⟨?adapted, ?_⟩, ⟨?inserted, ?inserts⟩, take?_quotedName name⟩
  case created =>
    intro h
    have := (read?_create table columns).symm.trans (h ▸ read?_create other others)
    simpa using this
  case adapted =>
    intro h
    have := (read?_adapt table columns).symm.trans (h ▸ read?_adapt other others)
    simpa using this
  case inserted =>
    intro h
    have := (read?_insert table fields rows).symm.trans (h ▸ read?_insert other names more)
    simpa using this
  case inserts =>
    rintro ⟨rfl, rfl, h⟩
    simp only [Statement.insert, h]
  all_goals
    rintro ⟨rfl, rfl⟩
    rfl

/-- A name with a quote and a parenthesis in it, in front of a type. -/
theorem read_text_quoteInside :
    " BIGINT)".toList.head? ≠ some '"' ∧
      Token.take? (quotedName "a\") INT; --" ++ " BIGINT)".toList) =
        some (.name "a\") INT; --", " BIGINT)".toList) :=
  have first : " BIGINT)".toList.head? ≠ some '"' := by decide
  ⟨first, (read_text "" "" [] [] [] [] [] [] "a\") INT; --" " BIGINT)".toList).2.2.2.2.2.2 first⟩

end Request

end PowerTelemetry.Sql
