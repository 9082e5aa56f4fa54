import PowerTelemetry.Sql.Datum
/-!
# SQL statements

The statements that grow tables and add rows.  Names go in as quoted
identifiers, in which a quote is written twice, so every name stands for
itself.  Values never go into the text: a statement has numbered places and a
list of values bound to them, the first to place `1`.

Texts are built as lists of characters, `Statement` packs them.
-/

namespace PowerTelemetry.Sql

/-- A statement and the values bound to its places. -/
structure Statement where
  text : String
  bound : List Datum
  deriving DecidableEq, Repr

/-! ## Parts -/

/-- `quote_ident`: an identifier between quotes. -/
def quotedName (name : String) : List Char :=
  '"' :: (name.toList.flatMap (fun c => if c = '"' then ['"', '"'] else [c]) ++ ['"'])

/-- Texts with a comma and a space between. -/
def commaSeparated : List (List Char) → List Char
  | [] => []
  | [text] => text
  | text :: rest => text ++ ',' :: ' ' :: commaSeparated rest

/-- Texts with a comma and a space between, inside parentheses. -/
def parenthesized (texts : List (List Char)) : List Char :=
  '(' :: (commaSeparated texts ++ [')'])

/-- `sql_type`: the database's type for a kind of column. -/
def typeText : ColumnKind → List Char
  | .text length => "VARCHAR(".toList ++ Nat.toDigits 10 length.toNat ++ [')']
  | .integer => "BIGINT".toList
  | .decimal => "DOUBLE PRECISION".toList
  | .timestamp => "TIMESTAMPTZ".toList

/-- A column's name and type. -/
def columnText (column : Column) : List Char :=
  quotedName column.name ++ ' ' :: typeText column.kind

/-- A numbered place. -/
def placeText (number : Nat) : List Char :=
  '$' :: Nat.toDigits 10 number

/-- The places of one row: as many as it has values, the first with a given
number. -/
def placesText (first width : Nat) : List Char :=
  parenthesized ((List.range width).map fun j => placeText (first + j))

/-! ## Statements -/

/-- `create_table_sql`: the text that creates a table. -/
def createText (table : String) (columns : List Column) : List Char :=
  "CREATE TABLE ".toList ++ quotedName table ++ ' ' :: parenthesized (columns.map columnText)

/-- `adapt_table_sql`: the text that adds columns to a table. -/
def adaptText (table : String) (columns : List Column) : List Char :=
  "ALTER TABLE ".toList ++ quotedName table ++ ' ' ::
    commaSeparated (columns.map fun c => "ADD COLUMN IF NOT EXISTS ".toList ++ columnText c)

/-- `insert_sql`: the text that adds rows to a table. -/
def insertText (table : String) (fields : List String) (rows : Nat) : List Char :=
  "INSERT INTO ".toList ++ quotedName table ++ ' ' ::
    (parenthesized (fields.map quotedName) ++ " VALUES ".toList ++
      commaSeparated ((List.range rows).map fun i =>
        placesText (i * fields.length + 1) fields.length))

/-- The statement that creates a table. -/
def Statement.create (table : String) (columns : List Column) : Statement :=
  ⟨String.ofList (createText table columns), []⟩

/-- The statement that adds columns to a table. -/
def Statement.adapt (table : String) (columns : List Column) : Statement :=
  ⟨String.ofList (adaptText table columns), []⟩

/-- The statement that adds rows to a table. -/
def Statement.insert (table : String) (fields : List String) (rows : List (List Datum)) :
    Statement :=
  ⟨String.ofList (insertText table fields rows.length), rows.flatten⟩

/-- The statement that lists the columns of a table, in their order. -/
def Statement.columns (table : String) : Statement :=
  ⟨"SELECT column_name::text FROM information_schema.columns WHERE table_name = $1 "
      ++ "ORDER BY ordinal_position",
    [.text (some table)]⟩

end PowerTelemetry.Sql
