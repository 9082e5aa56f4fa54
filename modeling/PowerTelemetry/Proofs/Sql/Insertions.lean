import PowerTelemetry.Proofs.Sql.Requests
import PowerTelemetry.Store.Server
import Mathlib.Data.List.Basic
/-!
# Rows and their places

The statement that adds rows has a text with numbered places and a list of values, which
are made apart from each other: the numbers are counted through the rows, and the values
are put one behind the other.  An `Insertion` is what a reader finds in the text, and
`Statement.Inserts` says that text and values go together: the value that is bound to a
place is the one of its row and its column.

* `flatten_numbering` and `getElem?_flatten` say how places and values are counted.
* `inserts_insert` says it of the statement, whatever the number of rows and columns.
* `Server.issued` are the statements that a call gives to a server, and
  `Server.issued_insert` is the result.
-/

namespace PowerTelemetry.Sql

/-! ## Insertions -/

/-- What the text of a statement says that adds rows: the table, the columns, and the
numbers of the places in each row. -/
structure Insertion where
  table : String
  fields : List String
  places : List (List Nat)
  deriving DecidableEq, Repr

namespace Insertion

/-- The text of an insertion. -/
def text (i : Insertion) : List Char :=
  "INSERT INTO ".toList ++ quotedName i.table ++ ' ' ::
    (parenthesized (i.fields.map quotedName) ++ " VALUES ".toList ++
      commaSeparated (i.places.map fun row => parenthesized (row.map placeText)))

/-- What the tokens of a statement say. -/
def ofTokens? : List Token → Option Insertion
  | .word "INSERT" :: .word "INTO" :: .name table :: ts =>
    match nameReader.list.take? ts with
    | some (fields, .word "VALUES" :: ts) =>
      (placeReader.list.all? ts).map fun places => ⟨table, fields, places⟩
    | _ => none
  | _ => none

/-- What the text of a statement says. -/
def read? (text : String) : Option Insertion :=
  (tokens? text.toList).bind ofTokens?

/-- The number of a place. -/
def number? (i : Insertion) (row column : Nat) : Option Nat :=
  i.places[row]?.bind (·[column]?)

end Insertion

namespace Statement

/-- The value that is bound to a number; the first one is bound to `1`. -/
def value? (statement : Statement) : Nat → Option Datum
  | 0 => none
  | number + 1 => statement.bound[number]?

/-- A statement adds rows to columns of a table.  Its text is that of an insertion and is
read as no other one; it has the columns in their order and a row of places for each row,
numbered through; and the value that is bound to a place is that of its row and column. -/
structure Inserts (statement : Statement) (table : String) (fields : List String)
    (rows : List (List Datum)) (insertion : Insertion) : Prop where
  text_eq : statement.text = String.ofList insertion.text
  read_eq : Insertion.read? statement.text = some insertion
  table_eq : insertion.table = table
  fields_eq : insertion.fields = fields
  length_places : insertion.places.length = rows.length
  width_places : ∀ row ∈ insertion.places, row.length = fields.length
  number_eq : ∀ i < rows.length, ∀ j < fields.length,
    insertion.number? i j = some (i * fields.length + j + 1)
  numbered_through : insertion.places.flatten = List.range' 1 (rows.length * fields.length)
  length_bound : statement.bound.length = rows.length * fields.length
  value_eq : ∀ i (hi : i < rows.length), ∀ j (hj : j < rows[i].length),
    (insertion.number? i j).bind statement.value? = some rows[i][j]

end Statement

/-! ## Counting -/

/-- The numbers go on from one row to the next. -/
theorem flatten_numbering (width rows : Nat) :
    (Request.numbering width rows).flatten = List.range' 1 (rows * width) := by
  induction rows with
  | zero => simp [Request.numbering]
  | succ rows ih =>
    have hlast : Request.numbering width (rows + 1)
        = Request.numbering width rows ++ [List.range' (rows * width + 1) width] := by
      rw [Request.numbering, List.range_succ, List.map_append, List.range'_eq_map_range]
      rfl
    rw [hlast, List.flatten_append, ih, List.flatten_singleton, Nat.add_comm (rows * width) 1,
      List.range'_append_1, Nat.succ_mul]

/-- The values of rows of one width go on from one row to the next. -/
theorem getElem?_flatten {α : Type} {rows : List (List α)} {width j : Nat}
    (h : ∀ row ∈ rows, row.length = width) (hj : j < width) (i : Nat) :
    rows.flatten[i * width + j]? = rows[i]?.bind (·[j]?) := by
  induction rows generalizing i with
  | nil => simp
  | cons row rest ih =>
    obtain ⟨hrow, hrest⟩ := List.forall_mem_cons.mp h
    rw [List.flatten_cons]
    cases i with
    | zero =>
      rw [Nat.zero_mul, Nat.zero_add, List.getElem?_append_left (by omega)]
      rfl
    | succ i =>
      -- the values of the first row are counted before all others
      have hbehind : (i + 1) * width + j = row.length + (i * width + j) := by
        rw [Nat.succ_mul, hrow]
        omega
      rw [hbehind, List.getElem?_append_right (by omega), Nat.add_sub_cancel_left, ih hrest]
      rfl

theorem number?_numbering (table : String) (fields : List String) {rows i j : Nat}
    (hi : i < rows) (hj : j < fields.length) :
    (Insertion.mk table fields (Request.numbering fields.length rows)).number? i j
      = some (i * fields.length + j + 1) := by
  simp only [Insertion.number?, Request.numbering, List.getElem?_map, List.getElem?_range hi,
    Option.map_some, Option.bind_some, List.getElem?_range hj]
  congr 1
  omega

/-! ## The statement -/

theorem insertText_eq (table : String) (fields : List String) (rows : Nat) :
    insertText table fields rows
      = (Insertion.mk table fields (Request.numbering fields.length rows)).text := by
  unfold insertText Insertion.text
  rw [placesTexts_eq]

/-- The text of a statement that adds rows is read as one insertion. -/
theorem Insertion.read?_insert (table : String) (fields : List String)
    (rows : List (List Datum)) :
    read? (Statement.insert table fields rows).text
      = some ⟨table, fields, Request.numbering fields.length rows.length⟩ := by
  have hfields (rest : List Token) :
      nameReader.list.take? (listTokens (fields.map nameTokens) ++ rest) = some (fields, rest) :=
    reads_name.list fields rest
  have hplaces := reads_place.list.all?_eq (Request.numbering fields.length rows.length)
  rw [read?, Statement.insert, String.toList_ofList,
    (splits_insertText table fields rows.length).tokens?_eq, Option.bind_some]
  simp only [List.cons_append, List.nil_append, ofTokens?, rowsTokens, hfields, hplaces,
    Option.map_some]

/-- Rows that are as wide as the list of fields go to their places. -/
theorem inserts_insert (table : String) (fields : List String) {rows : List (List Datum)}
    (hwidth : ∀ row ∈ rows, row.length = fields.length) :
    (Statement.insert table fields rows).Inserts table fields rows
      ⟨table, fields, Request.numbering fields.length rows.length⟩ where
  text_eq := congrArg String.ofList (insertText_eq table fields rows.length)
  read_eq := Insertion.read?_insert table fields rows
  table_eq := rfl
  fields_eq := rfl
  length_places := Request.length_numbering fields.length rows.length
  width_places := by simp [Request.numbering]
  number_eq i hi j hj := number?_numbering table fields hi hj
  numbered_through := flatten_numbering fields.length rows.length
  length_bound := by
    have hlengths : rows.map List.length = List.replicate rows.length fields.length :=
      List.eq_replicate_iff.mpr ⟨List.length_map _, List.forall_mem_map.mpr hwidth⟩
    rw [Statement.insert, List.length_flatten, hlengths, List.sum_replicate_nat]
  value_eq i hi j hj := by
    have hcolumn : j < fields.length := by
      rwa [← hwidth _ (List.getElem_mem hi)]
    rw [number?_numbering table fields hi hcolumn, Option.bind_some]
    change rows.flatten[i * fields.length + j]? = _
    rw [getElem?_flatten hwidth hcolumn, List.getElem?_eq_getElem hi, Option.bind_some,
      List.getElem?_eq_getElem hj]

end PowerTelemetry.Sql

namespace PowerTelemetry.Store

open PowerTelemetry.Sql (Statement Insertion Datum)

/-! ## What is given to a server -/

namespace Server

variable {σ : Type}

/-- The server with a list of the statements that it is given. -/
def recording (server : Server σ) : Server (σ × List Statement) where
  connect s :=
    let (answer, rest) := server.connect s.1
    (answer, rest, s.2)
  close handle s := (server.close handle s.1, s.2)
  perform handle statement s :=
    let (answer, rest) := server.perform handle statement s.1
    (answer, rest, s.2 ++ [statement])

/-- The statements that a change gives to a server. -/
def issued (server : Server σ) (handle : Handle) (c : Change) (s : σ) : List Statement :=
  (server.recording.change handle c (s, [])).2.2

/-- A change gives a server its statement, if it has one. -/
theorem issued_eq (server : Server σ) (handle : Handle) (c : Change) (s : σ) :
    server.issued handle c s = c.statement?.toList := by
  rw [issued, change]
  cases c.statement? <;> rfl

/-- A server that does what it is told and has nothing to say. -/
def quiet : Server Unit where
  connect s := (.ok ⟨0⟩, s)
  close _ s := s
  perform _ _ s := (.ok [], s)

/-- Columns, one of them with a quote in its name. -/
def oddFields : List String :=
  ["eco_watts", "we\"ird"]

/-- Rows whose values could stand in each other's places. -/
def oddRows : List (List Datum) :=
  [[.integer (some 1), .integer (some 2)],
   [.integer none, .integer (some 1)],
   [.integer (some 2), .integer none]]

example : (Statement.insert "meadow" oddFields oddRows).text =
    "INSERT INTO \"meadow\" (\"eco_watts\", \"we\"\"ird\") VALUES ($1, $2), ($3, $4), ($5, $6)" := by
  decide +kernel

end Server

end PowerTelemetry.Store
