import Mathlib.Data.List.Infix
import PowerTelemetry.Proofs.Search.Pieces
import PowerTelemetry.Proofs.Text.Lowercase
import PowerTelemetry.Proofs.Writer.Replacements
/-!
# Rejected statements that quote a sample

A server that rejects a statement says why in a text, which often quotes a name or
a value of the sample.  Whether the connection is gone is looked for in the same
text.

* `mentionsClosing_of_part`: what a part of a text mentions is mentioned in the
  text.
* `isConnectionClosed_statement`: what the server says of a statement counts by its
  own text alone.
* `rejections_shown` says which rejections a writer takes for a connection that is
  gone, and `not_kept_quoted` is one that quotes the name of a column.
-/

namespace PowerTelemetry

open Store (Work Handle Server Exchange Operation)

/-! ## Texts that mention a closed connection -/

namespace DatabaseError

/-- A text mentions it in its characters lowered one by one. -/
theorem mentionsClosing_iff (text : String) :
    mentionsClosing text = true ↔
      "conn closed".toList <:+: text.toList.flatMap Text.lowerAlone ∨
        "connection closed".toList <:+: text.toList.flatMap Text.lowerAlone := by
  simp only [mentionsClosing, Bool.or_eq_true, Search.occurs_iff_infix, Text.lowercase,
    String.toList_ofList]
  exact or_congr (Text.infix_lowerAfter_iff (by decide) _ _)
    (Text.infix_lowerAfter_iff (by decide) _ _)

/-- What a part of a text mentions is mentioned in the text. -/
theorem mentionsClosing_of_part {part text : String} (h : part.toList <:+: text.toList)
    (hpart : mentionsClosing part = true) : mentionsClosing text = true := by
  rw [mentionsClosing_iff] at hpart ⊢
  have hlowered := h.flatMap Text.lowerAlone
  exact hpart.imp (·.trans hlowered) (·.trans hlowered)

/-- The words in front of what the server says. -/
def statementWords : List Char :=
  "error returned from database: ".toList

theorem lowered_statementWords : statementWords.flatMap Text.lowerAlone = statementWords := by
  decide +kernel

/-- None of the last words in front agrees with the words for a closed connection. -/
theorem statementWords_apart :
    ∀ run ∈ ["conn closed".toList, "connection closed".toList], ∀ tail ∈ statementWords.tails,
      tail ≠ [] → ¬run <+: tail ∧ ¬tail <+: run := by
  decide +kernel

/-- What the server says of a statement counts by its own text alone. -/
theorem isConnectionClosed_statement (code : Option String) (text : String) :
    (statement code text).isConnectionClosed = mentionsClosing text := by
  have hmessage : (statement code text).message.toList = statementWords ++ text.toList :=
    String.toList_append
  -- neither of the two runs can start in the words in front
  have hconn := statementWords_apart _ List.mem_cons_self
  have hconnection := statementWords_apart _ (List.mem_cons_of_mem _ List.mem_cons_self)
  refine Bool.eq_iff_iff.mpr ?_
  change mentionsClosing (statement code text).message = true ↔ _
  rw [mentionsClosing_iff, mentionsClosing_iff, hmessage, List.flatMap_append,
    lowered_statementWords, Search.infix_append_iff hconn, Search.infix_append_iff hconnection]

end DatabaseError

/-! ## Rejections -/

namespace Writer

open DatabaseError (mentionsClosing)

/-- What a server says of a statement, under any code but that of a table that is there already,
is taken for a connection that is gone exactly if its text mentions one.  A store with such a
statement fails, and the writer replaces its connection then, and otherwise keeps its handle and
what it knows of all other tables.  A text mentions whatever a text that it quotes does. -/
theorem rejections_shown {σ : Type} (server : Server σ) :
    (∀ handle operation s code text, code ≠ some StoreError.duplicateTable →
      server.report? handle operation s = some (.statement code text) →
      ∃ error, server.Fails handle operation s error ∧
        (error.isConnectionClosed ↔ mentionsClosing text)) ∧
    (∀ (w : Writer) destination sample s handle operation code text,
      code ≠ some StoreError.duplicateTable →
      .performed handle operation (some (.statement code text))
        ∈ server.exchanges (w.store destination sample) s →
      let exchanges := server.exchanges (w.store destination sample) s
      let r := ((w.store destination sample).run server.backend s).1
      (∃ error, r.1 = .error error ∧ (error.isConnectionClosed ↔ mentionsClosing text)) ∧
        (r.2.Replaced handle exchanges ↔ mentionsClosing text) ∧
        (¬mentionsClosing text → w.Kept handle destination exchanges r.2)) ∧
    ∀ quoted text : String, quoted.toList <:+: text.toList → mentionsClosing quoted →
      mentionsClosing text := by
  have hother {code : Option String} (text : String)
      (hcode : code ≠ some StoreError.duplicateTable) :
      (DatabaseError.statement code text).code? ≠ some StoreError.duplicateTable := hcode
  have hclosed (operation : Operation) {code : Option String} (text : String)
      (hcode : code ≠ some StoreError.duplicateTable) :
      (operation.failure (.statement code text)).isConnectionClosed = mentionsClosing text :=
    (operation.isConnectionClosed_failure (hother text hcode)).trans
      (DatabaseError.isConnectionClosed_statement code text)
  refine ⟨fun handle operation s code text hcode h => ?_,
    fun w destination sample s handle operation code text hcode hperformed => ?_,
    fun quoted text h => DatabaseError.mentionsClosing_of_part h⟩
  · exact ⟨_, Server.fails_of_report h, by rw [hclosed operation text hcode]⟩
  · obtain ⟨-, hresult, hconnection⟩ :=
      store_of_report server s destination sample (hother text hcode) hperformed
    rw [DatabaseError.isConnectionClosed_statement] at hconnection
    exact ⟨⟨_, hresult, by rw [hclosed operation text hcode]⟩, hconnection⟩

/-- A device that says whether its connection is closed, in words. -/
private def wordy : Sample :=
  ⟨"HW51", ⟨0, 0⟩, Dict.ofList [("connection closed", .text "no")]⟩

/-- What a server says whose column of that name has whole numbers. -/
private def mismatched : DatabaseError :=
  .statement (some "42804")
    "column \"eco_connection closed\" is of type bigint but expression is of type text"

/-- A server that says so. -/
private def numeric : Server Unit :=
  refusing mismatched

/-- A writer that knows the column. -/
private def acquainted : Writer :=
  ⟨some ⟨0⟩, Reconciler.empty.learn "plug" ["eco_connection closed"], Counters.empty⟩

/-- The writer's one statement is rejected. -/
private theorem performed_wordy :
    .performed ⟨0⟩ (.change (insertion "plug" wordy (Column.inferAll wordy.attributes)))
        (some mismatched)
      ∈ numeric.exchanges (acquainted.store "plug" wordy) () := by
  decide +kernel

/-- The server quotes the name of the column. -/
private theorem infix_mismatched : "eco_connection closed".toList <:+:
    "column \"eco_connection closed\" is of type bigint but expression is of type text".toList :=
  ⟨"column \"".toList, "\" is of type bigint but expression is of type text".toList, by
    decide +kernel⟩

/-- A rejection that quotes a plain name leaves the writer its handle and what it knows of other
tables.  One that quotes the words for a closed connection has the connection replaced. -/
theorem rejections_shown_refusing :
    (∃ error, (refusing miscast).Fails ⟨0⟩ (.columns "plug") () error ∧
        ¬error.isConnectionClosed) ∧
      informed.Kept ⟨0⟩ "plug" ((refusing miscast).exchanges (informed.store "plug" unsure) ())
        ((informed.store "plug" unsure).run (refusing miscast).backend ()).1.2 ∧
      ((acquainted.store "plug" wordy).run numeric.backend ()).1.2.Replaced ⟨0⟩
        (numeric.exchanges (acquainted.store "plug" wordy) ()) := by
  have hsilent : ¬mentionsClosing
      "column \"eco_power\" is of type bigint but expression is of type text" := by
    decide +kernel
  obtain ⟨hfails, hstores, -⟩ := rejections_shown (refusing miscast)
  obtain ⟨error, herror, hshown⟩ :=
    hfails ⟨0⟩ (.columns "plug") () (some "42804") _ (by decide) rfl
  obtain ⟨-, -, hkept⟩ := hstores informed "plug" unsure () _ _ _ _ (by decide)
    (performed_refusing miscast (by decide))
  obtain ⟨-, hstores, hquoted⟩ := rejections_shown numeric
  obtain ⟨-, hreplaced, -⟩ := hstores acquainted "plug" wordy () _ _ _ _ (by decide)
    performed_wordy
  exact ⟨⟨error, herror, mt hshown.mp hsilent⟩, hkept hsilent,
    hreplaced.mpr (hquoted _ _ infix_mismatched (by decide +kernel))⟩

/-- The texts of a sample on its way to a destination: the name of its table, the names of its
columns, and the texts among its values. -/
def textsOf (destination : String) (sample : Sample) : List String :=
  destination :: (Column.inferAll sample.attributes).names ++
    sample.attributes.entries.filterMap fun e =>
      match e.2 with
      | .text text => some text
      | _ => none

/-- The code is of the classes for wrong data, for broken constraints and for statements that do not
go with the tables. -/
def isDataCode (code : String) : Bool :=
  [['2', '2'], ['2', '3'], ['4', '2']].contains (code.toList.take 2)

/-- A statement that is rejected because of the kind of a value has the connection replaced and
all that is known forgotten: the server quotes the name of the column. -/
theorem not_kept_quoted :
    ((acquainted.store "plug" wordy).run numeric.backend ()).1.2.Replaced ⟨0⟩
        (numeric.exchanges (acquainted.store "plug" wordy) ()) ∧
      ¬∀ (server : Server Unit) (w : Writer) destination sample handle operation code text quoted,
        quoted ∈ textsOf destination sample → quoted.toList <:+: text.toList →
        isDataCode code → code ≠ StoreError.duplicateTable →
        .performed handle operation (some (.statement (some code) text))
          ∈ server.exchanges (w.store destination sample) () →
        let r := ((w.store destination sample).run server.backend ()).1
        (∃ error, r.1 = .error error ∧ error.isConnectionClosed = false) ∧
          w.Kept handle destination (server.exchanges (w.store destination sample) ()) r.2 := by
  have hclosed : mismatched.isConnectionClosed = true :=
    (DatabaseError.isConnectionClosed_statement _ _).trans
      (DatabaseError.mentionsClosing_of_part infix_mismatched (by decide +kernel))
  obtain ⟨-, -, hreplaced, -⟩ :=
    store_of_report numeric () "plug" wordy (by decide) performed_wordy
  refine ⟨hreplaced.mpr hclosed, fun hall => ?_⟩
  have hkept := (hall numeric acquainted "plug" wordy ⟨0⟩ _ "42804" _ "eco_connection closed"
    (by decide +kernel) infix_mismatched (by decide) (by decide) performed_wordy).2
  exact hkept.not_replaced "plug" (hreplaced.mpr hclosed)

end Writer

end PowerTelemetry
