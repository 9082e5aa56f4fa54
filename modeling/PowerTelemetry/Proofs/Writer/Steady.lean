import PowerTelemetry.Proofs.Column.Kinds
import PowerTelemetry.Proofs.Writer.Effect
import PowerTelemetry.Visit
/-!
# Stores of steady kinds

Where the name of a column decides its kind for all requests to a table, no value
ever meets a column of another kind.  `Writer.Steady` is what a store keeps then
(`Steady.store`), and `Steady.visits` follows it through any number of requests:
all are stored, and the table gets their rows in order.
-/

namespace PowerTelemetry

open Store (Work Memory Table)

variable {kind : String → ColumnKind}

/-! ## Kinds by names -/

/-- Each column of a table has the kind of its name. -/
def Store.Table.Steady (kind : String → ColumnKind) (t : Table) : Prop :=
  ∀ c ∈ t.columns, c.kind = kind c.name

theorem Store.Memory.rows_table (m : Memory) (name : String) :
    (m.table name).rows = m.rows name := by
  rw [Memory.table, Memory.rows]
  cases m.tables.get? name <;> rfl

namespace StoreRequest

/-- Each column of a request has the kind of its name, and the values fit. -/
structure Steady (kind : String → ColumnKind) (r : StoreRequest) : Prop where
  kinds : ∀ c ∈ r.columns, c.kind = kind c.name
  fits : ∀ a ∈ r.sample.attributes.entries, a.2.Fits

variable {r : StoreRequest} {t : Table}

/-- No value is refused. -/
theorem Steady.refused?_eq_none (h : r.Steady kind) (ht : t.Steady kind) : r.refused? t = none := by
  rw [refused?_eq_none_iff]
  intro e he
  have hcolumn : e.2.kind = kind e.1 := h.kinds ⟨e.1, e.2.kind⟩ (List.mem_map.mpr ⟨e, he, rfl⟩)
  have hkind : t.kindOr e.1 e.2.kind = e.2.kind := by
    rw [Table.kindOr]
    cases hfound : t.column? e.1 with
    | none => rfl
    | some c =>
      have hname : c.name = e.1 := Table.name_of_column? hfound
      have hc : c.kind = kind c.name := ht c (List.mem_of_find?_eq_some hfound)
      rw [Option.map_some, Option.getD_some, hc, hname, hcolumn]
  rw [hkind]
  exact Column.accepts_inferAll h.fits r.sample.capturedAt he

theorem Steady.answer_eq (h : r.Steady kind) (ht : t.Steady kind) : r.answer t = .ok () := by
  rw [answer, h.refused?_eq_none ht]

theorem Steady.rows_effect (h : r.Steady kind) (ht : t.Steady kind) :
    (r.effect t).rows = t.rows ++ [r.row] := by
  rw [effect, h.refused?_eq_none ht]
  rfl

/-- New columns have the kinds of their names too. -/
theorem Steady.effect (h : r.Steady kind) (ht : t.Steady kind) : (r.effect t).Steady kind := by
  intro c hc
  rcases List.mem_append.mp hc with hold | hnew
  · exact ht c hold
  · exact h.kinds c (List.mem_filter.mp hnew).1

end StoreRequest

namespace Writer

/-! ## Knowledge after a store -/

theorem Reconnecting.known_run {σ : Type} {w : Writer} {work : Work Writer}
    (h : Reconnecting w work) (backend : Store.Backend σ) (s : σ) :
    (work.run backend s).1.known = Reconciler.empty := by
  induction h generalizing s with
  | closing closed ih => exact ih _
  | connecting answered =>
    obtain ⟨handle, hdone⟩ := answered (backend.connect s).1
    rw [Work.run, hdone]
    rfl
  | replaced handle => rfl

variable {w : Writer} {m : Memory}

/-- Concluding adds nothing false to what is known. -/
theorem truthful_conclude (h : w.known.Truthful m) (destination : String)
    (result : Except StoreError Unit) :
    let r := (w.conclude destination result).run Memory.backend m
    r.1.known.Truthful r.2 := by
  intro r
  have hgrows : m.Grows r.2 := .of_tables_eq (tables_conclude w destination result m)
  refine Reconciler.Truthful.mono ?_ hgrows
  show ((w.conclude destination result).run Memory.backend m).1.known.Truthful m
  rw [conclude]
  cases losesConnection result with
  | true =>
    have hempty := (reconnecting_reconnect (w.counted destination result)).known_run
      Memory.backend m
    rw [if_pos rfl, hempty]
    exact Reconciler.Truthful.empty m
  | false =>
    rw [if_neg (by decide), Work.run_pure, Worker.known_counted]
    exact h

/-- A writer that knows nothing false knows nothing false after a store, if no
failure is to come. -/
theorem truthful_store (hw : w.known.Truthful m) (hm : m.pending = []) (request : StoreRequest) :
    let r := (w.store request.destination request.sample).run Memory.backend m
    r.1.2.known.Truthful r.2 := by
  have hattempt := attempt_of_storeThrough (w := w) (P := fun a => a.1.2.known.Truthful a.2)
    request hm fun v handle n hknown hn hschema _ => by
      have htruthful : v.known.Truthful n := hknown ▸ hw.mono (Memory.Grows.of_tables_eq hn)
      exact (delivers_of_calm request handle hschema htruthful).truthful
  simp only [store, Work.run_bind, Work.run_pure]
  exact truthful_conclude hattempt _ _

/-! ## Steady stores -/

/-- Nothing can go wrong with requests to a table whose columns have these kinds:
the writer knows nothing false, no failure is to come, and the table is of these
kinds, if it is there. -/
structure Steady (kind : String → ColumnKind) (destination : String) (w : Writer) (m : Memory) :
    Prop where
  truthful : w.known.Truthful m
  calm : m.pending = []
  table : (m.table destination).Steady kind

/-- The row is stored, and nothing can go wrong afterwards. -/
theorem Steady.store {request : StoreRequest} (h : Steady kind request.destination w m)
    (hrequest : request.Steady kind) :
    let r := (w.store request.destination request.sample).run Memory.backend m
    r.1.1 = .ok () ∧ Steady kind request.destination r.1.2 r.2 ∧
      r.2.rows request.destination = m.rows request.destination ++ [request.row] := by
  obtain ⟨hanswer, htables⟩ := store_of_calm h.truthful h.calm request
  intro r
  have htable : r.2.table request.destination
      = request.effect (m.table request.destination) := by
    refine Memory.table_of_get? ?_
    rw [htables, Dict.get?_insert_self]
  have hcalm : r.2.pending = [] := List.subset_nil.mp (h.calm ▸ Memory.pending_run _ m)
  refine ⟨hanswer.trans (hrequest.answer_eq h.table), ⟨?_, hcalm, ?_⟩, ?_⟩
  · exact truthful_store h.truthful h.calm request
  · rw [htable]
    exact hrequest.effect h.table
  · rw [← Memory.rows_table, ← Memory.rows_table, htable, hrequest.rows_effect h.table]

/-- All requests are stored, and their rows follow one after another. -/
theorem Steady.visits {destination : String} (h : Steady kind destination w m)
    {requests : List StoreRequest} (hrequests : ∀ request ∈ requests,
      request.destination = destination ∧ request.Steady kind) :
    let r := w.visits id (requests.map fun request => ⟨request, [], []⟩) m
    r.1 = List.replicate requests.length (.ok ()) ∧
      r.2.2.rows destination = m.rows destination ++ requests.map StoreRequest.row := by
  induction requests generalizing w m with
  | nil => exact ⟨rfl, (List.append_nil _).symm⟩
  | cons request rest ih =>
    obtain ⟨rfl, hrequest⟩ := hrequests request List.mem_cons_self
    obtain ⟨hresult, hsteady, hrows⟩ := h.store hrequest
    obtain ⟨hresults, hlater⟩ := ih hsteady fun q hq => hrequests q (List.mem_cons_of_mem _ hq)
    simp only [List.map_cons, Writer.visits, id_eq, visit_nil]
    refine ⟨?_, ?_⟩
    · rw [hresult, hresults]
      rfl
    · rw [hlater, hrows, List.append_assoc]
      rfl

end Writer

end PowerTelemetry
