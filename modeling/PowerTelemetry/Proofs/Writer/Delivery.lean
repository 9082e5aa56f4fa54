import PowerTelemetry.Proofs.Store.Scenes
import PowerTelemetry.Proofs.Writer.Ensuring
import PowerTelemetry.Proofs.Writer.Storing
/-!
# What a store does, whatever the writer knows

A writer makes different calls when it knows a table, when it finds it there, and
when it creates it.  As long as no change of columns fails and what it knows is
true, all of them end alike: the table is provided with the columns of the sample
at the moment at which it would be created, and then the row is inserted.
`Scene.deliver` is this.

* `Ensured` says that the columns have been ensured.  It holds after each of the
  ways to do so: `ensured_grow`, `ensured_create` and `ensured_adopt`.
* `delivers_storeThrough` is the result: a store through a handle is a delivery,
  but for the numbers of creates and adapts.
-/

namespace PowerTelemetry

open Store (Work Memory Handle Scene Table)

/-- The columns of a sample have different names. -/
theorem StoreRequest.nodup_columns (request : StoreRequest) :
    (request.columns.map (·.name)).Nodup :=
  Column.nodup_ofCells request.cells

/-! ## Runs of the parts -/

section Runs

variable {σ : Type} (backend : Store.Backend σ) (handle : Handle) (s : σ)

/-- A store through a handle ensures the columns, and then inserts the row. -/
theorem Writer.run_storeThrough (w : Writer) (request : StoreRequest) :
    (w.storeThrough handle request.destination request.sample).run backend s
      = match (w.known.ensure handle request.destination request.columns).run backend s with
        | ((.error error, known), s) => ((.error error, w.withKnown known), s)
        | ((.ok _, known), s) =>
          (((backend.change handle request.insertion s).1, w.withKnown known),
            (backend.change handle request.insertion s).2) := by
  have hcolumns : request.columns
      = Column.ofCells (Column.inferAll request.sample.attributes) := rfl
  rw [storeThrough, hcolumns]
  simp only [Work.run_bind]
  rcases (w.known.ensure handle request.destination
    (Column.ofCells (Column.inferAll request.sample.attributes))).run backend s
      with ⟨⟨_ | _, _⟩, _⟩ <;> rfl

end Runs

/-! ## Deliveries -/

/-- The row of a request inserted into its table, which has the columns by then. -/
def Store.Scene.deliver (s : Scene) (request : StoreRequest) : Except StoreError Unit × Scene :=
  ((s.upTo .create).provide request.destination request.columns).call .insert
    fun m => m.change request.insertion

namespace Writer

variable {request : StoreRequest} {known : Reconciler} {s : Scene}

/-! ## Columns that are ensured -/

/-- The columns of a request have been ensured, by somebody who knows nothing
false.  When the row is inserted, the scene will be a certain one. -/
structure Ensured (scene : Scene)
    (r : (Except StoreError (List Column) × Reconciler) × Scene) : Prop where
  granted : ∃ added, r.1.1 = .ok added
  truthful : r.1.2.Truthful r.2.store
  scene : (r.2.upTo .insert).uncounted = scene.uncounted

/-- The columns that a table has are among those that it is known to have, or
missing. -/
theorem isSome_column?_of_not_missing {t : Table}
    (hcolumns : ∀ name, (known.columnsOf request.destination).contains name →
      (t.column? name).isSome) {c : Column}
    (hc : (!(known.columnsOf request.destination).contains c.name) = false) :
    (t.column? c.name).isSome :=
  hcolumns c.name (by simpa using hc)

/-- The missing columns of a known table are ensured. -/
theorem ensured_grow (request : StoreRequest) (handle : Handle) (hs : s.Plain)
    (hknown : known.Truthful s.store) (hk : known.isKnown request.destination) :
    Ensured ((s.upTo .insert).provide request.destination request.columns)
      ((known.grow handle request.destination request.columns).run Scene.backend s) := by
  obtain ⟨t, ht, hcolumns⟩ := hknown.exists_table hk
  have hnames := request.nodup_columns
  have hout : ∀ c ∈ request.columns, (!(known.columnsOf request.destination).contains c.name)
      = false → (t.column? c.name).isSome := fun _ _ hc => isSome_column?_of_not_missing hcolumns hc
  by_cases hmissing : known.missing request.destination request.columns = []
  · have hcomplete : ∀ c ∈ request.columns, (t.column? c.name).isSome := by
      have hall := (known.missing_eq_nil_iff _ _).mp hmissing
      exact fun c hc => hcolumns c.name (hall c hc)
    rw [Reconciler.run_grow_of_complete _ _ _ hmissing]
    refine ⟨⟨_, rfl⟩, hknown, ?_⟩
    have hsame := Memory.provide_of_complete (Scene.get?_upTo ht .insert) hnames hcomplete
    rw [Scene.provide, hsame]
  · -- The table is there when its columns are added, and what others do until the
    -- row is inserted does not touch it.
    have hthere := Scene.get?_upTo ht .adapt
    have hsame : (s.upTo .adapt).provide request.destination
        (known.missing request.destination request.columns)
          = (s.upTo .adapt).provide request.destination request.columns := by
      simp only [Scene.provide, Memory.provide, Memory.table_of_get? hthere, Reconciler.missing,
        t.addColumns_filter hnames hout]
    obtain ⟨hanswer, hscene⟩ := Scene.change_adapt_of_present handle hs ht
      (known.missing request.destination request.columns)
    rw [hsame] at hscene
    rw [Reconciler.run_grow _ _ _ hmissing]
    rcases hcall : Scene.backend.change handle _ s with ⟨answer, after⟩
    rw [hcall] at hanswer hscene
    obtain rfl : answer = .ok () := hanswer
    refine ⟨⟨_, rfl⟩, ?_, ?_⟩
    · have hgrows := (s.grows_upTo .adapt).trans
        (Memory.grows_provide _ request.destination request.columns)
      have hafter := hknown.mono
        (hgrows.trans (Memory.Grows.of_tables_eq (Scene.tables_congr hscene)))
      refine hafter.learnMore hk fun u hu name hname => ?_
      obtain ⟨c, hc, rfl⟩ := List.mem_map.mp hname
      rw [Scene.tables_congr hscene, Scene.provide, Memory.get?_provide] at hu
      obtain rfl := Option.some.inj hu
      exact Table.isSome_column?_addColumns _ (List.mem_filter.mp hc).1
    · have hprovided : ((s.upTo .adapt).provide request.destination request.columns).upTo .insert
          = (s.upTo .insert).provide request.destination request.columns := by
        rw [Scene.provide_upTo hthere, Scene.upTo_upTo (by decide)]
      rw [← hprovided]
      exact Scene.upTo_congr hscene .insert

/-- A table that is not there is created with the columns. -/
theorem ensured_create (handle : Handle) (hs : s.Plain) (hknown : known.Truthful s.store)
    (hk : known.isKnown request.destination = false)
    (habsent : (s.upTo .create).store.tables.get? request.destination = none) :
    Ensured (((s.upTo .create).provide request.destination request.columns).upTo .insert)
      ((known.ensure handle request.destination request.columns).run Scene.backend s) := by
  obtain ⟨hanswer, hscene⟩ :=
    Scene.change_create_of_absent handle hs request.nodup_columns habsent
  rw [Reconciler.run_ensure_of_unknown _ _ _ hk]
  rcases hcall : Scene.backend.change handle _ s with ⟨answer, after⟩
  rw [hcall] at hanswer hscene
  obtain rfl : answer = .ok () := hanswer
  refine ⟨⟨_, rfl⟩, ?_, Scene.upTo_congr hscene .insert⟩
  have hgrows := (s.grows_upTo .create).trans
    (Memory.grows_provide _ request.destination request.columns)
  have hafter := hknown.mono
    (hgrows.trans (Memory.Grows.of_tables_eq (Scene.tables_congr hscene)))
  have htable : after.store.tables.get? request.destination
      = some (((s.upTo .create).store.table request.destination).addColumns request.columns) := by
    rw [Scene.tables_congr hscene, Scene.provide, Memory.get?_provide]
  refine hafter.learn htable fun name hname => ?_
  obtain ⟨c, hc, rfl⟩ := List.mem_map.mp hname
  exact Table.isSome_column?_addColumns _ hc

/-- The columns of a table that is there already are read, and the missing ones
added. -/
theorem ensured_adopt (handle : Handle) (hs : s.Plain) (hknown : known.Truthful s.store)
    (hk : known.isKnown request.destination = false) {t : Table}
    (ht : (s.upTo .create).store.tables.get? request.destination = some t) :
    Ensured ((s.upTo .insert).provide request.destination request.columns)
      ((known.ensure handle request.destination request.columns).run Scene.backend s) := by
  obtain ⟨hanswer, hscene⟩ := Scene.change_create_of_present handle hs ht request.columns
  rw [Reconciler.run_ensure_of_unknown _ _ _ hk]
  rcases hcall : Scene.backend.change handle _ s with ⟨answer, after⟩
  rw [hcall] at hanswer hscene
  obtain rfl : answer = .error (.alreadyExists request.destination) := hanswer
  -- The failed create has changed nothing, so the columns that are read are those that
  -- the table had then, and what is known from here on is true.
  have hthere : (after.upTo .read).store.tables.get? request.destination = some t := by
    refine Scene.get?_upTo ?_ .read
    rw [Scene.tables_congr hscene, ht]
  have hnames : (after.upTo .read).store.columnNames request.destination
      = t.columns.map (·.name) := by
    rw [Memory.columnNames, hthere]
  have htruthful : (known.learn request.destination (t.columns.map (·.name))).Truthful
      (after.upTo .read).store := by
    have hgrows := (s.grows_upTo .create).trans
      ((Memory.Grows.of_tables_eq (Scene.tables_congr hscene)).trans (after.grows_upTo .read))
    refine (hknown.mono hgrows).learn hthere fun name hname => ?_
    obtain ⟨c, hc, rfl⟩ := List.mem_map.mp hname
    exact Table.isSome_column?_of_mem hc
  have hplain : (after.upTo .read).Plain := ((hs.upTo .create).congr hscene.symm).upTo .read
  have hgrown := ensured_grow request handle hplain htruthful (known.isKnown_learn _ _)
  rw [← hnames] at hgrown
  refine ⟨hgrown.granted, hgrown.truthful, hgrown.scene.trans (Scene.provide_congr ?_ _ _)⟩
  rw [Scene.upTo_upTo (by decide), Scene.upTo_congr hscene .insert, Scene.upTo_upTo (by decide)]

/-- Whatever is known, the columns are ensured alike. -/
theorem ensured_ensure (request : StoreRequest) (handle : Handle) (hs : s.Plain)
    (hknown : known.Truthful s.store) :
    Ensured (((s.upTo .create).provide request.destination request.columns).upTo .insert)
      ((known.ensure handle request.destination request.columns).run Scene.backend s) := by
  have hpresent : ∀ t, (s.upTo .create).store.tables.get? request.destination = some t →
      ((s.upTo .create).provide request.destination request.columns).upTo .insert
        = (s.upTo .insert).provide request.destination request.columns := by
    intro t ht
    rw [Scene.provide_upTo ht, Scene.upTo_upTo (by decide)]
  cases hk : known.isKnown request.destination with
  | true =>
    obtain ⟨t, ht, _⟩ := hknown.exists_table hk
    rw [Reconciler.ensure_of_known _ hk, hpresent t (Scene.get?_upTo ht .create)]
    exact ensured_grow request handle hs hknown hk
  | false =>
    cases ht : (s.upTo .create).store.tables.get? request.destination with
    | none => exact ensured_create handle hs hknown hk ht
    | some t =>
      rw [hpresent t ht]
      exact ensured_adopt handle hs hknown hk ht

/-! ## The row is inserted -/

/-- A store that was a delivery: its result, the writer but for what it knows, and
the scene but for the numbers of creates and adapts. -/
structure Delivers (request : StoreRequest) (w : Writer) (s : Scene)
    (r : (Except StoreError Unit × Writer) × Scene) : Prop where
  result : r.1.1 = (s.deliver request).1
  handle : r.1.2.handle = w.handle
  counters : r.1.2.counters = w.counters
  truthful : r.1.2.known.Truthful r.2.store
  scene : r.2.uncounted = (s.deliver request).2.uncounted

theorem change_insertion_uncounted (request : StoreRequest) (m : Memory) :
    m.uncounted.change request.insertion
      = ((m.change request.insertion).1, (m.change request.insertion).2.uncounted) :=
  Memory.insert_uncounted m _ _ _

/-- A store through a handle is a delivery. -/
theorem delivers_storeThrough {w : Writer} (request : StoreRequest) (handle : Handle)
    (hs : s.Plain) (hw : w.known.Truthful s.store) :
    Delivers request w s
      ((w.storeThrough handle request.destination request.sample).run Scene.backend s) := by
  have hensured := ensured_ensure request handle hs hw
  rw [run_storeThrough]
  generalize (w.known.ensure handle request.destination request.columns).run Scene.backend s = r
    at hensured ⊢
  obtain ⟨⟨answer, known⟩, after⟩ := r
  obtain ⟨⟨added, hadded⟩, htruthful, hscene⟩ := hensured
  obtain rfl : answer = .ok added := hadded
  obtain ⟨hresult, hlast⟩ := Scene.call_congr (f := fun m => m.change request.insertion)
    (change_insertion_uncounted request) hscene
  have hgrows := Scene.grows_call (f := fun m => m.change request.insertion)
    (fun m => Memory.grows_change m request.insertion) after .insert
  exact ⟨hresult, rfl, rfl, htruthful.mono hgrows, hlast⟩

/-- A store through a handle is a delivery where nobody acts. -/
theorem delivers_of_calm {w : Writer} {m : Memory} (request : StoreRequest) (handle : Handle)
    (hm : m.schemaFailures = []) (hw : w.known.Truthful m) :
    let r := (w.storeThrough handle request.destination request.sample).run Memory.backend m
    Delivers request w ⟨m, []⟩ (r.1, ⟨r.2, []⟩) := by
  have hdelivers := delivers_storeThrough request handle (Scene.plain_nil hm) hw
  rwa [Scene.run_nil] at hdelivers

end Writer

end PowerTelemetry
