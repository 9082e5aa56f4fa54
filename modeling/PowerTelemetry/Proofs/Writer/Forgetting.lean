import PowerTelemetry.Proofs.Writer.Delivery
import PowerTelemetry.Visit
/-!
# Knowledge makes no difference

What a writer knows of the tables saves it calls that create and adapt them, and
nothing else.

`Alike` says of two writers, each in its scene, that they differ in what they know
only, and the scenes in the numbers of creates and adapts only.  It is kept by
each part of a store (`Alike.attempt`, `Alike.conclude`), by a whole visit, which
has one result then (`Alike.visit`), and by forgetting (`Alike.forget`).  So a
writer that forgets all it knows before each store has the results of one that
never does (`visits_forget`).
-/

namespace PowerTelemetry

open Store (Work Memory Handle Scene)

/-- Nobody arranges a failure of a change of columns meanwhile. -/
def Visit.Plain (v : Visit) : Prop :=
  ∀ act ∈ v.during ++ v.after, ∀ error, act.2 ≠ .failSchemaChange error

namespace Writer

variable {request : StoreRequest} {w w' : Writer} {s s' : Scene}

/-- Two writers in their scenes that differ in what they know, which is true, and
in the numbers of creates and adapts. -/
structure Alike (w w' : Writer) (s s' : Scene) : Prop where
  handle : w.handle = w'.handle
  counters : w.counters = w'.counters
  truthful : w.known.Truthful s.store
  truthful' : w'.known.Truthful s'.store
  plain : s.Plain
  scene : s.uncounted = s'.uncounted

/-! ## The attempt -/

/-- A delivery leaves columns free to be changed. -/
theorem Delivers.plain {r : (Except StoreError Unit × Writer) × Scene}
    (h : Delivers request w s r) (hs : s.Plain) : r.2.Plain := by
  have hprovided : ((s.upTo .create).provide request.destination request.columns).Plain :=
    ⟨(hs.upTo .create).failures, (hs.upTo .create).plan⟩
  have hdelivered : (s.deliver request).2.Plain :=
    hprovided.call (f := fun m => m.change request.insertion)
      (fun m => Memory.schemaFailures_insert m _ _ _) .insert
  exact hdelivered.congr h.scene.symm

/-- Deliveries in scenes that are alike. -/
theorem Delivers.alike {r r' : (Except StoreError Unit × Writer) × Scene}
    (hr : Delivers request w s r) (hr' : Delivers request w' s' r') (h : Alike w w' s s') :
    r.1.1 = r'.1.1 ∧ Alike r.1.2 r'.1.2 r.2 r'.2 := by
  have hprovided := Scene.provide_congr (Scene.upTo_congr h.scene .create)
    request.destination request.columns
  obtain ⟨hresult, hscene⟩ := Scene.call_congr (f := fun m => m.change request.insertion)
    (change_insertion_uncounted request) (Scene.upTo_congr hprovided .insert)
  refine ⟨?_, ?_, ?_, hr.truthful, hr'.truthful, hr.plain h.plain, ?_⟩
  · exact hr.result.trans (hresult.trans hr'.result.symm)
  · rw [hr.handle, hr'.handle, h.handle]
  · rw [hr.counters, hr'.counters, h.counters]
  · exact hr.scene.trans (hscene.trans hr'.scene.symm)

/-- Stores through one handle. -/
theorem Alike.storeThrough (h : Alike w w' s s') (request : StoreRequest) (handle : Handle) :
    let r := (w.storeThrough handle request.destination request.sample).run Scene.backend s
    let r' := (w'.storeThrough handle request.destination request.sample).run Scene.backend s'
    r.1.1 = r'.1.1 ∧ Alike r.1.2 r'.1.2 r.2 r'.2 :=
  (delivers_storeThrough request handle h.plain h.truthful).alike
    (delivers_storeThrough request handle (h.plain.congr h.scene) h.truthful') h

/-- Connecting answers alike and changes nothing else. -/
theorem Alike.connect (h : Alike w w' s s') :
    (Scene.backend.connect s).1 = (Scene.backend.connect s').1 ∧
      Alike w w' (Scene.backend.connect s).2 (Scene.backend.connect s').2 := by
  obtain ⟨hanswer, hscene⟩ :=
    Scene.call_congr Memory.connect_uncounted (Scene.upTo_congr h.scene .connect)
  have hgrows : ∀ m : Memory, m.Grows m.connect.2 :=
    fun m => Memory.Grows.of_tables_eq (Memory.tables_connect m)
  exact ⟨hanswer, h.handle, h.counters, h.truthful.mono (Scene.grows_call hgrows s .connect),
    h.truthful'.mono (Scene.grows_call hgrows s' .connect),
    h.plain.call Memory.schemaFailures_connect .connect, hscene⟩

theorem Alike.attempt (h : Alike w w' s s') (request : StoreRequest) :
    let r := (w.attempt request.destination request.sample).run Scene.backend s
    let r' := (w'.attempt request.destination request.sample).run Scene.backend s'
    r.1.1 = r'.1.1 ∧ Alike r.1.2 r'.1.2 r.2 r'.2 := by
  rw [Writer.attempt, Writer.attempt, ← h.handle]
  cases w.handle with
  | some handle => exact h.storeThrough request handle
  | none =>
    obtain ⟨hanswer, hconnected⟩ := h.connect
    simp only [Work.run_bind, Work.run_connected]
    rw [← hanswer]
    cases (Scene.backend.connect s).1 with
    | error error => exact ⟨rfl, hconnected⟩
    | ok handle =>
      have hopened : Alike ⟨some handle, w.known, w.counters⟩ ⟨some handle, w'.known, w'.counters⟩
          (Scene.backend.connect s).2 (Scene.backend.connect s').2 :=
        { hconnected with handle := rfl }
      exact hopened.storeThrough request handle

/-! ## The conclusion -/

theorem Alike.counted (h : Alike w w' s s') (destination : String)
    (result : Except StoreError Unit) :
    Alike (w.counted destination result) (w'.counted destination result) s s' := by
  cases result with
  | ok _ => exact { h with counters := congrArg (·.countInserted destination 1) h.counters }
  | error _ => exact { h with counters := congrArg (·.countFailed destination) h.counters }

theorem Alike.closeHandle (h : Alike w w' s s') :
    Alike w w' (w.closeHandle.run Scene.backend s).2 (w'.closeHandle.run Scene.backend s').2 := by
  rw [Writer.closeHandle, Writer.closeHandle, ← h.handle]
  cases w.handle with
  | none => exact h
  | some handle =>
    have hclosed := Scene.call_congr (f := fun m => ((), m.close)) (fun _ => rfl)
      (Scene.upTo_congr h.scene .close)
    have hgrows : ∀ m : Memory, m.Grows m.close :=
      fun m => Memory.Grows.of_tables_eq (Memory.tables_close m)
    exact
      { handle := h.handle
        counters := h.counters
        truthful := h.truthful.mono (Scene.grows_call (f := fun m => ((), m.close)) hgrows s .close)
        truthful' :=
          h.truthful'.mono (Scene.grows_call (f := fun m => ((), m.close)) hgrows s' .close)
        plain := h.plain.call (f := fun m => ((), m.close)) (fun _ => rfl) .close
        scene := hclosed.2 }

theorem Alike.reconnect (h : Alike w w' s s') :
    Alike (w.reconnect.run Scene.backend s).1 (w'.reconnect.run Scene.backend s').1
      (w.reconnect.run Scene.backend s).2 (w'.reconnect.run Scene.backend s').2 := by
  obtain ⟨hanswer, hconnected⟩ := h.closeHandle.connect
  rw [Writer.reconnect, Writer.reconnect]
  simp only [Work.run_bind, Work.run_connected]
  generalize (w.closeHandle.run Scene.backend s).2 = closed at hanswer hconnected ⊢
  generalize (w'.closeHandle.run Scene.backend s').2 = closed' at hanswer hconnected ⊢
  rw [← hanswer]
  cases (Scene.backend.connect closed).1 with
  | ok handle =>
    exact { hconnected with
      handle := rfl
      truthful := Reconciler.Truthful.empty _
      truthful' := Reconciler.Truthful.empty _ }
  | error error =>
    exact { hconnected with
      handle := rfl
      truthful := Reconciler.Truthful.empty _
      truthful' := Reconciler.Truthful.empty _ }

theorem Alike.conclude (h : Alike w w' s s') (destination : String)
    (result : Except StoreError Unit) :
    Alike ((w.conclude destination result).run Scene.backend s).1
      ((w'.conclude destination result).run Scene.backend s').1
      ((w.conclude destination result).run Scene.backend s).2
      ((w'.conclude destination result).run Scene.backend s').2 := by
  have hcounted := h.counted destination result
  rw [Writer.conclude, Writer.conclude]
  cases losesConnection result with
  | true => exact hcounted.reconnect
  | false => exact hcounted

/-! ## Visits -/

/-- The acts that are left happen, and others are planned. -/
theorem Alike.finish (h : Alike w w' s s') {plan : List (Store.Phase × Store.Disturbance)}
    (hplan : ∀ act ∈ plan, ∀ error, act.2 ≠ .failSchemaChange error) :
    Alike w w' ⟨s.finish, plan⟩ ⟨s'.finish, plan⟩ where
  handle := h.handle
  counters := h.counters
  truthful := h.truthful.mono s.grows_finish
  truthful' := h.truthful'.mono s'.grows_finish
  plain := ⟨h.plain.finish, hplan⟩
  scene := congrArg (Scene.mk · plan) (Scene.finish_congr h.scene)

/-- The same acts are planned for both. -/
theorem Alike.withPlan {m m' : Memory} (h : Alike w w' ⟨m, []⟩ ⟨m', []⟩)
    {plan : List (Store.Phase × Store.Disturbance)}
    (hplan : ∀ act ∈ plan, ∀ error, act.2 ≠ .failSchemaChange error) :
    Alike w w' ⟨m, plan⟩ ⟨m', plan⟩ :=
  h.finish hplan

theorem Alike.visit {m m' : Memory} (h : Alike w w' ⟨m, []⟩ ⟨m', []⟩) {v : Visit}
    (hv : v.Plain) :
    (w.visit v m).1 = (w'.visit v m').1 ∧
      Alike (w.visit v m).2.1 (w'.visit v m').2.1
        ⟨(w.visit v m).2.2, []⟩ ⟨(w'.visit v m').2.2, []⟩ := by
  have hduring : ∀ act ∈ v.during, ∀ error, act.2 ≠ .failSchemaChange error :=
    fun act hact => hv act (List.mem_append_left _ hact)
  have hafter : ∀ act ∈ v.after, ∀ error, act.2 ≠ .failSchemaChange error :=
    fun act hact => hv act (List.mem_append_right _ hact)
  obtain ⟨hresult, hattempted⟩ := (h.withPlan hduring).attempt v.request
  have hconcluded := (hattempted.finish hafter).conclude v.request.destination
    ((w.attempt v.request.destination v.request.sample).run Scene.backend ⟨m, v.during⟩).1.1
  rw [Writer.visit, Writer.visit, ← hresult]
  exact ⟨rfl, hconcluded.finish (by simp)⟩

/-- A writer that forgets is like one that does not. -/
theorem Alike.forget (h : Alike w w' s s') : Alike w w'.forget s s' :=
  { h with truthful' := Reconciler.Truthful.empty _ }

theorem Alike.visits {m m' : Memory} (h : Alike w w' ⟨m, []⟩ ⟨m', []⟩) {visits : List Visit}
    (hvisits : ∀ v ∈ visits, v.Plain) :
    (w.visits id visits m).1 = (w'.visits Writer.forget visits m').1 ∧
      Alike (w.visits id visits m).2.1 (w'.visits Writer.forget visits m').2.1
        ⟨(w.visits id visits m).2.2, []⟩ ⟨(w'.visits Writer.forget visits m').2.2, []⟩ := by
  induction visits generalizing w w' m m' with
  | nil => exact ⟨rfl, h⟩
  | cons v rest ih =>
    -- Forgetting keeps the two alike, since the empty knowledge is true as well.
    obtain ⟨hresult, hnext⟩ := h.forget.visit (hvisits v List.mem_cons_self)
    obtain ⟨hresults, hlast⟩ := ih hnext fun u hu => hvisits u (List.mem_cons_of_mem _ hu)
    rw [Writer.visits, Writer.visits]
    exact ⟨congrArg₂ List.cons hresult hresults, hlast⟩

/-- A writer that forgets all it knows before each store has the results of one
that never does.  In the end both have counted the same and have the same handle,
and the stores in memory differ in the numbers of creates and adapts only. -/
theorem visits_forget (counters : Counters) (m : Memory) (visits : List Visit)
    (hm : m.schemaFailures = []) (hvisits : ∀ v ∈ visits, v.Plain) :
    let kept := (start counters).visits id visits m
    let forgotten := (start counters).visits Writer.forget visits m
    kept.1 = forgotten.1 ∧ kept.2.1.counters = forgotten.2.1.counters ∧
      kept.2.1.handle = forgotten.2.1.handle ∧ kept.2.2.uncounted = forgotten.2.2.uncounted := by
  have hstart : Alike (start counters) (start counters) ⟨m, []⟩ ⟨m, []⟩ :=
    ⟨rfl, rfl, Reconciler.Truthful.empty m, Reconciler.Truthful.empty m, ⟨hm, nofun⟩, rfl⟩
  obtain ⟨hresults, hlast⟩ := hstart.visits hvisits
  exact ⟨hresults, hlast.counters, hlast.handle, (Scene.mk.inj hlast.scene).1⟩

/-- A request for one table, with what a device reported. -/
private def gridRequest (watts : Value) : StoreRequest :=
  ⟨"grid", ⟨"HW51", ⟨0, 0⟩, Dict.ofList [("watts", watts)]⟩⟩

/-- Somebody is faster to create the table, the connection is lost at the second
store, and the third one brings a text for a column of numbers. -/
private def gridVisits : List Visit :=
  [⟨gridRequest (.integer 5), [(.create, .newTable "grid" [])], []⟩,
    ⟨gridRequest (.integer 6), [(.insert, .failInsert (.connectionClosed "reset by peer"))],
      [(.connect, .newTable "other" [])]⟩,
    ⟨gridRequest (.text "n/a"), [], []⟩,
    ⟨gridRequest (.integer 7), [], []⟩]

theorem visits_forget_gridVisits :
    let kept := (start Counters.empty).visits id gridVisits Memory.empty
    let forgotten := (start Counters.empty).visits Writer.forget gridVisits Memory.empty
    kept.2.2.calls.creates < forgotten.2.2.calls.creates ∧
      kept.1 = forgotten.1 ∧ kept.2.1.counters = forgotten.2.1.counters ∧
      kept.2.1.handle = forgotten.2.1.handle ∧
      kept.2.2.uncounted = forgotten.2.2.uncounted := by
  refine ⟨by decide +kernel, visits_forget Counters.empty Memory.empty gridVisits rfl ?_⟩
  intro v hv act hact error
  simp only [gridVisits, List.mem_cons, List.not_mem_nil, or_false] at hv
  rcases hv with rfl | rfl | rfl | rfl <;> simp at hact <;> grind

end Writer

end PowerTelemetry
