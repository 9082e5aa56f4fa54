import PowerTelemetry.Proofs.Writer.Storing
/-!
# What a store answers

The store in memory refuses calls that name a table or a column it does not
have.  A writer whose knowledge is true never makes such a call.

* `Fits` lists what the store may answer of its own accord, without a failure
  that somebody has arranged: it grants the call, finds a table already there,
  or rejects a value that is of the wrong kind for its column.
* `Storing.answer_fits` says that every call of a store is answered so.
* `Sound` is what holds of a store in progress, `Sound.step` says that each call
  keeps it.
-/

namespace PowerTelemetry

open Store (Work Memory Change Table)

/-! ## Answers -/

namespace Store

/-- The answers to a call of which the caller is not to blame. -/
inductive Fits (m : Memory) : Change → Except StoreError Unit → Prop where
  | granted {c} : Fits m c (.ok ())
  /-- A table that is to be created is there. -/
  | present {table columns} (there : m.tables.contains table) :
      Fits m (.create table columns) (.error (.alreadyExists table))
  /-- A column that is there does not take a value of this kind. -/
  | rejected {table fields rows t c value} (there : m.tables.get? table = some t)
      (column : t.column? c.name = some c) (refused : accepts c.kind value = false) :
      Fits m (.insert table fields rows) (.error (.insert table (rejection c.name c.kind value)))

/-- An answer that fits goes on fitting while the store grows. -/
theorem Fits.mono {m n : Memory} {c : Change} {answer : Except StoreError Unit}
    (h : Fits m c answer) (hmn : m.Grows n) : Fits n c answer := by
  cases h with
  | granted => exact .granted
  | present there => exact .present (hmn.contains there)
  | rejected there column refused =>
    obtain ⟨u, hu, htu⟩ := hmn _ _ there
    exact .rejected hu (htu.column? column) refused

theorem Memory.grows_calm (m : Memory) : m.Grows m.calm :=
  Grows.of_tables_eq rfl

theorem Memory.pending_calm (m : Memory) : m.calm.pending = [] := rfl

end Store

namespace StoreRequest

/-- Each field of the row of a request is one of its columns. -/
theorem exists_column_of_mem_row {request : StoreRequest} {f : String × Sql.Datum}
    (h : f ∈ request.row.entries) : ∃ c ∈ request.columns, c.name = f.1 := by
  obtain ⟨e, he, rfl⟩ := List.mem_map.mp h
  exact ⟨⟨e.1, e.2.kind⟩, List.mem_map_of_mem he, rfl⟩

end StoreRequest

namespace Writer

variable {request : StoreRequest} {stage : Stage} {w : Writer} {m : Memory}
  {work : Work (Except StoreError Unit × Writer)}

/-- The insert of a request into a table that has all its columns fails by a
failure to come or by a value of the wrong kind. -/
theorem insertion_cases {t : Table} (ht : m.tables.get? request.destination = some t)
    (hcolumns : ∀ c ∈ request.columns, (t.column? c.name).isSome) :
    (∃ error ∈ m.insertFailures, (m.change request.insertion).1 = .error error) ∨
      Store.Fits m request.insertion (m.change request.insertion).1 := by
  show (∃ error ∈ m.insertFailures, (m.insert _ _ _).1 = .error error) ∨
    Store.Fits m request.insertion (m.insert _ _ _).1
  rcases Memory.insert_cases m request.destination (Sql.fields request.cells)
      [Sql.row request.sample.capturedAt request.cells] with
    ⟨error, hmem, he, _⟩ | ⟨hnone, _, _⟩ | ⟨t', reason, ht', hreason, he, _⟩ | ⟨_, _, _, _, he, _⟩
  · exact .inl ⟨error, hmem, he⟩
  · rw [ht] at hnone
    cases hnone
  · obtain rfl : t = t' := Option.some.inj (ht.symm.trans ht')
    rcases Table.stage_error (Table.checkRows_record_error hreason) with
      ⟨f, hf, hnone, _⟩ | ⟨f, _, c, hc, hrefused, rfl⟩
    · obtain ⟨c, hc, hname⟩ := StoreRequest.exists_column_of_mem_row hf
      have hsome := hcolumns c hc
      rw [hname, hnone] at hsome
      cases hsome
    · refine .inr ?_
      rw [he, ← Table.name_of_column? hc]
      rw [← Table.name_of_column? hc] at hc
      exact .rejected ht hc hrefused
  · exact .inr (he ▸ .granted)

/-- A known table has the columns that are not missing. -/
theorem exists_table_of_complete (hw : w.known.Truthful m)
    (hknown : w.known.isKnown request.destination)
    (hcomplete : w.known.missing request.destination request.columns = []) :
    ∃ t, m.tables.get? request.destination = some t ∧
      ∀ c ∈ request.columns, (t.column? c.name).isSome := by
  obtain ⟨t, ht, hcolumns⟩ := hw.exists_table hknown
  rw [Reconciler.missing_eq_nil_iff] at hcomplete
  exact ⟨t, ht, fun c hc => hcolumns c.name (hcomplete c hc)⟩

/-- A store makes no call that its caller is to blame for: a call fails by a
failure to come, or the answer fits. -/
theorem Storing.answer_fits {handle : Store.Handle} {c : Change}
    {next : Except StoreError Unit → Work (Except StoreError Unit × Writer)}
    (h : Storing request stage w (.change handle c next)) (hw : w.known.Truthful m) :
    (∃ error ∈ m.pending, (m.change c).1 = .error error) ∨ Store.Fits m c (m.change c).1 := by
  cases h with
  | creating created present failed =>
    rcases Memory.create_cases m request.destination request.columns with
      ⟨error, hmem, he, _⟩ | ⟨hthere, he, _⟩ | ⟨_, he, _⟩
    · exact .inl ⟨error, by simp [Memory.pending, hmem], he⟩
    · refine .inr ?_
      rw [Memory.change, he]
      exact .present hthere
    · refine .inr ?_
      rw [Memory.change, he]
      exact .granted
  | adapting known adapted failed =>
    obtain ⟨t, ht, _⟩ := hw.exists_table known
    rcases Memory.adapt_cases m request.destination
        (w.known.missing request.destination request.columns) with
      ⟨error, hmem, he, _⟩ | ⟨hnone, _, _⟩ | ⟨_, _, he, _⟩
    · exact .inl ⟨error, by simp [Memory.pending, hmem], he⟩
    · rw [ht] at hnone
      cases hnone
    · refine .inr ?_
      rw [Memory.change, he]
      exact .granted
  | inserting known complete answered =>
    obtain ⟨t, ht, hcolumns⟩ := exists_table_of_complete hw known complete
    rcases insertion_cases ht hcolumns with ⟨error, hmem, he⟩ | hfits
    · exact .inl ⟨error, by simp [Memory.pending, hmem], he⟩
    · exact .inr hfits

/-! ## Sound stores -/

/-- An error that a store may end with: one that somebody has arranged, or the
rejection of a value. -/
def Excused (injected : List StoreError) (m : Memory) (request : StoreRequest)
    (error : StoreError) : Prop :=
  error ∈ injected ∨ Store.Fits m request.insertion (.error error)

/-- A store in progress whose writer knows nothing that is false.  A table that
it has found to be there is there, and an error that it has ended with is
excused. -/
structure Sound (injected : List StoreError) (m : Memory) (request : StoreRequest)
    (stage : Stage) (w : Writer) (work : Work (Except StoreError Unit × Writer)) : Prop where
  storing : Storing request stage w work
  truthful : w.known.Truthful m
  present : stage = .adopting → m.tables.contains request.destination
  excused : ∀ error v, work = .done (.error error, v) → Excused injected m request error

variable {injected : List StoreError}

/-- A sound store stays sound while the store in memory grows. -/
theorem Sound.mono (h : Sound injected m request stage w work) {n : Memory} (hmn : m.Grows n) :
    Sound injected n request stage w work where
  storing := h.storing
  truthful := h.truthful.mono hmn
  present hstage := hmn.contains (h.present hstage)
  excused error v herror := (h.excused error v herror).imp_right fun hfits => hfits.mono hmn

/-- A store with a call to make is sound if its writer knows nothing false. -/
theorem Storing.sound_calling (h : Storing request .calling w work) (hw : w.known.Truthful m) :
    Sound injected m request .calling w work := by
  refine ⟨h, hw, nofun, fun error v herror => ?_⟩
  subst herror
  cases h

theorem sound_ok (hw : w.known.Truthful m) :
    Sound injected m request .over w (.done (.ok (), w)) :=
  ⟨.returned _, hw, nofun, nofun⟩

theorem sound_error (hw : w.known.Truthful m) {error : StoreError}
    (herror : Excused injected m request error) :
    Sound injected m request .over w (.done (.error error, w)) := by
  refine ⟨.returned _, hw, nofun, fun error' v hdone => ?_⟩
  obtain ⟨rfl, rfl⟩ : error = error' ∧ w = v := by simpa using hdone
  exact herror

section Calls

variable {next : Except StoreError Unit → Work (Except StoreError Unit × Writer)}
  (hw : w.known.Truthful m) (hpending : m.pending ⊆ injected)

include hw hpending

/-- A connect leaves the store sound. -/
theorem sound_connect
    {next : Except StoreError Store.Handle → Work (Except StoreError Unit × Writer)}
    (opened : ∀ handle, Storing request .calling (w.withHandle handle) (next (.ok handle)))
    (failed : ∀ error, next (.error error) = .done (.error error, w)) :
    ∃ stage w', Sound injected m.connect.2 request stage w' (next m.connect.1) := by
  have hw' := hw.mono (Memory.Grows.of_tables_eq (Memory.tables_connect m))
  rcases Memory.connect_cases m with ⟨error, hmem, he⟩ | ⟨handle, he⟩
  · have harranged : error ∈ injected := hpending (by simp [Memory.pending, hmem])
    rw [he, failed]
    exact ⟨.over, w, sound_error hw' (.inl harranged)⟩
  · rw [he]
    exact ⟨.calling, _, (opened handle).sound_calling hw'⟩

/-- A call that creates a table leaves the store sound. -/
theorem sound_create (hplain : ∀ table, StoreError.alreadyExists table ∉ injected)
    (created : Storing request .calling
      (w.withKnown (w.known.learn request.destination (request.columns.map (·.name))))
      (next (.ok ())))
    (present : ∀ table, Storing request .adopting w (next (.error (.alreadyExists table))))
    (failed : ∀ error, (∀ table, error ≠ .alreadyExists table) →
      next (.error error) = .done (.error error, w)) :
    ∃ stage w', Sound injected (m.create request.destination request.columns).2 request stage w'
      (next (m.create request.destination request.columns).1) := by
  have hgrows := Memory.grows_change m (.create request.destination request.columns)
  have hw' := hw.mono hgrows
  rcases Memory.create_cases m request.destination request.columns with
    ⟨error, hmem, he, _⟩ | ⟨hthere, he, _⟩ | ⟨_, he, htables⟩
  · have harranged : error ∈ injected := hpending (by simp [Memory.pending, hmem])
    have hother : ∀ table, error ≠ .alreadyExists table := by
      rintro table rfl
      exact hplain table harranged
    rw [he, failed error hother]
    exact ⟨.over, w, sound_error hw' (.inl harranged)⟩
  · rw [he]
    refine ⟨.adopting, w, present _, hw', fun _ => hgrows.contains hthere, fun error v herror => ?_⟩
    have hadopting := present request.destination
    rw [herror] at hadopting
    cases hadopting
  · rw [he]
    refine ⟨.calling, _, created.sound_calling ?_⟩
    refine hw'.learn (t := ⟨request.columns, []⟩) ?_ fun name hname => ?_
    · show (m.create _ _).2.tables.get? request.destination = _
      rw [htables, Dict.get?_insert_self]
    · obtain ⟨c, hc, rfl⟩ := List.mem_map.mp hname
      exact Table.isSome_column?_of_mem hc

/-- A call that adds the missing columns leaves the store sound. -/
theorem sound_adapt (known : w.known.isKnown request.destination)
    (adapted : Storing request .calling
      (w.withKnown (w.known.learnMore request.destination
        ((w.known.missing request.destination request.columns).map (·.name))))
      (next (.ok ())))
    (failed : ∀ error, next (.error error) = .done (.error error, w)) :
    ∃ stage w', Sound injected
      (m.adapt request.destination (w.known.missing request.destination request.columns)).2
      request stage w'
      (next (m.adapt request.destination
        (w.known.missing request.destination request.columns)).1) := by
  have hgrows := Memory.grows_change m
    (.adapt request.destination (w.known.missing request.destination request.columns))
  have hw' := hw.mono hgrows
  rcases Memory.adapt_cases m request.destination
      (w.known.missing request.destination request.columns) with
    ⟨error, hmem, he, _⟩ | ⟨hnone, _, _⟩ | ⟨t, _, he, htables⟩
  · have harranged : error ∈ injected := hpending (by simp [Memory.pending, hmem])
    rw [he, failed]
    exact ⟨.over, w, sound_error hw' (.inl harranged)⟩
  · obtain ⟨t, ht, _⟩ := hw.exists_table known
    rw [ht] at hnone
    cases hnone
  · rw [he]
    refine ⟨.calling, _, adapted.sound_calling ?_⟩
    refine hw'.learnMore known fun u hu name hname => ?_
    obtain ⟨c, hc, rfl⟩ := List.mem_map.mp hname
    have hget : (m.adapt _ _).2.tables.get? request.destination = some u := hu
    rw [htables, Dict.get?_insert_self] at hget
    obtain rfl := Option.some.inj hget
    exact t.isSome_column?_addColumns hc

/-- A call that inserts the row ends the store, which is sound then. -/
theorem sound_insert (known : w.known.isKnown request.destination)
    (complete : w.known.missing request.destination request.columns = [])
    (answered : ∀ answer, next answer = .done (answer, w)) :
    ∃ stage w', Sound injected (m.change request.insertion).2 request stage w'
      (next (m.change request.insertion).1) := by
  have hgrows := Memory.grows_change m request.insertion
  have hw' := hw.mono hgrows
  obtain ⟨t, ht, hcolumns⟩ := exists_table_of_complete hw known complete
  rw [answered]
  refine ⟨.over, w, ?_⟩
  cases hanswer : (m.change request.insertion).1 with
  | ok _ => exact sound_ok hw'
  | error error =>
    refine sound_error hw' ?_
    rcases insertion_cases ht hcolumns with ⟨error', hmem, he⟩ | hfits
    · rw [hanswer] at he
      obtain rfl := Except.error.inj he
      exact .inl (hpending (by simp [Memory.pending, hmem]))
    · rw [hanswer] at hfits
      exact .inr (hfits.mono hgrows)

end Calls

/-- Every call of a store keeps it sound. -/
theorem Sound.step (h : Sound injected m request stage w work) (hbusy : stage ≠ .over)
    (hpending : m.pending ⊆ injected)
    (hplain : ∀ table, StoreError.alreadyExists table ∉ injected) :
    ∃ stage' w', Sound injected (work.step Memory.backend m).2 request stage' w'
      (work.step Memory.backend m).1 := by
  obtain ⟨hstoring, hw, hpresent, _⟩ := h
  cases hstoring with
  | connecting opened failed => exact sound_connect hw hpending opened failed
  | creating created present failed => exact sound_create hw hpending hplain created present failed
  | reading read failed =>
    obtain ⟨t, ht⟩ := Memory.exists_table_of_contains (hpresent rfl)
    refine ⟨.calling, _, (read _).sound_calling (hw.learn ht fun name hname => ?_)⟩
    rw [Memory.columnNames, ht] at hname
    obtain ⟨c, hc, rfl⟩ := List.mem_map.mp hname
    exact Table.isSome_column?_of_mem hc
  | adapting known adapted failed => exact sound_adapt hw hpending known adapted failed
  | inserting known complete answered => exact sound_insert hw hpending known complete answered
  | returned result => exact absurd rfl hbusy

end Writer

end PowerTelemetry
