import Mathlib.Data.List.Induction
import Mathlib.Data.List.Nodup
import PowerTelemetry.Store.Log
import PowerTelemetry.Store.Memory
/-!
# One handle at a time

`Work.Orderly` says of work, call by call and for all answers, that it connects
only while it holds no handle, and that every other call goes through the handle
that it holds.  Such work composes (`Work.Orderly.bind`), and on any store its
log shows the handle that it ends with (`Work.Orderly.held?_run`).

In an orderly log every handle but the one that is held has been closed, in the
order in which they were opened (`openedHandles_eq`).  A store in memory counts
the handles that it gives and those that are closed (`Memory.Tallies.run`), and
gives none twice (`Memory.Tallies.nodup_opened`).
-/

namespace PowerTelemetry.Store

variable {α β σ : Type}

/-! ## Logs -/

theorem HandleUse.next?_used (handle : Handle) :
    (used handle).next? (some handle) = some (some handle) := by
  simp [next?]

theorem HandleUse.next?_closed (handle : Handle) :
    (closed handle).next? (some handle) = some none := by
  simp [next?]

/-- A log goes on with a use that is allowed. -/
theorem held?_concat_of_next? {log : List HandleUse} {use : HandleUse} {held last : Option Handle}
    (hlog : held? log = some held) (h : use.next? held = some last) :
    held? (log ++ [use]) = some last := by
  rw [held?_concat, hlog, Option.bind_some, h]

/-- A use that is allowed opens or closes what makes the difference between the
handles that are held before and after it. -/
theorem HandleUse.toList_next? {use : HandleUse} {before held : Option Handle}
    (h : use.next? before = some held) :
    before.toList ++ use.opened?.toList = use.closed?.toList ++ held.toList := by
  unfold HandleUse.next? at h
  split at h <;> grind [HandleUse.opened?, HandleUse.closed?]

/-- What was opened and what was closed differ by the handle that is held. -/
theorem openedHandles_eq {log : List HandleUse} {held : Option Handle}
    (h : held? log = some held) : openedHandles log = closedHandles log ++ held.toList := by
  induction log using List.reverseRecOn generalizing held with
  | nil =>
    obtain rfl : none = held := Option.some.inj h
    rfl
  | append_singleton log use ih =>
    rw [held?_concat] at h
    obtain ⟨before, hbefore, hnext⟩ := Option.bind_eq_some_iff.mp h
    rw [openedHandles_concat, closedHandles_concat, ih hbefore, List.append_assoc,
      HandleUse.toList_next? hnext, List.append_assoc]

/-! ## Orderly work -/

namespace Work

/-- The work connects only while no handle is held, and calls only through the
handle that is held.  At its end, its result and the handle that is held then
fulfil the condition. -/
def Orderly (post : α → Option Handle → Prop) : Work α → Option Handle → Prop
  | done a, held => post a held
  | connect next, held => held = none ∧
      (∀ h, (next (.ok h)).Orderly post (some h)) ∧ ∀ error, (next (.error error)).Orderly post none
  | close h next, held => held = some h ∧ (next ()).Orderly post none
  | change h _ next, held => held = some h ∧ ∀ answer, (next answer).Orderly post held
  | columns h _ next, held => held = some h ∧ ∀ answer, (next answer).Orderly post held

variable {post : α → Option Handle → Prop} {held : Option Handle}

/-- A sequence of orderly work is orderly. -/
theorem Orderly.bind {post' : β → Option Handle → Prop} {work : Work α} {f : α → Work β}
    (h : work.Orderly post held) (hf : ∀ a held, post a held → (f a).Orderly post' held) :
    (work >>= f).Orderly post' held := by
  change (work.bind f).Orderly post' held
  induction work generalizing held with
  | done a => exact hf a held h
  | connect next ih => exact ⟨h.1, fun handle => ih _ (h.2.1 handle), fun error => ih _ (h.2.2 error)⟩
  | close handle next ih => exact ⟨h.1, ih _ h.2⟩
  | change handle c next ih => exact ⟨h.1, fun answer => ih _ (h.2 answer)⟩
  | columns handle table next ih => exact ⟨h.1, fun answer => ih _ (h.2 answer)⟩

/-- A log is continued by orderly work, on any store. -/
theorem Orderly.held?_run {work : Work α} (h : work.Orderly post held) (backend : Backend σ)
    (s : σ) {log : List HandleUse} (hlog : held? log = some held) :
    ∃ last, held? (work.run backend.logged (s, log)).2.2 = some last ∧
      post (work.run backend.logged (s, log)).1 last := by
  induction work generalizing held s log with
  | done a => exact ⟨held, hlog, h⟩
  | connect next ih =>
    obtain ⟨rfl, hopened, hrefused⟩ := h
    simp only [run, Backend.logged]
    cases (backend.connect s).1 with
    | ok handle => exact ih _ (hopened handle) _ (held?_concat_of_next? hlog rfl)
    | error error => exact ih _ (hrefused error) _ (held?_concat_of_next? hlog rfl)
  | close handle next ih =>
    obtain ⟨rfl, hnext⟩ := h
    exact ih _ hnext _ (held?_concat_of_next? hlog (HandleUse.next?_closed handle))
  | change handle c next ih =>
    obtain ⟨rfl, hnext⟩ := h
    exact ih _ (hnext _) _ (held?_concat_of_next? hlog (HandleUse.next?_used handle))
  | columns handle table next ih =>
    obtain ⟨rfl, hnext⟩ := h
    exact ih _ (hnext _) _ (held?_concat_of_next? hlog (HandleUse.next?_used handle))

end Work

/-! ## Handles of a store in memory -/

namespace Memory

/-- A log that agrees with what a store in memory has counted since its counts
were other ones: the handles that it gave are numbered from there on. -/
structure Tallies (before : Calls) (m : Memory) (log : List HandleUse) : Prop where
  opened : openedHandles log
    = (List.range' before.connects (openedHandles log).length).map Handle.mk
  connects : m.calls.connects = before.connects + (openedHandles log).length
  closes : m.calls.closes = before.closes + (closedHandles log).length

/-- A change counts neither connects nor closes. -/
theorem handleCounts_change (m : Memory) (c : Change) :
    (m.change c).2.calls.connects = m.calls.connects ∧
      (m.change c).2.calls.closes = m.calls.closes := by
  cases c with
  | create table columns => grind [change, create, createNow, putTable]
  | adapt table columns => grind [change, adapt, adaptNow]
  | insert table fields rows => grind [change, insert, insertNow]

variable {before : Calls} {m : Memory} {log : List HandleUse}

theorem Tallies.start (m : Memory) : Tallies m.calls m [] :=
  ⟨rfl, rfl, rfl⟩

/-- A call that counts neither. -/
theorem Tallies.used (h : Tallies before m log) {m' : Memory} (handle : Handle)
    (hconnects : m'.calls.connects = m.calls.connects)
    (hcloses : m'.calls.closes = m.calls.closes) : Tallies before m' (log ++ [.used handle]) where
  opened := by simpa using h.opened
  connects := by simp [hconnects, h.connects]
  closes := by simp [hcloses, h.closes]

/-- A close is counted. -/
theorem Tallies.close (h : Tallies before m log) (handle : Handle) :
    Tallies before m.close (log ++ [.closed handle]) where
  opened := by simpa using h.opened
  connects := by simp [Memory.close, h.connects]
  closes := by simp [Memory.close, h.closes, Nat.add_assoc]

/-- A connect is counted if it gives a handle, and this has the next number. -/
theorem Tallies.connect (h : Tallies before m log) :
    Tallies before m.connect.2 (log ++ [.ofAnswer m.connect.1]) := by
  cases hfailures : m.connectFailures with
  | cons error rest =>
    have hanswer : m.connect = (.error error, { m with connectFailures := rest }) := by
      rw [Memory.connect, hfailures]
    rw [hanswer]
    exact ⟨by simpa [HandleUse.ofAnswer] using h.opened, by simp [HandleUse.ofAnswer, h.connects],
      by simp [HandleUse.ofAnswer, h.closes]⟩
  | nil =>
    have hanswer : m.connect = (.ok ⟨m.calls.connects⟩,
        { m with calls.connects := m.calls.connects + 1 }) := by
      rw [Memory.connect, hfailures]
    have hopened : openedHandles (log ++ [.opened ⟨m.calls.connects⟩])
        = openedHandles log ++ [⟨m.calls.connects⟩] := openedHandles_concat log _
    rw [hanswer]
    refine ⟨?_, by simp [HandleUse.ofAnswer, h.connects, Nat.add_assoc],
      by simp [HandleUse.ofAnswer, h.closes]⟩
    rw [HandleUse.ofAnswer, hopened, List.length_append, List.length_singleton,
      List.range'_concat, List.map_append, ← h.opened, h.connects, Nat.one_mul]
    rfl

/-- Work keeps a log that agrees with what is counted. -/
theorem Tallies.run (h : Tallies before m log) (work : Work α) :
    Tallies before (work.run backend.logged (m, log)).2.1 (work.run backend.logged (m, log)).2.2 := by
  induction work generalizing m log with
  | done a => exact h
  | connect next ih => exact ih _ h.connect
  | close handle next ih => exact ih _ (h.close handle)
  | change handle c next ih =>
    obtain ⟨hconnects, hcloses⟩ := m.handleCounts_change c
    exact ih _ (h.used handle hconnects hcloses)
  | columns handle table next ih => exact ih _ (h.used handle rfl rfl)

/-- No handle is given twice. -/
theorem Tallies.nodup_opened (h : Tallies before m log) : (openedHandles log).Nodup := by
  rw [h.opened]
  exact List.Nodup.map (fun _ _ heq => congrArg Handle.id heq) List.nodup_range'

end Memory

end PowerTelemetry.Store
