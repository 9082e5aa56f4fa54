import Mathlib.Data.List.Forall2
import PowerTelemetry.Poller.Log
/-!
# What a round takes in

A round is told by its exchanges with the cloud.  `Poller.requests` are the
requests that the snapshots among them make, and `Poller.Whole` says which
exchanges a round has that comes to its end: the pinned devices are asked for
one by one, or else the list of devices and then those that are online.

* `pollAll_of_room` and `pollAll_of_shut` follow the loop over the devices: with
  room in the queue for all requests, and up to the one that finds no receiver.
* `polled_countPolledAll` is the counter of a device after requests.
* `round_takes_in` and `outcomes_take_in` take this to a round and to rounds one
  after another, `rounds_of_open` to the poller's own loop.
* `rounds_take_in` is the result.
-/

namespace PowerTelemetry

variable {σ : Type}

/-! ## Exchanges -/

namespace Cloud

/-- The exchanges in which devices are asked for one after another, and the
cloud then. -/
def askAll (cloud : Cloud σ) : List String → σ → List Exchange × σ
  | [], s => ([], s)
  | serialNumber :: rest, s =>
    let (answer, s) := cloud.parameters serialNumber s
    let (later, s) := cloud.askAll rest s
    (.parameters serialNumber answer :: later, s)

/-- Each of the devices is asked for once, in their order. -/
def AsksFor (devices : List String) (exchanges : List Exchange) : Prop :=
  List.Forall₂ (fun serialNumber exchange => ∃ answer, exchange = .parameters serialNumber answer)
    devices exchanges

theorem logged_parameters {cloud : Cloud σ} {serialNumber : String} {s left : σ}
    {answer : Except Error (List (String × Json))}
    (h : cloud.parameters serialNumber s = (answer, left)) (log : List Exchange) :
    cloud.logged.parameters serialNumber (s, log)
      = (answer, left, log ++ [.parameters serialNumber answer]) := by
  simp only [logged, h]

theorem askAll_cons {cloud : Cloud σ} {serialNumber : String} {s left : σ}
    {answer : Except Error (List (String × Json))}
    (h : cloud.parameters serialNumber s = (answer, left)) (rest : List String) :
    cloud.askAll (serialNumber :: rest) s
      = (.parameters serialNumber answer :: (cloud.askAll rest left).1,
          (cloud.askAll rest left).2) := by
  simp only [askAll, h]

theorem asksFor_askAll (cloud : Cloud σ) (devices : List String) (s : σ) :
    AsksFor devices (cloud.askAll devices s).1 := by
  induction devices generalizing s with
  | nil => exact .nil
  | cons serialNumber rest ih => exact .cons ⟨_, rfl⟩ (ih _)

end Cloud

/-! ## Requests -/

namespace Poller

/-- The requests that the snapshots among exchanges make, each for the table of
its device. -/
def requests (p : Poller) (now : Instant) (exchanges : List Cloud.Exchange) : List StoreRequest :=
  exchanges.filterMap fun
    | .parameters serialNumber (.ok members) =>
      some ⟨p.ingest.naming.quota serialNumber, Sample.ofMembers now serialNumber members⟩
    | _ => none

/-- The exchanges of a round that comes to its end, and what it comes to. -/
inductive Whole (p : Poller) (now : Instant) :
    List Cloud.Exchange → Except PollError Nat → Prop where
  /-- Devices are pinned, and the cloud is asked for nothing else. -/
  | pinned {exchanges} (some : p.pinned ≠ []) (each : Cloud.AsksFor p.pinned exchanges) :
      Whole p now exchanges (.ok (p.requests now exchanges).length)
  /-- No device is pinned, and the cloud is asked for those that it lists as online. -/
  | listed {devices exchanges} (none : p.pinned = [])
      (each : Cloud.AsksFor ((devices.filter (·.online = 1)).map (·.serialNumber)) exchanges) :
      Whole p now (.devices (.ok devices) :: exchanges) (.ok (p.requests now exchanges).length)
  /-- No device is pinned, and the cloud has no list. -/
  | unlisted {error} (none : p.pinned = []) :
      Whole p now [.devices (.error error)] (.error (.cloud error))

/-- Rounds one after another that come to their ends: when they are, their
exchanges, their requests and what they come to. -/
inductive WholeRounds (p : Poller) : List Instant → List Cloud.Exchange → List StoreRequest →
    List (Except PollError Nat) → Prop where
  | nil : WholeRounds p [] [] [] []
  | cons {now exchanges result instants later requests results} (first : Whole p now exchanges result)
      (rest : WholeRounds p instants later requests results) :
      WholeRounds p (now :: instants) (exchanges ++ later) (p.requests now exchanges ++ requests)
        (result :: results)

end Poller

/-! ## Counters -/

theorem Sample.deviceId_ofMembers (now : Instant) (deviceId : String)
    (members : List (String × Json)) : (ofMembers now deviceId members).deviceId = deviceId := by
  rw [ofMembers, make]
  split <;> rfl

namespace Counters

/-- The counters after the samples of requests were polled. -/
def countPolledAll (c : Counters) (requests : List StoreRequest) : Counters :=
  requests.foldl (fun c request => c.countPolled request.sample.deviceId) c

theorem polled_countPolled (c : Counters) (serialNumber other : String) :
    ((c.countPolled serialNumber).device other).polled
      = (c.device other).polled + if serialNumber = other then 1 else 0 := by
  simp only [countPolled, device, Dict.get?_insert]
  split
  · rename_i h
    rw [h, Option.getD_some]
  · rfl

theorem countPolledAll_snapshot (c : Counters) (i : Ingest) (now : Instant) (serialNumber : String)
    (members : List (String × Json)) (rest : List StoreRequest) :
    c.countPolledAll (i.snapshot now serialNumber members :: rest)
      = (c.countPolled serialNumber).countPolledAll rest := by
  rw [countPolledAll, List.foldl_cons, Ingest.snapshot, Sample.deviceId_ofMembers, countPolledAll]

/-- A device is counted once for each of its samples. -/
theorem polled_countPolledAll (c : Counters) (requests : List StoreRequest) (serialNumber : String) :
    ((c.countPolledAll requests).device serialNumber).polled
      = (c.device serialNumber).polled
        + requests.countP (·.sample.deviceId = serialNumber) := by
  induction requests generalizing c with
  | nil => rfl
  | cons request rest ih =>
    rw [countPolledAll, List.foldl_cons, ← countPolledAll, ih, polled_countPolled,
      List.countP_cons, Nat.add_assoc, Nat.add_comm (ite _ _ _)]
    simp

end Counters

/-! ## One snapshot -/

namespace Ingest

variable (i : Ingest) (now : Instant) (serialNumber : String) (members : List (String × Json))

/-- A snapshot that finds the receiver there is counted and sent. -/
theorem quota_of_there {remaining : Option Nat} (h : remaining ≠ some 0) (counters : Counters)
    (sent : List StoreRequest) :
    i.quota now serialNumber members ⟨counters, ⟨sent, remaining⟩⟩
      = (.ok (), ⟨counters.countPolled serialNumber,
          ⟨sent ++ [i.snapshot now serialNumber members], remaining.map (· - 1)⟩⟩) := by
  rcases remaining with _ | _ | n
  · rfl
  · exact absurd rfl h
  · rfl

/-- A snapshot that finds no receiver is counted all the same. -/
theorem quota_of_gone (counters : Counters) (sent : List StoreRequest) :
    i.quota now serialNumber members ⟨counters, ⟨sent, some 0⟩⟩
      = (.error (.queueClosed (i.naming.quota serialNumber)),
          ⟨counters.countPolled serialNumber, ⟨sent, some 0⟩⟩) := rfl

end Ingest

namespace Poller

variable (p : Poller) (cloud : Cloud σ) (now : Instant)

/-! ## The loop over the devices -/

section Requests

variable (serialNumber : String) (exchanges : List Cloud.Exchange)

theorem requests_error (error : Cloud.Error) :
    p.requests now (.parameters serialNumber (.error error) :: exchanges)
      = p.requests now exchanges := rfl

theorem requests_ok (members : List (String × Json)) :
    p.requests now (.parameters serialNumber (.ok members) :: exchanges)
      = p.ingest.snapshot now serialNumber members :: p.requests now exchanges := rfl

theorem requests_append (later : List Cloud.Exchange) :
    p.requests now (exchanges ++ later) = p.requests now exchanges ++ p.requests now later :=
  List.filterMap_append

end Requests

/-- With room for all requests every device is asked for, and each snapshot is
counted and sent. -/
theorem pollAll_of_room {devices : List String} {s : σ} {remaining : Option Nat}
    (hroom : ∀ n, remaining = some n →
      (p.requests now (cloud.askAll devices s).1).length ≤ n)
    (log : List Cloud.Exchange) (counters : Counters) (sent : List StoreRequest) (polled : Nat) :
    let requests := p.requests now (cloud.askAll devices s).1
    p.pollAll cloud.logged now polled devices ((s, log), ⟨counters, ⟨sent, remaining⟩⟩)
      = (.ok (polled + requests.length),
          ((cloud.askAll devices s).2, log ++ (cloud.askAll devices s).1),
          ⟨counters.countPolledAll requests,
            ⟨sent ++ requests, remaining.map (· - requests.length)⟩⟩) := by
  induction devices generalizing s remaining log counters sent polled with
  | nil => cases remaining <;> simp [pollAll, Cloud.askAll, requests, Counters.countPolledAll]
  | cons serialNumber rest ih =>
    cases hanswer : cloud.parameters serialNumber s with
    | mk answer left =>
      rw [pollAll, Cloud.logged_parameters hanswer, Cloud.askAll_cons hanswer]
      rw [Cloud.askAll_cons hanswer] at hroom
      cases answer with
      | error error =>
        simp only [requests_error] at hroom ⊢
        rw [ih hroom, List.append_assoc, List.singleton_append]
      | ok members =>
        simp only [requests_ok, List.length_cons] at hroom ⊢
        have hthere : remaining ≠ some 0 := fun h => Nat.not_succ_le_zero _ (hroom 0 h)
        have hrest : ∀ n, remaining.map (· - 1) = some n →
            (p.requests now (cloud.askAll rest left).1).length ≤ n := by
          intro n hn
          obtain ⟨m, hm, rfl⟩ := Option.map_eq_some_iff.mp hn
          exact Nat.le_sub_of_add_le (hroom m hm)
        simp only [p.ingest.quota_of_there now serialNumber members hthere, ih hrest]
        have hone (k : Nat) : k - 1 - (p.requests now (cloud.askAll rest left).1).length
            = k - ((p.requests now (cloud.askAll rest left).1).length + 1) := by
          rw [Nat.sub_sub, Nat.add_comm]
        simp only [Counters.countPolledAll_snapshot, List.append_assoc, List.singleton_append,
          Option.map_map, Function.comp_def, hone, Nat.add_assoc, Nat.add_comm 1]

/-- The first snapshot that finds no receiver ends the loop: the ones before it
are sent, and no later device is asked for. -/
theorem pollAll_of_shut {devices : List String} {s : σ} {n : Nat}
    (hshut : n < (p.requests now (cloud.askAll devices s).1).length)
    (log : List Cloud.Exchange) (counters : Counters) (sent : List StoreRequest) (polled : Nat) :
    let requests := p.requests now (cloud.askAll devices s).1
    ∃ before serialNumber members after left,
      (cloud.askAll devices s).1 = before ++ .parameters serialNumber (.ok members) :: after ∧
      (p.requests now before).length = n ∧
      p.pollAll cloud.logged now polled devices ((s, log), ⟨counters, ⟨sent, some n⟩⟩)
        = (.error (.ingest (.queueClosed (p.ingest.naming.quota serialNumber))),
            (left, log ++ before ++ [.parameters serialNumber (.ok members)]),
            ⟨counters.countPolledAll (requests.take (n + 1)),
              ⟨sent ++ requests.take n, some 0⟩⟩) := by
  induction devices generalizing s n log counters sent polled with
  | nil => exact absurd hshut (Nat.not_lt_zero n)
  | cons serialNumber rest ih =>
    cases hanswer : cloud.parameters serialNumber s with
    | mk answer left =>
      rw [pollAll, Cloud.logged_parameters hanswer, Cloud.askAll_cons hanswer]
      rw [Cloud.askAll_cons hanswer] at hshut
      cases answer with
      | error error =>
        simp only [requests_error] at hshut ⊢
        obtain ⟨before, serialNumber', members, after, left', hsplit, hlength, hpoll⟩ :=
          ih hshut (log ++ [.parameters serialNumber (.error error)]) counters sent polled
        refine ⟨.parameters serialNumber (.error error) :: before, serialNumber', members, after,
          left', by rw [hsplit, List.cons_append], hlength, ?_⟩
        rw [hpoll, List.append_assoc log, List.singleton_append]
      | ok members =>
        simp only [requests_ok, List.length_cons] at hshut ⊢
        cases n with
        | zero =>
          refine ⟨[], serialNumber, members, _, left, rfl, rfl, ?_⟩
          simp only [p.ingest.quota_of_gone, List.take_zero, List.take_succ_cons,
            Counters.countPolledAll_snapshot, List.append_nil]
          rfl
        | succ n =>
          obtain ⟨before, serialNumber', members', after, left', hsplit, hlength, hpoll⟩ :=
            ih (Nat.lt_of_succ_lt_succ hshut) (log ++ [.parameters serialNumber (.ok members)])
              (counters.countPolled serialNumber)
              (sent ++ [p.ingest.snapshot now serialNumber members]) (polled + 1)
          refine ⟨.parameters serialNumber (.ok members) :: before, serialNumber', members', after,
            left', by rw [hsplit, List.cons_append], by rw [requests_ok, List.length_cons, hlength],
            ?_⟩
          rw [p.ingest.quota_of_there now serialNumber members (by simp)]
          simp only [Option.map_some, Nat.add_sub_cancel, hpoll, Counters.countPolledAll_snapshot,
            List.take_succ_cons, List.append_assoc, List.cons_append, List.nil_append]

/-! ## Rounds -/

/-- How a round begins: the cloud has no list, or it is known which devices are
asked for. -/
theorem round_opens (s : σ) (log : List Cloud.Exchange) :
    (∃ error left, p.pinned = [] ∧ ∀ intake, p.round cloud.logged now ((s, log), intake)
        = (.error (.cloud error), (left, log ++ [.devices (.error error)]), intake)) ∨
      ∃ front devices left, p.requests now front = [] ∧
        (∀ exchanges, Cloud.AsksFor devices exchanges →
          p.Whole now (front ++ exchanges) (.ok (p.requests now exchanges).length)) ∧
        ∀ intake, p.round cloud.logged now ((s, log), intake)
          = p.pollAll cloud.logged now 0 devices ((left, log ++ front), intake) := by
  by_cases hpinned : p.pinned = []
  · cases hanswer : cloud.deviceList s with
    | mk answer left =>
      have hlogged : cloud.logged.deviceList (s, log)
          = (answer, left, log ++ [.devices answer]) := by
        simp only [Cloud.logged, hanswer]
      cases answer with
      | error error =>
        exact .inl ⟨error, left, hpinned, fun intake => round_of_unlisted hpinned hlogged now⟩
      | ok devices =>
        refine .inr ⟨[.devices (.ok devices)], _, left, rfl, fun exchanges heach => ?_,
          fun intake => round_of_listed hpinned hlogged now⟩
        exact .listed hpinned heach
  · refine .inr ⟨[], p.pinned, s, rfl, fun exchanges heach => .pinned hpinned heach, fun intake => ?_⟩
    rw [List.append_nil]
    exact round_of_pinned hpinned _ _ _

/-- A round that has room in the queue comes to its end.  If it has not, it ends
with the first snapshot that finds no receiver. -/
theorem round_takes_in (s : σ) (log : List Cloud.Exchange) (counters : Counters)
    (sent : List StoreRequest) :
    ∃ exchanges result left, p.Whole now exchanges result ∧
      (∀ remaining, (∀ n, remaining = some n → (p.requests now exchanges).length ≤ n) →
        p.round cloud.logged now ((s, log), ⟨counters, ⟨sent, remaining⟩⟩)
          = (result, (left, log ++ exchanges),
              ⟨counters.countPolledAll (p.requests now exchanges),
                ⟨sent ++ p.requests now exchanges,
                  remaining.map (· - (p.requests now exchanges).length)⟩⟩)) ∧
      ∀ n, n < (p.requests now exchanges).length →
        ∃ before serialNumber members after left,
          exchanges = before ++ .parameters serialNumber (.ok members) :: after ∧
          (p.requests now before).length = n ∧
          p.round cloud.logged now ((s, log), ⟨counters, ⟨sent, some n⟩⟩)
            = (.error (.ingest (.queueClosed (p.ingest.naming.quota serialNumber))),
                (left, log ++ (before ++ [.parameters serialNumber (.ok members)])),
                ⟨counters.countPolledAll ((p.requests now exchanges).take (n + 1)),
                  ⟨sent ++ (p.requests now exchanges).take n, some 0⟩⟩) := by
  rcases p.round_opens cloud now s log with ⟨error, left, hpinned, hround⟩ |
    ⟨front, devices, left, hfront, hwhole, hround⟩
  · refine ⟨[.devices (.error error)], .error (.cloud error), left, .unlisted hpinned,
      fun remaining _ => ?_, fun n hn => ?_⟩
    · rw [hround]
      cases remaining <;> simp [requests, Counters.countPolledAll]
    · exact absurd hn (Nat.not_lt_zero n)
  · have hrequests (exchanges : List Cloud.Exchange) :
        p.requests now (front ++ exchanges) = p.requests now exchanges := by
      rw [requests_append, hfront, List.nil_append]
    refine ⟨_, _, (cloud.askAll devices left).2, hwhole _ (cloud.asksFor_askAll devices left),
      fun remaining hroom => ?_, fun n hn => ?_⟩
    · rw [hrequests] at hroom ⊢
      rw [hround, pollAll_of_room p cloud now hroom, Nat.zero_add, List.append_assoc]
    · rw [hrequests] at hn ⊢
      obtain ⟨before, serialNumber, members, after, left', hsplit, hlength, hpoll⟩ :=
        pollAll_of_shut p cloud now hn (log ++ front) counters sent 0
      refine ⟨front ++ before, serialNumber, members, after, left', ?_, ?_, ?_⟩
      · rw [hsplit, List.append_assoc]
      · rw [hrequests, hlength]
      · rw [hround, hpoll]
        simp only [List.append_assoc]

/-- Rounds with an open queue come to their ends, and leave it open. -/
theorem outcomes_take_in (instants : List Instant) (s : σ) (log : List Cloud.Exchange)
    (counters : Counters) (sent : List StoreRequest) :
    ∃ exchanges requests results left, p.WholeRounds instants exchanges requests results ∧
      p.outcomes cloud.logged instants ((s, log), ⟨counters, ⟨sent, none⟩⟩)
        = (results, (left, log ++ exchanges),
            ⟨counters.countPolledAll requests, ⟨sent ++ requests, none⟩⟩) := by
  induction instants generalizing s log counters sent with
  | nil => exact ⟨[], [], [], s, .nil, by simp [outcomes, Counters.countPolledAll]⟩
  | cons now rest ih =>
    obtain ⟨exchanges, result, left, hwhole, hround, -⟩ :=
      p.round_takes_in cloud now s log counters sent
    obtain ⟨later, requests, results, left', hrest, houtcomes⟩ := ih left (log ++ exchanges)
      (counters.countPolledAll (p.requests now exchanges)) (sent ++ p.requests now exchanges)
    refine ⟨_, _, _, left', .cons hwhole hrest, ?_⟩
    rw [outcomes, hround none (by simp)]
    simp only [Option.map_none, houtcomes]
    simp only [List.append_assoc, Counters.countPolledAll, List.foldl_append]

/-- While the queue is open, the poller goes on with rounds as long as there is
time. -/
theorem rounds_of_open (times : List Nat) (s : σ) (counters : Counters) (sent : List StoreRequest) :
    p.rounds cloud now times (s, ⟨counters, ⟨sent, none⟩⟩)
      = (none, (p.outcomes cloud (times.map fun _ => now) (s, ⟨counters, ⟨sent, none⟩⟩)).2) := by
  induction times generalizing s counters sent with
  | nil => rfl
  | cons t rest ih =>
    obtain ⟨exchanges, result, left, hwhole, hround, -⟩ :=
      p.round_takes_in cloud now s [] counters sent
    have hplain := p.round_logged cloud now s [] ⟨counters, ⟨sent, none⟩⟩
    rw [hround none (by simp)] at hplain
    rw [rounds, List.map_cons, outcomes, ← hplain]
    cases hwhole with
    | unlisted none => exact ih _ _ _
    | _ => exact ih _ _ _

/-- Rounds with an open queue are whole, and send one request for each snapshot that
the cloud gave, in its order; each device is counted once for each of its samples.
A round whose queue closes after `k` requests is the whole one up to the snapshot
that finds no receiver: the first `k` requests are sent, no later device is asked
for, and the snapshot is counted, too. -/
theorem rounds_take_in :
    (∀ (instants : List Instant) (s : σ) (counters : Counters) (sent : List StoreRequest),
      let polled := p.outcomes cloud.logged instants ((s, []), ⟨counters, ⟨sent, none⟩⟩)
      ∃ requests, p.WholeRounds instants polled.2.1.2 requests polled.1 ∧
        polled.2.2.outbox.sent = sent ++ requests ∧
        ∀ serialNumber, (polled.2.2.counters.device serialNumber).polled
          = (counters.device serialNumber).polled
            + requests.countP (·.sample.deviceId = serialNumber)) ∧
    ∀ (now : Instant) (s : σ) (counters : Counters) (sent : List StoreRequest) (k : Nat),
      let whole := p.round cloud.logged now ((s, []), ⟨counters, ⟨sent, none⟩⟩)
      let shut := p.round cloud.logged now ((s, []), ⟨counters, ⟨sent, some k⟩⟩)
      let requests := p.requests now whole.2.1.2
      (requests.length ≤ k → shut.1 = whole.1 ∧ shut.2.1 = whole.2.1 ∧
        shut.2.2.outbox.sent = sent ++ requests ∧ shut.2.2.counters = whole.2.2.counters) ∧
      (k < requests.length → ∃ before serialNumber members after,
        whole.2.1.2 = before ++ .parameters serialNumber (.ok members) :: after ∧
        p.requests now before = requests.take k ∧
        shut.1 = .error (.ingest (.queueClosed (p.ingest.naming.quota serialNumber))) ∧
        shut.2.1.2 = before ++ [.parameters serialNumber (.ok members)] ∧
        shut.2.2.outbox.sent = sent ++ requests.take k ∧
        ∀ other, (shut.2.2.counters.device other).polled = (counters.device other).polled
          + (requests.take (k + 1)).countP (·.sample.deviceId = other)) := by
  refine ⟨fun instants s counters sent => ?_, fun now s counters sent k => ?_⟩
  · obtain ⟨exchanges, requests, results, left, hwhole, houtcomes⟩ :=
      p.outcomes_take_in cloud instants s [] counters sent
    refine ⟨requests, ?_⟩
    rw [houtcomes]
    exact ⟨hwhole, rfl, counters.polled_countPolledAll requests⟩
  · obtain ⟨exchanges, result, left, -, hroom, hshut⟩ :=
      p.round_takes_in cloud now s [] counters sent
    rw [hroom none (by simp)]
    refine ⟨fun hle => ?_, fun hlt => ?_⟩
    · rw [hroom (some k) fun n hn => Option.some.inj hn ▸ hle]
      exact ⟨rfl, rfl, rfl, rfl⟩
    · obtain ⟨before, serialNumber, members, after, left, hsplit, hlength, hround⟩ := hshut k hlt
      refine ⟨before, serialNumber, members, after, hsplit, ?_, ?_⟩
      · change _ = (p.requests now exchanges).take k
        rw [hsplit, requests_append, ← hlength, List.take_left]
      · rw [hround]
        exact ⟨rfl, rfl, rfl, counters.polled_countPolledAll _⟩

/-- Four devices: one that is offline, one that does not answer, and two that do. -/
private def household : Cloud Unit where
  deviceList s := (.ok [⟨"A", 1⟩, ⟨"B", 1⟩, ⟨"C", 0⟩, ⟨"D", 1⟩], s)
  parameters serialNumber s :=
    (if serialNumber = "B" then .error .transport else .ok [("watts", .string "12")], s)

/-- A poller that goes by the list of the cloud. -/
private def unpinned : Poller :=
  ⟨[], ⟨⟨"", none⟩, "/app/device/property/" ++ Topic.placeholder⟩⟩

/-- Two rounds of it with an open queue. -/
private def wholeRounds : List (Except PollError Nat) × (Unit × List Cloud.Exchange) × Intake :=
  unpinned.outcomes household.logged [⟨0, 0⟩, ⟨60, 0⟩] (((), []), ⟨Counters.empty, ⟨[], none⟩⟩)

/-- A round whose queue closes after a number of requests, or does not. -/
private def roundUpTo (remaining : Option Nat) :
    Except PollError Nat × (Unit × List Cloud.Exchange) × Intake :=
  unpinned.round household.logged ⟨0, 0⟩ (((), []), ⟨Counters.empty, ⟨[], remaining⟩⟩)

/-- With an open queue a device that answers is counted twice in two rounds, and a device that
does not is passed over.  A queue that closes after one request gets this one, and the next
device that answers is counted all the same; one that closes after two makes no difference. -/
theorem rounds_take_in_household :
    (∃ requests, unpinned.WholeRounds [⟨0, 0⟩, ⟨60, 0⟩] wholeRounds.2.1.2 requests wholeRounds.1 ∧
      wholeRounds.2.2.outbox.sent = requests ∧ requests.length = 4 ∧
      requests.countP (·.sample.deviceId = "D") = 2) ∧
    (∃ before serialNumber members,
      (roundUpTo (some 1)).2.1.2 = before ++ [.parameters serialNumber (.ok members)] ∧
      (roundUpTo (some 1)).1
        = .error (.ingest (.queueClosed (unpinned.ingest.naming.quota serialNumber))) ∧
      (roundUpTo (some 1)).2.2.outbox.sent.length = 1 ∧
      ((roundUpTo (some 1)).2.2.counters.device "D").polled = 1) ∧
    (roundUpTo (some 2)).1 = (roundUpTo none).1 := by
  obtain ⟨hopen, hround⟩ := unpinned.rounds_take_in household
  refine ⟨?rounds, ?shut, ((hround ⟨0, 0⟩ () Counters.empty [] 2).1 (by decide +kernel)).1⟩
  case rounds =>
    obtain ⟨requests, hwhole, hsent, hcounted⟩ := hopen [⟨0, 0⟩, ⟨60, 0⟩] () Counters.empty []
    have hfour : wholeRounds.2.2.outbox.sent.length = 4 := by decide +kernel
    have htwo : (wholeRounds.2.2.counters.device "D").polled = 2 := by decide +kernel
    replace hsent : wholeRounds.2.2.outbox.sent = requests := hsent
    exact ⟨requests, hwhole, hsent, hsent ▸ hfour,
      (Nat.zero_add _).symm.trans ((hcounted "D").symm.trans htwo)⟩
  case shut =>
    obtain ⟨before, serialNumber, members, -, -, -, hfailed, hlog, hsent, hcounted⟩ :=
      (hround ⟨0, 0⟩ () Counters.empty [] 1).2 (by decide +kernel)
    refine ⟨before, serialNumber, members, hlog, hfailed, ?_, (hcounted "D").trans ?_⟩
    · exact (congrArg List.length hsent).trans (by decide +kernel)
    · decide +kernel

end Poller

end PowerTelemetry
