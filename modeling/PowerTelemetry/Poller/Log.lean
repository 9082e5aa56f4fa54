import PowerTelemetry.Poller
/-!
# What a poller asks

A `Cloud.Exchange` is a question to the cloud with its answer, and `Cloud.logged`
is the cloud that writes them down.  `Poller.outcomes` are rounds one after
another, each at an instant of its own.

`outcomes_logged` says that rounds end alike with a log.
-/

namespace PowerTelemetry

variable {σ : Type}

namespace Cloud

/-- A question to the cloud, and its answer. -/
inductive Exchange where
  /-- Which devices there are. -/
  | devices (answer : Except Error (List Device))
  /-- What a device says. -/
  | parameters (serialNumber : String) (answer : Except Error (List (String × Json)))

/-- The cloud, with a log of what it is asked. -/
def logged (cloud : Cloud σ) : Cloud (σ × List Exchange) where
  deviceList s :=
    let (answer, rest) := cloud.deviceList s.1
    (answer, rest, s.2 ++ [.devices answer])
  parameters serialNumber s :=
    let (answer, rest) := cloud.parameters serialNumber s.1
    (answer, rest, s.2 ++ [.parameters serialNumber answer])

end Cloud

namespace Poller

/-- Rounds one after another, each at an instant of its own: what each of them
came to. -/
def outcomes (p : Poller) (cloud : Cloud σ) :
    List Instant → σ × Intake → List (Except PollError Nat) × (σ × Intake)
  | [], s => ([], s)
  | now :: rest, s =>
    let first := p.round cloud now s
    let later := p.outcomes cloud rest first.2
    (first.1 :: later.1, later.2)

/-! ## The log -/

/-- What a computation came to, but for the log that it kept. -/
def unlogged {α : Type} (r : α × (σ × List Cloud.Exchange) × Intake) : α × σ × Intake :=
  (r.1, r.2.1.1, r.2.2)

variable (p : Poller) (cloud : Cloud σ) (now : Instant)

theorem pollAll_logged (polled : Nat) (devices : List String) (s : σ) (log : List Cloud.Exchange)
    (intake : Intake) :
    unlogged (p.pollAll cloud.logged now polled devices ((s, log), intake))
      = p.pollAll cloud now polled devices (s, intake) := by
  induction devices generalizing polled s log intake with
  | nil => rfl
  | cons serialNumber rest ih =>
    rw [pollAll, pollAll]
    cases hanswer : cloud.parameters serialNumber s with
    | mk answer s' =>
      simp only [Cloud.logged, hanswer]
      cases answer with
      | error error => exact ih _ _ _ _
      | ok members =>
        simp only
        cases p.ingest.quota now serialNumber members intake with
        | mk result intake' =>
          cases result with
          | error error => rfl
          | ok _ => exact ih _ _ _ _

theorem round_logged (s : σ) (log : List Cloud.Exchange) (intake : Intake) :
    unlogged (p.round cloud.logged now ((s, log), intake)) = p.round cloud now (s, intake) := by
  by_cases hpinned : p.pinned = []
  · cases hanswer : cloud.deviceList s with
    | mk answer left =>
      have hlogged : cloud.logged.deviceList (s, log)
          = (answer, left, log ++ [.devices answer]) := by
        simp only [Cloud.logged, hanswer]
      cases answer with
      | error error => rw [round_of_unlisted hpinned hlogged, round_of_unlisted hpinned hanswer,
          unlogged]
      | ok devices =>
        rw [round_of_listed hpinned hlogged, round_of_listed hpinned hanswer, pollAll_logged]
  · rw [round_of_pinned hpinned, round_of_pinned hpinned, pollAll_logged]

/-- Rounds end alike with a log. -/
theorem outcomes_logged (instants : List Instant) (s : σ) (log : List Cloud.Exchange)
    (intake : Intake) :
    unlogged (p.outcomes cloud.logged instants ((s, log), intake))
      = p.outcomes cloud instants (s, intake) := by
  induction instants generalizing s log intake with
  | nil => rfl
  | cons now rest ih =>
    have hround := p.round_logged cloud now s log intake
    rw [outcomes, outcomes, ← hround]
    have hrest := ih (p.round cloud.logged now ((s, log), intake)).2.1.1
      (p.round cloud.logged now ((s, log), intake)).2.1.2
      (p.round cloud.logged now ((s, log), intake)).2.2
    simp only [unlogged] at hrest ⊢
    rw [← hrest]

end Poller

end PowerTelemetry
