import StoryDirector.Cascade.Derived
import StoryDirector.Cascade.Processor
import StoryDirector.Settings
/-!
# StoryDirector.Cascade

Feeding what workers contributed back into the session. **A queue of events is processed round by
round: the follow-ups of one round are the queue of the next, and after a given number of rounds the
rest is dropped.** An event that fails affects itself only.

The report is kept up as the rounds go on. What is said of it speaks of the calls of the processor,
of which the loop keeps none (`Cascade.trace`).
-/

namespace StoryDirector

/-- What a cascade did. -/
structure CascadeReport where
  /-- The events that it brought about. -/
  events : List Event := []
  /-- How many events were processed. -/
  processed : Nat := 0
  /-- How many rounds there were. -/
  rounds : Nat := 0
  /-- How many events were still in the queue at the end. -/
  dropped : Nat := 0
  /-- How many events failed. -/
  failures : Nat := 0

/-- Two reports as one: counts add up, and of the rounds the larger number counts. -/
def CascadeReport.absorb (report other : CascadeReport) : CascadeReport where
  events := report.events ++ other.events
  processed := report.processed + other.processed
  rounds := max report.rounds other.rounds
  dropped := report.dropped + other.dropped
  failures := report.failures + other.failures

namespace Cascade

/-- Processes the events of one round in order. Follow-ups are remembered, named in the report and
put into the queue of the next round; of an event that fails only the failure is counted. -/
def pass (process : Processor) : (queue : List Event) → Session → CascadeReport →
    (next : List Event) → Session × CascadeReport × List Event
  | [], session, report, next => (session, report, next)
  | event :: rest, session, report, next =>
    let counted := { report with processed := report.processed + 1 }
    match process event session with
    | (changed, .ok followups) =>
      pass process rest (changed.recordEvents followups)
        { counted with events := counted.events ++ followups } (next ++ followups)
    | (changed, .error _) =>
      pass process rest changed { counted with failures := counted.failures + 1 } next

/-- Processes a queue for as many rounds as are left. -/
def passes (process : Processor) : (left : Nat) → (queue : List Event) → Session → CascadeReport →
    Session × CascadeReport
  | _, [], session, report => (session, report)
  | 0, queue, session, report => (session, { report with dropped := queue.length })
  | left + 1, queue, session, report =>
    let (session, report, next) :=
      pass process queue session { report with rounds := report.rounds + 1 } []
    passes process left next session report

/-- Processes a queue for at most `depth` rounds. -/
def drain (process : Processor) (depth : Nat) (queue : List Event) (session : Session) :
    Session × CascadeReport :=
  passes process depth queue session {}

/-- Feeds responses back into a session: what they imply and what they report is remembered and then
processed. The report names the events that the cascade brought about, derived ones first; what
workers reported themselves is not repeated in it. -/
def integrate (process : Processor) (depth : Nat) (responses : List Response) (session : Session) :
    Session × CascadeReport :=
  let implied := derived responses session.turn session.recorded
  let queue := implied ++ reported responses session.turn
  let (after, report) := drain process depth queue (session.recordEvents queue)
  (after, { report with events := implied ++ report.events })

end Cascade

/-- A cascade with its settings. -/
structure CascadeRules where
  /-- How many rounds of follow-up events are processed. -/
  depth : Nat
  /-- What an event does. -/
  process : Processor

/-- The standard cascade under some settings. -/
def CascadeRules.standard (settings : CascadeSettings) : CascadeRules where
  depth := settings.maxChainDepth
  process := Cascade.worldProcessor settings.surgeThreshold

/-- Feeds responses back into a session. -/
def CascadeRules.integrate (rules : CascadeRules) (responses : List Response) (session : Session) :
    Session × CascadeReport :=
  Cascade.integrate rules.process rules.depth responses session

end StoryDirector
