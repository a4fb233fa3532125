import LaunchSupervisor.Reactor.Run

/-!
**Outages.** A wait may fail on one of the things that the reactor waits for. From then on it does
without that one, and it gives up a session whose bus it cannot wait for.

* `live_append`: a life over two lists of occurrences is the one life after the other.
-/

namespace LaunchSupervisor.Reactor

/-- What the reactor waits for, time apart. -/
inductive Source where
  | signals
  | bus
  | stderr
deriving DecidableEq

/-- Something that happens to a reactor. -/
inductive Occurrence where
  | event (event : Event)
  /-- The wait for a source fails. -/
  | outage (source : Source)

variable {φ : Type}

/-- Whether a source is among the things that are waited for. -/
def awaits (reactor : Reactor φ) : Source → Bool
  | .signals => reactor.wake.isSome
  | .bus => reactor.watching
  | .stderr => reactor.stderr.isSome

/-- The reactor without a source. -/
def lose (reactor : Reactor φ) : Source → Reactor φ
  | .signals => { reactor with wake := none }
  | .bus => reactor.onSession Session.detach
  | .stderr => { reactor with stderr := none }

/-- The reactor when the wait for a source fails. It goes on to the bus, as whenever it is woken. -/
def fail (reactor : Reactor φ) (source : Source) : Reactor φ :=
  match reactor.stage with
  | .waiting _ => if reactor.awaits source then (reactor.lose source).goto .opening else reactor
  | _ => reactor

variable [FileSystem φ]

/-- The reactor after an occurrence. -/
def undergo (reactor : Reactor φ) : Occurrence → Reactor φ
  | .event event => reactor.apply event
  | .outage source => reactor.fail source

/-- The reactor after a list of occurrences. -/
def live (reactor : Reactor φ) (occurrences : List Occurrence) : Reactor φ :=
  occurrences.foldl undergo reactor

theorem live_append (reactor : Reactor φ) (first second : List Occurrence) :
    reactor.live (first ++ second) = (reactor.live first).live second := by
  simp [live]

end LaunchSupervisor.Reactor
