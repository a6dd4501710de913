import StoryDirector.Cache
import StoryDirector.Lock
/-!
# StoryDirector.Cache.Flight

Who is at work on which key. **Callers that miss the same key share a gate, a lock that lets one of
them work while the others wait.** A gate is found through the key for as long as the key leads to
it; whoever joined holds on to the gate even after that, and the last one out takes the gate off its
key (`Flights.leave`).

A gate is thus the one thing that makes several requests for one missing response a single flight. A
`Pass` is what a caller holds of it: the key, the number of the gate, and a ticket of its own.
-/

namespace StoryDirector

/-- A gate that callers of one key pass one at a time. -/
structure Gate where
  /-- The number of the gate. -/
  number : Nat
  /-- The lock. -/
  lock : Lock := {}
  /-- The tickets of those who hold on to the gate. -/
  holders : List Nat := []

/-- A caller's place at a gate. -/
structure Pass where
  /-- The key. -/
  key : CacheKey
  /-- The number of the gate. -/
  gate : Nat
  /-- The caller's own number. -/
  ticket : Nat
  deriving DecidableEq

/-- All work that is under way. -/
structure Flights where
  /-- The gates to which keys lead. -/
  current : List (CacheKey × Nat) := []
  /-- The gates that someone holds or a key leads to. -/
  gates : List Gate := []
  /-- The number of the next gate. -/
  nextGate : Nat := 0
  /-- The number of the next caller. -/
  nextTicket : Nat := 0

namespace Flights

/-- The number of the gate to which a key leads. -/
def gateOf? (flights : Flights) (key : CacheKey) : Option Nat :=
  (flights.current.find? (·.1 = key)).map (·.2)

/-- The gate with a number. -/
def gate? (flights : Flights) (number : Nat) : Option Gate :=
  flights.gates.find? (·.number = number)

/-- The flights with one gate changed. -/
def atGate (flights : Flights) (number : Nat) (change : Gate → Gate) : Flights :=
  { flights with
    gates := flights.gates.map fun gate => if gate.number = number then change gate else gate }

/-- The flights in which a key leads to a gate, a new one if need be. -/
def opened (flights : Flights) (key : CacheKey) : Flights × Nat :=
  match flights.gateOf? key with
  | some number => (flights, number)
  | none =>
    ({ flights with
        current := flights.current ++ [(key, flights.nextGate)]
        gates := flights.gates ++ [{ number := flights.nextGate }]
        nextGate := flights.nextGate + 1 },
     flights.nextGate)

/-- A caller joins those at work on a key: it takes hold of the gate and asks for the lock. -/
def join (flights : Flights) (key : CacheKey) : Flights × Pass :=
  let (opened, number) := flights.opened key
  let ticket := opened.nextTicket
  let joined := opened.atGate number fun gate =>
    { gate with lock := gate.lock.ask ticket, holders := gate.holders ++ [ticket] }
  ({ joined with nextTicket := ticket + 1 }, ⟨key, number, ticket⟩)

/-- Whether a caller may work. -/
def mayWork (flights : Flights) (pass : Pass) : Bool :=
  (flights.gate? pass.gate).any fun gate => gate.lock.ownedBy pass.ticket

/-- How many hold on to the gate to which a key leads. -/
def holdersOf (flights : Flights) (key : CacheKey) : Nat :=
  (((flights.gateOf? key).bind flights.gate?).map (·.holders.length)).getD 0

/-- The flights in which a key leads nowhere. -/
def closed (flights : Flights) (key : CacheKey) : Flights :=
  { flights with current := flights.current.filter (·.1 ≠ key) }

/-- Forgets the gates that no one holds and no key leads to. -/
def swept (flights : Flights) : Flights :=
  { flights with
    gates := flights.gates.filter fun gate =>
      !gate.holders.isEmpty || flights.current.any (·.2 = gate.number) }

/-- A caller leaves. It hands over the lock, takes the gate off its key if no one else holds on to
it, and lets go. -/
def leave (flights : Flights) (pass : Pass) : Flights :=
  let handed := flights.atGate pass.gate fun gate =>
    { gate with lock := gate.lock.leave pass.ticket }
  let kept := if handed.holdersOf pass.key ≤ 1 then handed.closed pass.key else handed
  (kept.atGate pass.gate fun gate =>
    { gate with holders := gate.holders.filter (· ≠ pass.ticket) }).swept

end Flights

end StoryDirector
