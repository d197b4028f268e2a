import NamedFunctions.Concurrent.Flight
import NamedFunctions.Concurrent.Publication
import NamedFunctions.Layer

/-! # Interleaved procedures

Several procedures at work on one store. Every step of every procedure is atomic and any procedure
may take the next one. A registration goes through its phases one by one, and a flight is joined,
resolved and closed as its slots and locks allow. -/
namespace NamedFunctions.Interleaving

open Publication (Snapshot)

/-- Flights are kept by every layer for itself, and by name. -/
abbrev FlightKey := Nat × String

/-- Where a procedure stands. -/
inductive Stage (Obj α : Type) where
  | ready (procedure : Procedure Obj α)
  | registering (registration : Registration Obj) (phase : Publication.Phase Obj)
      (next : Except RegisterError Unit → Procedure Obj α)
  /-- Waits for the lock of the slot that it joined. -/
  | waiting (key : FlightKey) (slot : Nat) (next : Option Resolution → Procedure Obj α)
  /-- Has stored the outcome of its flight and still has to close it. -/
  | closing (key : FlightKey) (slot : Nat) (next : Procedure Obj α)

/-- A procedure on its way, with the flights whose locks it has, the innermost first. -/
structure Worker (Obj α : Type) where
  stage : Stage Obj α
  held : List (FlightKey × Nat) := []

structure State (Obj α : Type) where
  current : Snapshot Obj := {}
  flights : Flight.Table FlightKey Resolution := {}
  workers : List (Worker Obj α)
  /-- What an observer has seen, with the worker that did it. -/
  trace : List (Nat × Note) := []

namespace State

variable {Obj α : Type}

def start (store : Store Obj) (procedures : List (Procedure Obj α)) : State Obj α where
  current := { store }
  workers := procedures.map fun procedure => { stage := .ready procedure }

def setWorker (state : State Obj α) (i : Nat) (worker : Worker Obj α) : State Obj α :=
  { state with workers := state.workers.set i worker }

/-- The worker at an index takes its next step, unless it is done or has to wait for a lock. -/
def step (state : State Obj α) (i : Nat) : Option (State Obj α) := do
  let worker ← state.workers[i]?
  let goOn (procedure : Procedure Obj α) : Worker Obj α := { worker with stage := .ready procedure }
  match worker.stage with
  | .ready (.done _) => none
  | .ready (.read next) => return state.setWorker i (goOn (next state.current.store))
  | .ready (.note note next) =>
    return { state with trace := state.trace ++ [(i, note)] }.setWorker i (goOn next)
  | .ready (.register registration next) =>
    return state.setWorker i { worker with stage := .registering registration .idle next }
  | .registering _ (.returned answer) next => return state.setWorker i (goOn (next answer))
  | .registering registration phase next =>
    match ← phase.advance registration state.current with
    | .moved phase =>
      return state.setWorker i { worker with stage := .registering registration phase next }
    | .published store =>
      return { state with current := ⟨state.current.version + 1, store⟩ }.setWorker i
        (goOn (next (.ok ())))
    | .lost => return state.setWorker i { worker with stage := .registering registration .loading next }
  | .ready (.enter depth name next) =>
    let (slot, flights) := state.flights.join (depth, name)
    return { state with flights }.setWorker i { worker with stage := .waiting (depth, name) slot next }
  | .waiting key slot next =>
    match ← state.flights.acquire slot i with
    | (some outcome, flights) => return { state with flights }.setWorker i (goOn (next (some outcome)))
    | (none, flights) =>
      return { state with flights }.setWorker i
        { stage := .ready (next none), held := (key, slot) :: worker.held }
  | .ready (.leave _ _ outcome next) =>
    let ((key, slot), held) ← worker.held.head?.map fun top => (top, worker.held.tail)
    return { state with flights := state.flights.finish slot outcome }.setWorker i
      { stage := .closing key slot next, held }
  | .closing key slot next =>
    return { state with flights := state.flights.close key slot }.setWorker i (goOn next)

def run (state : State Obj α) (schedule : List Nat) : Option (State Obj α) :=
  schedule.foldlM step state

def Reachable (store : Store Obj) (procedures : List (Procedure Obj α)) (state : State Obj α) : Prop :=
  ∃ schedule, (start store procedures).run schedule = some state

def result? (state : State Obj α) (i : Nat) : Option α :=
  match state.workers[i]? with
  | some { stage := .ready (.done value), .. } => some value
  | _ => none

end State

end NamedFunctions.Interleaving
