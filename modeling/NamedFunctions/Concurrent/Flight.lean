/-! # Single flight

Callers that want the same key resolved share one resolution. The map from keys to slots is one
critical section: a caller joins the slot under its key, or puts a new one there. Whoever gets the
lock of a slot first resolves the key and stores the outcome in the slot; it then takes the slot out
of the map and only afterwards gives up the lock. Those who get the lock later find the outcome. -/
namespace NamedFunctions.Flight

variable {Key Out : Type}

/-- The place where the callers of one resolution meet. -/
structure Slot (Out : Type) where
  /-- The caller that has the lock. -/
  holder : Option Nat := none
  outcome : Option Out := none
  /-- How many resolutions have stored an outcome here. -/
  completions : Nat := 0
  deriving DecidableEq

/-- Every slot there ever was, by number, and the slots that are in the map, by key. -/
structure Table (Key Out : Type) where
  slots : List (Slot Out) := []
  published : List (Key × Nat) := []
  deriving DecidableEq

namespace Table

variable [DecidableEq Key]

def slotOf? (table : Table Key Out) (key : Key) : Option Nat :=
  table.published.lookup key

/-- The map section of a call: the slot under the key, which is a new one if there was none. -/
def join (table : Table Key Out) (key : Key) : Nat × Table Key Out :=
  match table.slotOf? key with
  | some slot => (slot, table)
  | none =>
    (table.slots.length,
      { slots := table.slots ++ [{}], published := (key, table.slots.length) :: table.published })

def modifySlot (table : Table Key Out) (slot : Nat) (f : Slot Out → Slot Out) : Table Key Out :=
  { table with slots := table.slots.modify slot f }

/-- Takes the lock of a slot, if it is free. With an outcome in the slot the lock is given up at
once and the outcome returned; else the caller keeps it. -/
def acquire (table : Table Key Out) (slot caller : Nat) : Option (Option Out × Table Key Out) := do
  let found ← table.slots[slot]?
  if found.holder.isSome then none
  else
    match found.outcome with
    | some outcome => return (some outcome, table)
    | none => return (none, table.modifySlot slot ({ · with holder := some caller }))

def finish (table : Table Key Out) (slot : Nat) (outcome : Out) : Table Key Out :=
  table.modifySlot slot fun s => { s with outcome := some outcome, completions := s.completions + 1 }

/-- Takes the slot out of the map, if it is the one under its key, and gives up its lock. -/
def close (table : Table Key Out) (key : Key) (slot : Nat) : Table Key Out :=
  let unpublished :=
    if table.slotOf? key = some slot then
      { table with published := table.published.filter (·.1 ≠ key) }
    else table
  unpublished.modifySlot slot ({ · with holder := none })

end Table

inductive Phase (Out : Type) where
  | outside
  | waiting (slot : Nat)
  | resolving (slot : Nat)
  /-- The outcome is stored, and the slot is still locked and in the map. -/
  | closing (slot : Nat) (outcome : Out)
  | returned (slot : Nat) (outcome : Out)
  deriving DecidableEq

structure Call (Key Out : Type) where
  key : Key
  phase : Phase Out := .outside
  deriving DecidableEq

structure State (Key Out : Type) where
  table : Table Key Out := {}
  calls : List (Call Key Out)
  deriving DecidableEq

/-- The atomic steps of a call. What a resolution comes to is open. -/
inductive Move (Out : Type) where
  | join
  | acquire
  | finish (outcome : Out)
  | close
  deriving DecidableEq

namespace State

variable [DecidableEq Key]

def start (keys : List Key) : State Key Out where
  calls := keys.map fun key => { key }

def setPhase (state : State Key Out) (i : Nat) (phase : Phase Out) : State Key Out :=
  { state with calls := state.calls.modify i ({ · with phase }) }

/-- The call at an index takes a step, if its phase and the locks allow it. -/
def step (state : State Key Out) (i : Nat) (move : Move Out) : Option (State Key Out) := do
  let call ← state.calls[i]?
  match move, call.phase with
  | .join, .outside =>
    let (slot, table) := state.table.join call.key
    return { state with table }.setPhase i (.waiting slot)
  | .acquire, .waiting slot =>
    match ← state.table.acquire slot i with
    | (some outcome, table) => return { state with table }.setPhase i (.returned slot outcome)
    | (none, table) => return { state with table }.setPhase i (.resolving slot)
  | .finish outcome, .resolving slot =>
    return { state with table := state.table.finish slot outcome }.setPhase i (.closing slot outcome)
  | .close, .closing slot outcome =>
    return { state with table := state.table.close call.key slot }.setPhase i (.returned slot outcome)
  | _, _ => none

def run (state : State Key Out) (schedule : List (Nat × Move Out)) : Option (State Key Out) :=
  schedule.foldlM (fun state (i, move) => state.step i move) state

def Reachable (keys : List Key) (state : State Key Out) : Prop :=
  ∃ schedule, (start keys).run schedule = some state

theorem Reachable.start (keys : List Key) : Reachable keys (State.start keys : State Key Out) :=
  ⟨[], rfl⟩

theorem Reachable.step {keys : List Key} {state next : State Key Out} {i : Nat} {move : Move Out}
    (h : Reachable keys state) (hs : state.step i move = some next) : Reachable keys next := by
  obtain ⟨schedule, h⟩ := h
  exact ⟨schedule ++ [(i, move)], by simp_all [run]⟩

end State

end NamedFunctions.Flight
