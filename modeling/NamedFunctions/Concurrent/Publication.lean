import NamedFunctions.Store

/-! # Concurrent registration

Many callers register at once in one published store, without a lock. A caller loads the published
snapshot, checks its names against it, builds the next store from it and swaps it in, but only while
the very snapshot that it loaded is still the published one; otherwise it loads again. A snapshot is
told from all others by its version, the number of swaps before it. -/
namespace NamedFunctions.Publication

structure Snapshot (Obj : Type) where
  version : Nat := 0
  store : Store Obj := {}

inductive Phase (Obj : Type) where
  | idle
  | loading
  | checking (loaded : Snapshot Obj)
  /-- The next store is built from the snapshot of the given version. -/
  | swapping (version : Nat) (built : Store Obj)
  | returned (answer : Except RegisterError Unit)

/-- What one atomic step of a call does. -/
inductive Progress (Obj : Type) where
  /-- Nothing that other callers could see. -/
  | moved (phase : Phase Obj)
  /-- The swap succeeds, and the call returns. -/
  | published (store : Store Obj)
  /-- The swap fails, since another caller has published meanwhile. -/
  | lost

variable {Obj : Type}

/-- The next atomic step of a call, by its phase and the published snapshot; a call that has returned
takes no more steps. -/
def Phase.advance (registration : Registration Obj) (current : Snapshot Obj) :
    Phase Obj → Option (Progress Obj)
  | idle =>
    if registration.names.any Text.isBlankText then some (.moved (returned (.error .unnamed)))
    else some (.moved loading)
  | loading => some (.moved (checking current))
  | checking loaded =>
    match loaded.store.taken? registration with
    | some name => some (.moved (returned (.error (.duplicate name))))
    | none => some (.moved (swapping loaded.version (loaded.store.append registration)))
  | swapping version built => if version = current.version then some (.published built) else some .lost
  | returned _ => none

structure Call (Obj : Type) where
  registration : Registration Obj
  phase : Phase Obj := .idle
  /-- How many swaps of this call have failed. -/
  failures : Nat := 0

/-- All calls, the published snapshot, and the calls that have published, in the order of their
swaps. -/
structure State (Obj : Type) where
  current : Snapshot Obj := {}
  calls : List (Call Obj)
  published : List Nat := []

namespace State

def start (store : Store Obj) (registrations : List (Registration Obj)) : State Obj where
  current := { store }
  calls := registrations.map fun registration => { registration }

/-- The call at an index takes its next step, if it has one. -/
def step (state : State Obj) (i : Nat) : Option (State Obj) := do
  let call ← state.calls[i]?
  match ← call.phase.advance call.registration state.current with
  | .moved phase => return { state with calls := state.calls.set i { call with phase } }
  | .published store => return {
      current := ⟨state.current.version + 1, store⟩
      calls := state.calls.set i { call with phase := .returned (.ok ()) }
      published := state.published ++ [i] }
  | .lost => return { state with
      calls := state.calls.set i { call with phase := .loading, failures := call.failures + 1 } }

def run (state : State Obj) (schedule : List Nat) : Option (State Obj) :=
  schedule.foldlM step state

def Reachable (store : Store Obj) (registrations : List (Registration Obj)) (state : State Obj) : Prop :=
  ∃ schedule, (start store registrations).run schedule = some state

theorem Reachable.start (store : Store Obj) (registrations : List (Registration Obj)) :
    Reachable store registrations (.start store registrations) := ⟨[], rfl⟩

theorem Reachable.step {store : Store Obj} {registrations : List (Registration Obj)}
    {state next : State Obj} {i : Nat} (h : Reachable store registrations state)
    (hs : state.step i = some next) : Reachable store registrations next := by
  obtain ⟨schedule, h⟩ := h
  exact ⟨schedule ++ [i], by simp_all [run]⟩

end State

end NamedFunctions.Publication
