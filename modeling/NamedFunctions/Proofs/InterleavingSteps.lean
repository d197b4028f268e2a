import NamedFunctions.Concurrent.Interleaving
import NamedFunctions.Proofs.PublicationOrder

/-! # Steps of interleaved procedures

All that one step of a worker can come to, read off the step function once. A registration that is
under way goes through the phases of concurrent registration, and what is known of it there serves
here as well: an error that it answers was given by a store that the published one continues. -/
namespace NamedFunctions.Interleaving

open Publication (Snapshot)

variable {Obj α : Type}

/-- All that the step of a worker can come to. -/
inductive Stepped (state : State Obj α) (i : Nat) (worker : Worker Obj α) : State Obj α → Prop where
  | read {next : Store Obj → Procedure Obj α} : worker.stage = .ready (.read next) →
      Stepped state i worker
        (state.setWorker i { worker with stage := .ready (next state.current.store) })
  | note {note : Note} {next : Procedure Obj α} : worker.stage = .ready (.note note next) →
      Stepped state i worker
        ({ state with trace := state.trace ++ [(i, note)] }.setWorker i
          { worker with stage := .ready next })
  | submit {registration : Registration Obj} {next : Except RegisterError Unit → Procedure Obj α} :
      worker.stage = .ready (.register registration next) →
      Stepped state i worker
        (state.setWorker i { worker with stage := .registering registration .idle next })
  | answered {registration : Registration Obj} {answer : Except RegisterError Unit}
      {next : Except RegisterError Unit → Procedure Obj α} :
      worker.stage = .registering registration (.returned answer) next →
      Stepped state i worker (state.setWorker i { worker with stage := .ready (next answer) })
  | moved {registration : Registration Obj} {before after : Publication.Phase Obj}
      {next : Except RegisterError Unit → Procedure Obj α} :
      worker.stage = .registering registration before next →
      Publication.Moves registration state.current before after →
      Stepped state i worker
        (state.setWorker i { worker with stage := .registering registration after next })
  | published {registration : Registration Obj} {built : Store Obj}
      {next : Except RegisterError Unit → Procedure Obj α} :
      worker.stage = .registering registration (.swapping state.current.version built) next →
      Stepped state i worker
        ({ state with current := ⟨state.current.version + 1, built⟩ }.setWorker i
          { worker with stage := .ready (next (.ok ())) })
  | lost {registration : Registration Obj} {version : Nat} {built : Store Obj}
      {next : Except RegisterError Unit → Procedure Obj α} :
      worker.stage = .registering registration (.swapping version built) next →
      Stepped state i worker
        (state.setWorker i { worker with stage := .registering registration .loading next })
  | join {depth : Nat} {name : String} {next : Option Resolution → Procedure Obj α} :
      worker.stage = .ready (.enter depth name next) →
      Stepped state i worker
        ({ state with flights := (state.flights.join (depth, name)).2 }.setWorker i
          { worker with stage := .waiting (depth, name) (state.flights.join (depth, name)).1 next })
  | share {flight : FlightKey} {slot : Nat} {next : Option Resolution → Procedure Obj α}
      {outcome : Resolution} {flights : Flight.Table FlightKey Resolution} :
      worker.stage = .waiting flight slot next →
      state.flights.acquire slot i = some (some outcome, flights) →
      Stepped state i worker
        ({ state with flights }.setWorker i { worker with stage := .ready (next (some outcome)) })
  | lock {flight : FlightKey} {slot : Nat} {next : Option Resolution → Procedure Obj α}
      {flights : Flight.Table FlightKey Resolution} :
      worker.stage = .waiting flight slot next →
      state.flights.acquire slot i = some (none, flights) →
      Stepped state i worker
        ({ state with flights }.setWorker i
          { stage := .ready (next none), held := (flight, slot) :: worker.held })
  | finish {depth : Nat} {name : String} {outcome : Resolution} {next : Procedure Obj α}
      {flight : FlightKey} {slot : Nat} {held : List (FlightKey × Nat)} :
      worker.stage = .ready (.leave depth name outcome next) → worker.held = (flight, slot) :: held →
      Stepped state i worker
        ({ state with flights := state.flights.finish slot outcome }.setWorker i
          { stage := .closing flight slot next, held })
  | close {flight : FlightKey} {slot : Nat} {next : Procedure Obj α} :
      worker.stage = .closing flight slot next →
      Stepped state i worker
        ({ state with flights := state.flights.close flight slot }.setWorker i
          { worker with stage := .ready next })

theorem stepped_of_step {state next : State Obj α} {i : Nat} (h : state.step i = some next) :
    ∃ worker, state.workers[i]? = some worker ∧ Stepped state i worker next := by
  obtain ⟨worker, hw, h⟩ := Option.bind_eq_some_iff.1 h
  refine ⟨worker, hw, ?_⟩
  obtain ⟨stage, held⟩ := worker
  cases stage with
  | ready procedure =>
    cases procedure with
    | done value => cases h
    | read next =>
      cases h
      exact .read rfl
    | note note next =>
      cases h
      exact .note rfl
    | register registration next =>
      cases h
      exact .submit rfl
    | enter depth name next =>
      cases h
      exact .join rfl
    | leave depth name outcome next =>
      cases held with
      | nil => cases h
      | cons top held =>
        cases h
        exact .finish rfl rfl
  | registering registration phase next =>
    cases phase with
    | returned answer =>
      cases h
      exact .answered rfl
    | idle | loading | checking | swapping =>
      obtain ⟨progress, hp, h⟩ := Option.bind_eq_some_iff.1 h
      have ha := Publication.advances_of_advance hp
      cases progress with
      | moved after =>
        cases h
        cases ha with
        | moved hm => exact .moved rfl hm
      | published built =>
        cases h
        cases ha <;> exact .published rfl
      | lost =>
        cases h
        cases ha <;> exact .lost rfl
  | waiting flight slot next =>
    obtain ⟨⟨answer, flights⟩, ha, h⟩ := Option.bind_eq_some_iff.1 h
    cases answer with
    | some outcome =>
      cases h
      exact .share rfl ha
    | none =>
      cases h
      exact .lock rfl ha
  | closing flight slot next =>
    cases h
    exact .close rfl

theorem State.run_concat (state : State Obj α) (schedule : List Nat) (i : Nat) :
    state.run (schedule ++ [i]) = (state.run schedule).bind (·.step i) := by
  simp only [run, List.foldlM_append, List.foldlM_cons, List.foldlM_nil, bind_pure]
  rfl

theorem State.exists_worker_of_result? {state : State Obj α} {i : Nat} {value : α}
    (h : state.result? i = some value) :
    ∃ worker, state.workers[i]? = some worker ∧ worker.stage = .ready (.done value) := by
  unfold result? at h
  split at h
  · next held hw =>
    cases h
    exact ⟨_, hw, rfl⟩
  · cases h

/-! ## Registrations under way -/

/-- What is known of a registration that is under way. -/
structure Registers (current : Snapshot Obj) (call : Publication.Call Obj) : Prop where
  sound : call.Sound current
  traced : call.Traced fun snapshot => snapshot.store.Extends current.store
  pending : call.phase.answer? ≠ some (.ok ())

namespace Registers

variable {current next : Snapshot Obj} {call : Publication.Call Obj}

theorem start (registration : Registration Obj) : Registers current { registration } where
  sound := trivial
  traced := trivial
  pending := by simp [Publication.Phase.answer?]

theorem moves (h : Registers current call) {phase : Publication.Phase Obj}
    (hm : Publication.Moves call.registration current call.phase phase) :
    Registers current { call with phase } where
  sound := h.sound.moves hm
  traced := h.traced.moves h.sound (.refl _) hm
  pending := hm.answer?.2

theorem refused {registration : Registration Obj} {answer : Except RegisterError Unit}
    (h : Registers current { registration, phase := .returned answer }) :
    ∃ (snapshot : Snapshot Obj) (e : RegisterError), snapshot.store.Extends current.store ∧
      snapshot.store.register registration = .error e ∧ answer = .error e := by
  obtain ⟨snapshot, hg, ha⟩ := h.traced
  rw [Publication.Snapshot.answer] at ha
  cases hr : snapshot.store.register registration with
  | ok after =>
    rw [hr] at ha
    exact absurd (congrArg some ha.symm) h.pending
  | error e =>
    rw [hr] at ha
    exact ⟨snapshot, e, hg, hr, ha.symm⟩

theorem retry {registration : Registration Obj} {version : Nat} {built : Store Obj}
    (h : Registers current { registration, phase := .swapping version built }) :
    Registers current { registration, phase := .loading } where
  sound := h.sound.1
  traced := trivial
  pending := by simp [Publication.Phase.answer?]

theorem frame (h : Registers current call)
    (hn : next = current ∨ next.version = current.version + 1)
    (hg : current.store.Extends next.store) : Registers next call := by
  refine ⟨?_, h.traced.mono fun snapshot hs => hs.trans hg, h.pending⟩
  rcases hn with rfl | hv
  · exact h.sound
  · exact h.sound.publish hv

end Registers

end NamedFunctions.Interleaving
