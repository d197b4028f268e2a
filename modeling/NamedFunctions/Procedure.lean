import NamedFunctions.Event

/-! # Procedures

What a catalog does, as a tree of atomic steps: reading the store, registering, noting what it asked
or reported, and entering and leaving a flight, in which one caller resolves a name while others
wait for its outcome. `run` takes the steps one after another with no other caller about; the steps
are kept apart so that several procedures can also be interleaved. -/
namespace NamedFunctions

/-- What became of a name that was to be discovered. -/
inductive Resolution where
  /-- It was discovered and registered with this signature. -/
  | registered (signature : Signature)
  /-- It was already there. -/
  | present
  /-- The component registry has nothing under it. -/
  | notFound
  /-- Its component is a plain object without a single functional method. -/
  | unadaptable
  /-- The registration was refused. -/
  | rejected (error : RegisterError)
  deriving DecidableEq, Repr

/-- What an observer sees of a procedure. The depth of a layer is the number of layers below it. -/
inductive Note where
  /-- The registry of the layer at this depth was asked. -/
  | asked (depth : Nat) (query : Query)
  | reported (event : Event)
  deriving DecidableEq, Repr

inductive Procedure (Obj α : Type) where
  | done (value : α)
  | read (next : Store Obj → Procedure Obj α)
  | register (registration : Registration Obj) (next : Except RegisterError Unit → Procedure Obj α)
  | note (note : Note) (next : Procedure Obj α)
  /-- Joins or opens the flight of a name; the answer is the outcome of a caller before, if any. -/
  | enter (depth : Nat) (name : String) (next : Option Resolution → Procedure Obj α)
  /-- Hands the outcome to those who wait in the flight and closes it. -/
  | leave (depth : Nat) (name : String) (outcome : Resolution) (next : Procedure Obj α)

/-- What is left when a procedure has run. -/
structure Outcome (Obj α : Type) where
  value : α
  store : Store Obj
  trace : List Note

namespace Procedure

variable {Obj α β : Type}

def bind : Procedure Obj α → (α → Procedure Obj β) → Procedure Obj β
  | done a, f => f a
  | read next, f => read fun store => (next store).bind f
  | register r next, f => register r fun answer => (next answer).bind f
  | note n next, f => note n (next.bind f)
  | enter depth name next, f => enter depth name fun joined => (next joined).bind f
  | leave depth name outcome next, f => leave depth name outcome (next.bind f)

instance : Monad (Procedure Obj) where
  pure := done
  bind := bind

/-- Runs a procedure alone: no flight is ever joined. -/
def run : Procedure Obj α → Store Obj → Outcome Obj α
  | done value, store => ⟨value, store, []⟩
  | read next, store => (next store).run store
  | register r next, store =>
    match store.register r with
    | .ok store => (next (.ok ())).run store
    | .error e => (next (.error e)).run store
  | note n next, store =>
    let outcome := next.run store
    { outcome with trace := n :: outcome.trace }
  | enter _ _ next, store => (next none).run store
  | leave _ _ _ next, store => next.run store

/-- Reads something off the store as it is now. -/
def observe (f : Store Obj → α) : Procedure Obj α :=
  read fun store => done (f store)

def submit (registration : Registration Obj) : Procedure Obj (Except RegisterError Unit) :=
  register registration done

def report (event : Event) : Procedure Obj Unit :=
  note (.reported event) (done ())

/-- Makes an inquiry at the registry of the layer at this depth. -/
def consult (depth : Nat) (inquiry : Inquiry α) : Procedure Obj α :=
  inquiry.asked.foldr (fun query next => note (.asked depth query) next) (done inquiry.value)

/-- Resolves a name in its flight, unless a caller before has an outcome to share. -/
def inFlight (depth : Nat) (name : String) (resolve : Procedure Obj Resolution) :
    Procedure Obj Resolution :=
  enter depth name fun
    | some outcome => done outcome
    | none => resolve.bind fun outcome => leave depth name outcome (done outcome)

@[simp] theorem pure_eq_done (a : α) : (pure a : Procedure Obj α) = done a := rfl

@[simp] theorem done_bind (a : α) (f : α → Procedure Obj β) : (done a >>= f) = f a := rfl

theorem bind_eq_bind (p : Procedure Obj α) (f : α → Procedure Obj β) : (p >>= f) = p.bind f := rfl

instance : LawfulMonad (Procedure Obj) :=
  LawfulMonad.mk' (Procedure Obj)
    (fun p => by
      show p.bind done = p
      induction p with
      | done => rfl
      | read _ ih => exact congrArg read (funext ih)
      | register r _ ih => exact congrArg (register r) (funext ih)
      | note n _ ih => exact congrArg (note n) ih
      | enter depth name _ ih => exact congrArg (enter depth name) (funext ih)
      | leave depth name outcome _ ih => exact congrArg (leave depth name outcome) ih)
    (fun _ _ => rfl)
    (fun p f g => by
      show (p.bind f).bind g = p.bind fun a => (f a).bind g
      induction p with
      | done => rfl
      | read _ ih => exact congrArg read (funext ih)
      | register r _ ih => exact congrArg (register r) (funext ih)
      | note n _ ih => exact congrArg (note n) ih
      | enter depth name _ ih => exact congrArg (enter depth name) (funext ih)
      | leave depth name outcome _ ih => exact congrArg (leave depth name outcome) ih)

@[simp] theorem run_done (a : α) (store : Store Obj) : (done a).run store = ⟨a, store, []⟩ := rfl

/-- Two procedures in sequence: the second starts from the store that the first leaves, and the
traces follow one another. -/
@[simp] theorem run_bind (p : Procedure Obj α) (f : α → Procedure Obj β) (store : Store Obj) :
    (p >>= f).run store =
      let first := p.run store
      let second := (f first.value).run first.store
      ⟨second.value, second.store, first.trace ++ second.trace⟩ := by
  show (p.bind f).run store = _
  induction p generalizing store with
  | done => rfl
  | read _ ih => exact ih store store
  | register r _ ih =>
    simp only [bind, run]
    split <;> exact ih ..
  | note n _ ih => simp [bind, run, ih]
  | enter _ _ _ ih => exact ih none store
  | leave _ _ _ _ ih => exact ih store

@[simp] theorem run_observe (f : Store Obj → α) (store : Store Obj) :
    (observe f).run store = ⟨f store, store, []⟩ := rfl

@[simp] theorem run_report (event : Event) (store : Store Obj) :
    (report event : Procedure Obj Unit).run store = ⟨(), store, [.reported event]⟩ := rfl

@[simp] theorem run_consult (depth : Nat) (inquiry : Inquiry α) (store : Store Obj) :
    (consult depth inquiry).run store =
      ⟨inquiry.value, store, inquiry.asked.map (Note.asked depth)⟩ := by
  obtain ⟨value, asked⟩ := inquiry
  induction asked with
  | nil => rfl
  | cons query rest ih => simp_all [consult, run]

theorem run_submit (r : Registration Obj) (store : Store Obj) :
    (submit r).run store =
      match store.register r with
      | .ok store => ⟨.ok (), store, []⟩
      | .error e => ⟨.error e, store, []⟩ := by
  simp only [submit, run]

/-- With no other caller about, a flight is as if it were not there. -/
@[simp] theorem run_inFlight (depth : Nat) (name : String) (resolve : Procedure Obj Resolution)
    (store : Store Obj) : (inFlight depth name resolve).run store = resolve.run store := by
  show (resolve >>= fun outcome => leave depth name outcome (done outcome)).run store = _
  simp [run]

end Procedure

end NamedFunctions
