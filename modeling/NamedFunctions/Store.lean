import NamedFunctions.Definition
import NamedFunctions.NameSet
import NamedFunctions.Pipeline
import Std.Data.TreeMap

/-! # Stores of registrations

Registrations in the order in which they were accepted, and an index from every name to the slot of
its registration. A store only grows: a registration is accepted with all of its names or not at
all. -/
namespace NamedFunctions

inductive RegisterError where
  /-- A name is already taken. -/
  | duplicate (name : String)
  /-- A name is blank. -/
  | unnamed
  deriving DecidableEq, Repr

namespace RegisterError

def message : RegisterError → String
  | duplicate name => "function '" ++ name ++ "' is already registered"
  | unnamed => "registration has no name"

end RegisterError

inductive LookupMiss (Obj : Type) where
  | unknown (name : String)
  /-- The stage cannot stand at its position. -/
  | misplaced (stage : Registration Obj)
  | empty
  /-- The pipeline is not of the wanted kind. -/
  | otherKind (kind : Kind)
  deriving DecidableEq

structure Store (Obj : Type) where
  registrations : List (Registration Obj) := []
  slots : Std.TreeMap String Nat := {}

namespace Store

variable {Obj : Type}

def empty : Store Obj := {}

def get? (store : Store Obj) (name : String) : Option (Registration Obj) :=
  store.slots[name]?.bind fun slot => store.registrations[slot]?

def contains (store : Store Obj) (name : String) : Bool :=
  store.slots.contains name

def size (store : Store Obj) : Nat :=
  store.registrations.length

/-- Whether the registration in a slot is of the kind; no kind admits every slot. -/
def admits (store : Store Obj) (slot : Nat) : Option Kind → Bool
  | none => true
  | some kind => store.registrations[slot]?.any fun r => r.kind == kind

/-- All names and aliases, of one kind or of all. -/
def names (store : Store Obj) (kind : Option Kind) : NameSet :=
  .ofList <| (store.slots.toList.filter fun entry => store.admits entry.2 kind).map Prod.fst

/-- The first name of a registration that is already taken. -/
def taken? (store : Store Obj) (registration : Registration Obj) : Option String :=
  registration.names.find? store.contains

/-- The store with one registration more, which its names lead to from now on. -/
def append (store : Store Obj) (registration : Registration Obj) : Store Obj where
  registrations := store.registrations ++ [registration]
  slots := registration.names.foldl (·.insert · store.size) store.slots

/-- Blank names are refused first, then names already taken, in the registration's own order. -/
def register (store : Store Obj) (registration : Registration Obj) :
    Except RegisterError (Store Obj) :=
  if registration.names.any Text.isBlankText then .error .unnamed
  else
    match store.taken? registration with
    | some name => .error (.duplicate name)
    | none => .ok (store.append registration)

theorem getElem?_foldl_insert (names : List String) (slot : Nat) (slots : Std.TreeMap String Nat)
    (name : String) :
    (names.foldl (·.insert · slot) slots)[name]? = if name ∈ names then some slot else slots[name]? := by
  induction names generalizing slots with
  | nil => simp
  | cons first rest ih =>
    rw [List.foldl_cons, ih, Std.TreeMap.getElem?_insert]
    by_cases h : first = name
    · simp [h]
    · simp [h, Ne.symm h]

theorem contains_eq_isSome (store : Store Obj) (name : String) :
    store.contains name = store.slots[name]?.isSome := by
  simp [contains]

@[simp] theorem contains_empty (name : String) : (empty : Store Obj).contains name = false := by
  simp [contains, empty]

@[simp] theorem registrations_append (store : Store Obj) (registration : Registration Obj) :
    (store.append registration).registrations = store.registrations ++ [registration] := rfl

@[simp] theorem size_append (store : Store Obj) (registration : Registration Obj) :
    (store.append registration).size = store.size + 1 := by
  simp [size]

@[simp] theorem contains_append (store : Store Obj) (registration : Registration Obj) (name : String) :
    (store.append registration).contains name =
      (decide (name ∈ registration.names) || store.contains name) := by
  rw [contains_eq_isSome, append, getElem?_foldl_insert, contains_eq_isSome]
  split <;> simp_all

theorem get?_append_of_mem (store : Store Obj) {registration : Registration Obj} {name : String}
    (h : name ∈ registration.names) : (store.append registration).get? name = some registration := by
  simp [get?, append, getElem?_foldl_insert, h, size]

theorem get?_append_of_eq_some {store : Store Obj} {registration found : Registration Obj}
    {name : String} (h : name ∉ registration.names) (hf : store.get? name = some found) :
    (store.append registration).get? name = some found := by
  obtain ⟨slot, hs, hr⟩ := Option.bind_eq_some_iff.1 hf
  have hlt := (List.getElem?_eq_some_iff.1 hr).1
  simp [get?, append, getElem?_foldl_insert, h, hs, List.getElem?_append_left hlt, hr]

theorem taken?_eq_none {store : Store Obj} {registration : Registration Obj} :
    store.taken? registration = none ↔ ∀ name ∈ registration.names, store.contains name = false := by
  simp [taken?]

theorem register_eq_unnamed {store : Store Obj} {registration : Registration Obj} :
    store.register registration = .error .unnamed ↔
      ∃ name ∈ registration.names, Text.isBlankText name = true := by
  unfold register
  split
  · simp_all
  · split <;> simp_all

theorem register_eq_duplicate {store : Store Obj} {registration : Registration Obj} {name : String} :
    store.register registration = .error (.duplicate name) ↔
      (∀ name ∈ registration.names, Text.isBlankText name = false) ∧
        store.taken? registration = some name := by
  unfold register
  split
  · next hb =>
    obtain ⟨blank, hm, hblank⟩ := List.any_eq_true.1 hb
    constructor
    · intro h
      cases h
    · rintro ⟨hnames, -⟩
      rw [hnames blank hm] at hblank
      cases hblank
  · cases h : store.taken? registration <;> simp_all

theorem register_eq_ok {store next : Store Obj} {registration : Registration Obj} :
    store.register registration = .ok next ↔
      (∀ name ∈ registration.names, Text.isBlankText name = false ∧ store.contains name = false) ∧
        next = store.append registration := by
  unfold register
  split
  · simp_all
    grind
  · cases h : store.taken? registration <;> grind [taken?_eq_none]

/-- The registrations under the names, in order, or the first name that is unknown. -/
def getAll (store : Store Obj) : List String → Except (LookupMiss Obj) (List (Registration Obj))
  | [] => .ok []
  | name :: rest =>
    match store.get? name with
    | none => .error (.unknown name)
    | some registration => (store.getAll rest).map (registration :: ·)

/-- The pipeline that a definition names, if it is well formed and of the wanted kind. -/
def lookup (store : Store Obj) (kind : Option Kind) (definition : String)
    (outputTypes : List String) : Except (LookupMiss Obj) (Pipeline Obj) := do
  let stages ← store.getAll (Definition.stages definition)
  if let some stage := Pipeline.misplaced? true stages then throw (.misplaced stage)
  match Pipeline.ofStages? (Definition.canonical definition) stages outputTypes with
  | none => throw .empty
  | some pipeline =>
    if kind.all (· == pipeline.kind) then return pipeline else throw (.otherKind pipeline.kind)

end Store

end NamedFunctions
