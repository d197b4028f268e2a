import NamedFunctions.Registry.Basic

/-! # Discovering signatures

The signature of a candidate that is to be registered under a name. Four rules are tried in order
and the first with an opinion wins: a routing object has the signature declared on the definition of
exactly that name; a registration has its own; a name bound to a factory has that of the produced
class; and in the end the candidate's own class speaks. Only the last is refined: where the class
says nothing precise about the input, the signature declared on the definition replaces it.

Discovery asks the registry and nothing else. -/
namespace NamedFunctions

inductive SignatureSource where
  | routing
  | registration
  | factory
  | ownClass
  /-- The class was overruled by its definition. -/
  | declared
  /-- The functional method of an adapted object. -/
  | method
  deriving DecidableEq, Repr

/-- The word that events use for the rule. -/
def SignatureSource.label : SignatureSource → String
  | routing => "Routing"
  | registration => "Registration"
  | factory => "Factory"
  | ownClass => "Class"
  | declared => "Declared"
  | method => "Method"

structure Discovered where
  signature : Signature
  source : SignatureSource
  deriving DecidableEq, Repr

namespace Discovery

variable {Obj : Type}

/-- The first of the names that has a definition; no name after it is asked about. -/
def firstDefined (registry : Registry Obj) : List String → Inquiry (Option String)
  | [] => return none
  | name :: rest => do
    if ← registry.ask (.hasDefinition name) then return some name
    else firstDefined registry rest

/-- The name whose definition stands behind a name: the first of its aliases that has one, else the
name itself. -/
def definitionName (registry : Registry Obj) (name : String) : Inquiry String := do
  let aliases ← registry.ask (.aliases name)
  return (← firstDefined registry aliases).getD name

def fromRouting [Described Obj] (registry : Registry Obj) (candidate : Component Obj)
    (name : String) : Inquiry (Option Signature) :=
  match candidate with
  | .bare target =>
    if target.classOf.flags.routing then registry.ask (.declared name) else return none
  | .registration _ => return none

def fromFactory (registry : Registry Obj) (name : String) : Inquiry (Option Signature) := do
  if ← registry.ask (.isFactory name) then
    return (← registry.ask (.produced name)).map ObjectClass.signature
  else return none

/-- Lets the definition overrule a class signature whose input is not concrete. -/
def refineByDefinition (registry : Registry Obj) (name : String) (signature : Signature) :
    Inquiry Discovered := do
  let definition ← definitionName registry name
  if signature.input.isConcrete then return ⟨signature, .ownClass⟩
  if ← registry.ask (.hasDefinition definition) then
    match ← registry.ask (.declared definition) with
    | some declared => return ⟨declared, .declared⟩
    | none => return ⟨signature, .ownClass⟩
  else return ⟨signature, .ownClass⟩

/-- The signature of a candidate to be registered under a name, and the rule that gave it. -/
def discover [Described Obj] (registry : Registry Obj) (candidate : Component Obj)
    (name : String) : Inquiry Discovered := do
  if let some signature ← fromRouting registry candidate name then
    return ⟨signature, .routing⟩
  if let .registration r := candidate then
    return ⟨r.signature, .registration⟩
  if let some signature ← fromFactory registry name then
    return ⟨signature, .factory⟩
  refineByDefinition registry name candidate.classOf.signature

theorem value_firstDefined (registry : Registry Obj) (names : List String) :
    (firstDefined registry names).value = names.find? fun name => registry (.hasDefinition name) := by
  induction names with
  | nil => rfl
  | cons name rest ih =>
    cases h : registry (.hasDefinition name) <;> simp [firstDefined, h, ih]

theorem value_definitionName (registry : Registry Obj) (name : String) :
    (definitionName registry name).value =
      ((registry (.aliases name)).find? fun extra => registry (.hasDefinition extra)).getD name := by
  simp [definitionName, value_firstDefined]

end Discovery

end NamedFunctions
