import NamedFunctions.Catalog
import NamedFunctions.Settings

/-! # Layers

A layer is a catalog over another: names that the catalog below does not know are discovered in a
component registry and registered below, once. Failing to discover one name never stops the others.

The size and the names of a layer add the natively callable components of its registry to what is
below. This counts twice what is also registered, and misses plain objects until they have been
looked up. -/
namespace NamedFunctions

structure Layer (Obj : Type) where
  registry : Registry Obj
  settings : Settings := {}

namespace Layer

variable {Obj : Type}

/-- The definition a lookup is about: the given one unless it is blank, else the default, else the
empty text. -/
def effective (layer : Layer Obj) (definition : Option String) : String :=
  ((definition.filter fun text => !Text.isBlankText text).or layer.settings.defaultDefinition).getD ""

section Effective

variable (layer : Layer Obj)

theorem effective_some {definition : String} (h : Text.isBlankText definition = false) :
    layer.effective (some definition) = definition := by
  simp [effective, Option.filter, h]

variable {definition : Option String} (blank : ∀ text ∈ definition, Text.isBlankText text = true)
include blank

theorem effective_of_blank :
    layer.effective definition = layer.settings.defaultDefinition.getD "" := by
  have hnone : (definition.filter fun text => !Text.isBlankText text) = none := by simpa using blank
  rw [effective, hnone, Option.none_or]

theorem effective_of_default {text : String} (h : layer.settings.defaultDefinition = some text) :
    layer.effective definition = text := by
  rw [layer.effective_of_blank blank, h, Option.getD_some]

theorem effective_of_no_default (h : layer.settings.defaultDefinition = none) :
    layer.effective definition = "" := by
  rw [layer.effective_of_blank blank, h, Option.getD_none]

end Effective

variable [Described Obj] (layer : Layer Obj) (below : Catalog Obj)

def ask (query : Query) : Procedure Obj (query.Answer Obj) :=
  .consult below.depth (layer.registry.ask query)

/-- The component for a name: by name if the registry has one, else by qualifier. An ambiguous
qualifier counts as nothing. -/
def fetch (name : String) : Procedure Obj (Option (Component Obj)) := do
  if ← layer.ask below (.contains name) then layer.ask below (.fetch name)
  else
    match ← layer.ask below (.qualified name) with
    | .ok found => return found
    | .error e =>
      Procedure.report (.qualifierFailed name e)
      return none

/-- How a component is to be registered under a name, if it can be. A plain object is registered
through its functional method, whose signature is taken as it is. -/
def prepare (name : String) (component : Component Obj) :
    Procedure Obj (Option (Registration Obj × SignatureSource)) :=
  match component, component.treatment with
  | .registration r, _ => return some (r, .registration)
  | .bare target, .adapted =>
    match target.adapt with
    | .ok (adapted, method) =>
      return some ({ primary := name, target := adapted, signature := method.signature }, .method)
    | .error e => do
      Procedure.report (.notAdaptable name e)
      return none
  | .bare target, _ => do
    let found ← .consult below.depth (Discovery.discover layer.registry component name)
    return some ({ primary := name, target, signature := found.signature }, found.source)

def discover (name : String) : Procedure Obj Resolution := do
  let some component ← layer.fetch below name
    | Procedure.report (.notAvailable name); return .notFound
  let some (registration, source) ← layer.prepare below name component | return .unadaptable
  match ← below.register registration with
  | .ok () =>
    Procedure.report (.registered name registration.signature source)
    return .registered registration.signature
  | .error e =>
    Procedure.report (.notRegistered name e)
    return .rejected e

/-- Discovers a name unless the catalog below contains it; callers of one name share a flight. -/
def resolve (name : String) : Procedure Obj Resolution :=
  .inFlight below.depth name do
    if ← below.contains name then return .present
    layer.discover below name

/-- Resolves, one after another, the names that were not known at the start. -/
def resolveMissing (known : NameSet) : List String → Procedure Obj Unit
  | [] => return ()
  | name :: rest => do
    if known.contains name then Procedure.report (.alreadyPresent name)
    else discard (layer.resolve below name)
    resolveMissing known rest

/-- Looks a definition up below and, if that finds nothing, discovers what is missing and looks it
up again. -/
def lookup (kind : Option Kind) (definition : Option String) (outputTypes : List String) :
    Procedure Obj (Option (Pipeline Obj)) := do
  let raw := layer.effective definition
  if Definition.names raw = [] then
    Procedure.report (.emptyDefinition raw)
    return none
  if let some found ← below.lookup kind (Definition.canonical raw) outputTypes then
    return some found
  let known ← below.names none
  layer.resolveMissing below known (Definition.names raw)
  below.lookup kind (Definition.canonical raw) outputTypes

/-- The number of names that the registry has for some kinds, each kind counted for itself. -/
def countCapable : List Kind → Procedure Obj Nat
  | [] => return 0
  | kind :: rest => do
    let names ← layer.ask below (.capable kind)
    return names.size + (← countCapable rest)

/-- Adds the names that the registry has for some kinds. -/
def addCapable (names : NameSet) : List Kind → Procedure Obj NameSet
  | [] => return names
  | kind :: rest => do
    let more ← layer.ask below (.capable kind)
    addCapable (names.union more) rest

/-- The catalog that a layer makes of the one below it. -/
def atop : Catalog Obj where
  depth := below.depth + 1
  size := do
    let visible ← layer.countCapable below Kind.all
    return (← below.size) + visible
  names kind := do
    let names ← below.names kind
    layer.addCapable below names (kind.elim Kind.all fun k => [k])
  contains name := do
    if ← below.contains name then return true
    layer.ask below (.contains name)
  register := below.register
  lookup kind definition outputTypes := layer.lookup below kind (some definition) outputTypes

end Layer

namespace Catalog

variable {Obj : Type} [Described Obj]

/-- The catalog made of layers over the store, the topmost layer first. -/
def ofLayers (layers : List (Layer Obj)) : Catalog Obj :=
  layers.foldr Layer.atop base

@[simp] theorem ofLayers_nil : ofLayers ([] : List (Layer Obj)) = base := rfl

@[simp] theorem ofLayers_cons (layer : Layer Obj) (layers : List (Layer Obj)) :
    ofLayers (layer :: layers) = layer.atop (ofLayers layers) := rfl

@[simp] theorem depth_ofLayers (layers : List (Layer Obj)) :
    (ofLayers layers).depth = layers.length := by
  induction layers with
  | nil => rfl
  | cons layer layers ih => simp [Layer.atop, ih]

end Catalog

end NamedFunctions
