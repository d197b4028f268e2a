import NamedFunctions.Layer

/-! # Operations

The operations that a client can perform at any level of a stack of layers, as data, so that runs of
them can be spoken of. At the level of the store itself nothing can be discovered: there a name is
present or not found, and a lookup without a definition is one of the empty text. -/
namespace NamedFunctions

inductive Operation (Obj : Type) where
  | register (registration : Registration Obj)
  | lookup (kind : Option Kind) (definition : String) (outputTypes : List String)
  /-- A lookup that may leave the definition to the settings. -/
  | lookupDefault (kind : Option Kind) (definition : Option String) (outputTypes : List String)
  | resolve (name : String)
  | size
  | names (kind : Option Kind)
  | contains (name : String)

inductive Answer (Obj : Type) where
  | registration (result : Except RegisterError Unit)
  | pipeline (found : Option (Pipeline Obj))
  | resolution (resolution : Resolution)
  | size (size : Nat)
  | names (names : NameSet)
  | contains (known : Bool)

namespace Operation

variable {Obj : Type} [Described Obj]

/-- Performs an operation on the catalog made of the layers, at its top. -/
def perform (layers : List (Layer Obj)) (operation : Operation Obj) : Procedure Obj (Answer Obj) :=
  let catalog := Catalog.ofLayers layers
  match operation, layers with
  | .register registration, _ => .registration <$> catalog.register registration
  | .lookup kind definition outputTypes, _ =>
    .pipeline <$> catalog.lookup kind definition outputTypes
  | .lookupDefault kind definition outputTypes, layer :: below =>
    .pipeline <$> layer.lookup (.ofLayers below) kind definition outputTypes
  | .lookupDefault kind definition outputTypes, [] =>
    .pipeline <$> catalog.lookup kind (definition.getD "") outputTypes
  | .resolve name, layer :: below => .resolution <$> layer.resolve (.ofLayers below) name
  | .resolve name, [] => do
    return .resolution (if ← catalog.contains name then .present else .notFound)
  | .size, _ => .size <$> catalog.size
  | .names kind, _ => .names <$> catalog.names kind
  | .contains name, _ => .contains <$> catalog.contains name

end Operation

/-- The store after a run of operations, each with the layers on whose top it was performed. -/
def Store.afterAll {Obj : Type} [Described Obj] (store : Store Obj)
    (operations : List (List (Layer Obj) × Operation Obj)) : Store Obj :=
  operations.foldl (fun store (layers, operation) => ((operation.perform layers).run store).store) store

end NamedFunctions
