import NamedFunctions.Procedure

/-! # Catalogs

The operations by which functions are stored and looked up. The base catalog works on the store
alone; further catalogs are layered over it. -/
namespace NamedFunctions

structure Catalog (Obj : Type) where
  /-- The number of layers over the store. -/
  depth : Nat
  size : Procedure Obj Nat
  /-- The known names, of one kind or of all. -/
  names : Option Kind → Procedure Obj NameSet
  contains : String → Procedure Obj Bool
  /-- Stores a registration under all of its names. -/
  register : Registration Obj → Procedure Obj (Except RegisterError Unit)
  /-- The pipeline that a definition names. -/
  lookup : Option Kind → String → List String → Procedure Obj (Option (Pipeline Obj))

namespace Catalog

variable {Obj : Type}

/-- Looks a definition up in the store; of the ways to find nothing only a misplaced stage is
reported. -/
def lookupStored (kind : Option Kind) (definition : String) (outputTypes : List String) :
    Procedure Obj (Option (Pipeline Obj)) := do
  match ← Procedure.observe (·.lookup kind definition outputTypes) with
  | .ok pipeline => return some pipeline
  | .error (.misplaced stage) =>
    Procedure.report (.misplaced definition stage.primary stage.kind)
    return none
  | .error _ => return none

/-- The catalog of the store itself. -/
def base : Catalog Obj where
  depth := 0
  size := .observe (·.size)
  names kind := .observe (·.names kind)
  contains name := .observe (·.contains name)
  register := .submit
  lookup := lookupStored

end Catalog

end NamedFunctions
