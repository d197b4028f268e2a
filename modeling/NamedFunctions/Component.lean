import NamedFunctions.Registration

/-! # Components

What a component registry hands out under a name: a registration made by someone else, or a bare
target that still has to be registered. -/
namespace NamedFunctions

inductive Component (Obj : Type) where
  | registration (registration : Registration Obj)
  | bare (target : Target Obj)
  deriving DecidableEq

inductive Treatment where
  /-- It is a registration and is taken as it is. -/
  | asRegistered
  /-- It is called directly; its signature has to be found. -/
  | calledDirectly
  /-- It is a plain object whose functional method is adapted. -/
  | adapted
  deriving DecidableEq, Repr

namespace Component

variable {Obj : Type}

/-- What is called in the end: a registration's own target, or the bare target. -/
def target : Component Obj → Target Obj
  | registration r => r.target
  | bare target => target

def classOf [Described Obj] (component : Component Obj) : ObjectClass :=
  component.target.classOf

def treatment [Described Obj] : Component Obj → Treatment
  | registration _ => .asRegistered
  | bare target => if target.classOf.isPlain then .adapted else .calledDirectly

end Component

end NamedFunctions
