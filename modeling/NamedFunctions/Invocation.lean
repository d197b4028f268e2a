/-! # Invocations

Calling an object may fail and may change the world the object lives in. A failed call keeps the
changes it made before it failed. -/
namespace NamedFunctions

/-- Why a call gave no value. -/
inductive InvocationError where
  /-- The object has no native entry point. -/
  | notCallable (className : String)
  /-- The object does not expose the method. -/
  | noSuchMethod (className method : String)
  /-- The argument does not fit. -/
  | invalidInput (reason : String)
  /-- The body failed. -/
  | failed (reason : String)
  deriving DecidableEq, Repr

namespace InvocationError

def message : InvocationError → String
  | notCallable className => className ++ " is not callable"
  | noSuchMethod className method => className ++ " has no method '" ++ method ++ "'"
  | invalidInput reason => "invalid input: " ++ reason
  | failed reason => reason

end InvocationError

/-- A call that runs in a world. -/
abbrev Invocation (World : Type) (α : Type) : Type :=
  ExceptT InvocationError (StateM World) α

end NamedFunctions
