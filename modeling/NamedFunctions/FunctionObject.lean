import NamedFunctions.Target

/-! # Function objects

An object made of one function body. Its class is synthetic and has exactly one capability, which
also fixes how the body is fed: a producer's body is given no value and a consumer's result is
dropped. -/
namespace NamedFunctions

structure FunctionObject (Body : Type) where
  kind : Kind
  className : String
  body : Body
  generics : Option Signature := none
  flags : ClassFlags := { synthetic := true }
  deriving DecidableEq

namespace FunctionObject

variable {Body World Payload : Type} [HasNull Payload]

def classOf (object : FunctionObject Body) : ObjectClass where
  name := object.className
  flags := object.flags
  capabilities := .only object.kind
  generics := object.generics

/-- Runs the body as its kind asks, where `exec` says what a body does with a value. -/
def call (exec : Body → Payload → Invocation World Payload) (object : FunctionObject Body)
    (input : Payload) : Invocation World Payload :=
  match object.kind with
  | .producer => exec object.body HasNull.null
  | .transform => exec object.body input
  | .consumer => do
    let _ ← exec object.body input
    return HasNull.null

end FunctionObject

end NamedFunctions
