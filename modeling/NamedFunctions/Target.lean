import NamedFunctions.ObjectClass
import NamedFunctions.Invocation
import NamedFunctions.Payload

/-! # Targets of functions

Objects live in a host. Their classes are known without running anything; calling one, or one of
its methods, runs in the host's world. A target is an object itself, or a method of a target made
callable in its own right. -/
namespace NamedFunctions

/-- Objects that describe themselves by a class. -/
class Described (Obj : Type) where
  classOf : Obj → ObjectClass

/-- Objects that can be called. An object may refuse both entry points, and by default it does. -/
class Host (World Payload : outParam Type) (Obj : Type) extends Described Obj where
  /-- The native entry point. -/
  call (object : Obj) (_input : Payload) : Invocation World Payload :=
    throw (.notCallable (Described.classOf object).name)
  /-- One of the methods. -/
  invoke (object : Obj) (method : String) (_input : Payload) : Invocation World Payload :=
    throw (.noSuchMethod (Described.classOf object).name method)

inductive Target (Obj : Type) where
  /-- An object, through its native entry point. -/
  | object (object : Obj)
  /-- A method of a target, as a transform. -/
  | adapted (target : Target Obj) (method : Method)
  deriving DecidableEq

/-- The class of a method made callable: a generated stand-in whose one capability is to transform
and whose signature is the method's. -/
def Method.adaptedClass (method : Method) (owner : ObjectClass) : ObjectClass where
  name := owner.name ++ "::" ++ method.name
  flags := { synthetic := true, proxy := true }
  capabilities := .only .transform
  generics := some method.signature

namespace Target

variable {Obj World Payload : Type}

def classOf [Described Obj] : Target Obj → ObjectClass
  | object o => Described.classOf o
  | adapted target method => method.adaptedClass target.classOf

/-- An adapted method exposes no methods of its own. -/
def invoke [Host World Payload Obj] :
    Target Obj → String → Payload → Invocation World Payload
  | object o, method, input => Host.invoke o method input
  | adapted target method, name, _ => throw (.noSuchMethod (adapted target method).classOf.name name)

/-- Calling an adapted method invokes it on its target. -/
def call [Host World Payload Obj] : Target Obj → Payload → Invocation World Payload
  | object o, input => Host.call o input
  | adapted target method, input => target.invoke method.name input

def adapt [Described Obj] (target : Target Obj) : Except MethodError (Target Obj × Method) :=
  target.classOf.functionalMethod.map fun method => (adapted target method, method)

@[simp] theorem call_object [Host World Payload Obj] (object : Obj) (input : Payload) :
    (Target.object object).call input = Host.call object input := rfl

@[simp] theorem invoke_object [Host World Payload Obj] (object : Obj) (method : String)
    (input : Payload) : (Target.object object).invoke method input = Host.invoke object method input :=
  rfl

@[simp] theorem call_adapted [Host World Payload Obj] (target : Target Obj)
    (method : Method) (input : Payload) :
    (adapted target method).call input = target.invoke method.name input := rfl

@[simp] theorem classOf_adapted [Described Obj] (target : Target Obj) (method : Method) :
    (adapted target method).classOf = method.adaptedClass target.classOf := rfl

end Target

end NamedFunctions
