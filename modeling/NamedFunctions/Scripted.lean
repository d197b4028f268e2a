import NamedFunctions.FunctionObject
import NamedFunctions.Value
import Std.Data.TreeMap

/-! # Scripted objects

A small host whose objects are given as data: every body is a script, and the world holds one
counter per object and the values that scripts have recorded. -/
namespace NamedFunctions.Scripted

/-- What one body does with the value it is given. -/
inductive Script where
  | identity
  | const (value : Value)
  /-- Upper-cases the ASCII letters of a text. -/
  | upper
  /-- Reverses the code points of a text. -/
  | reverse
  | append (suffix : String)
  /-- Adds to an integer of 64 bits. -/
  | add (amount : Int)
  /-- An object with one key, which holds the value. -/
  | wrap (key : String)
  /-- Counts the calls of this and the other counting bodies of the object, from zero. -/
  | count
  /-- Notes the value in the world and gives it back. -/
  | record
  | fail (reason : String)
  | invalid (reason : String)

structure World where
  counters : Std.TreeMap Nat Nat := {}
  recorded : List Value := []

def fitsInt64 (n : Int) : Bool :=
  -0x8000000000000000 ≤ n && n ≤ 0x7FFFFFFFFFFFFFFF

def onText (f : String → String) : Value → Invocation World Value
  | .text s => return .text (f s)
  | _ => throw (.invalidInput "expected string")

/-- Runs a script as a body of the object with the given identity. -/
def Script.exec (identity : Nat) : Script → Value → Invocation World Value
  | .identity, v => return v
  | .const value, _ => return value
  | .upper, v => onText (·.map Char.toUpper) v
  | .reverse, v => onText (fun s => String.ofList s.toList.reverse) v
  | .append suffix, v => onText (· ++ suffix) v
  | .add amount, .int n =>
    if !fitsInt64 n then throw (.invalidInput "expected integer")
    else if fitsInt64 (n + amount) then return .int (n + amount)
    else throw (.failed "overflow")
  | .add _, _ => throw (.invalidInput "expected integer")
  | .wrap key, v => return .object [(key, v)]
  | .count, _ => do
    let seen := (← get).counters.getD identity 0
    modify fun world => { world with counters := world.counters.insert identity (seen + 1) }
    return .int seen
  | .record, v => do
    modify fun world => { world with recorded := world.recorded ++ [v] }
    return v
  | .fail reason, _ => throw (.failed reason)
  | .invalid reason, _ => throw (.invalidInput reason)

/-- A scripted object. Its identity tells it from other objects with the same class and bodies. -/
inductive Object where
  | function (identity : Nat) (function : FunctionObject Script)
  /-- The native entry point and the bodies are independent of the methods that the class lists. -/
  | custom (identity : Nat) (cls : ObjectClass) (entry : Option Script)
      (bodies : List (String × Script))

namespace Object

def classOf : Object → ObjectClass
  | function _ f => f.classOf
  | custom _ cls _ _ => cls

instance : Described Object := ⟨classOf⟩

def call : Object → Value → Invocation World Value
  | function identity f, v => f.call (Script.exec identity) v
  | custom identity _ (some entry) _, v => entry.exec identity v
  | object, _ => throw (.notCallable object.classOf.name)

def invoke : Object → String → Value → Invocation World Value
  | object@(function ..), method, _ => throw (.noSuchMethod object.classOf.name method)
  | custom identity cls _ bodies, method, v =>
    match bodies.lookup method with
    | some body => body.exec identity v
    | none => throw (.noSuchMethod cls.name method)

instance : Host World Value Object where
  call := call
  invoke := invoke

end Object

end NamedFunctions.Scripted
