import NamedFunctions.Signature

/-! # Classes of objects

What an object says about itself: the markers of its class, the capabilities it has natively, the
generic signature it declares, if any, and the methods it exposes. An object that is neither
synthetic nor natively callable can still serve as a function through its one functional method. -/
namespace NamedFunctions

/-- The markers of a class. No others exist, so a mask with other bits set has no counterpart. -/
structure ClassFlags where
  /-- Generated, as a closure or a wrapper is. -/
  synthetic : Bool := false
  /-- Dispatches to other functions. -/
  routing : Bool := false
  /-- Stands in for another object. -/
  proxy : Bool := false
  deriving DecidableEq, Repr

/-- The flags as a bit mask: synthetic 1, routing 2, proxy 4. -/
def ClassFlags.bits (flags : ClassFlags) : Nat :=
  flags.synthetic.toNat + 2 * flags.routing.toNat + 4 * flags.proxy.toNat

/-- The markers of a method, and no others as with those of a class. -/
structure MethodFlags where
  isPublic : Bool := false
  isStatic : Bool := false
  isSynthetic : Bool := false
  isBridge : Bool := false
  deriving DecidableEq, Repr

/-- The flags as a bit mask: public 1, static 2, synthetic 4, bridge 8. -/
def MethodFlags.bits (flags : MethodFlags) : Nat :=
  flags.isPublic.toNat + 2 * flags.isStatic.toNat + 4 * flags.isSynthetic.toNat +
    8 * flags.isBridge.toNat

/-- A method is a public instance method unless its flags say otherwise. -/
structure Method where
  name : String
  signature : Signature
  flags : MethodFlags := { isPublic := true }
  deriving DecidableEq, Repr

/-- A method that can be used as a function of one argument: a public instance method, written in
the source of its class, that takes an argument. -/
def Method.isFunctional (method : Method) : Bool :=
  method.flags.isPublic &&
    !(method.flags.isStatic || method.flags.isSynthetic || method.flags.isBridge) &&
    method.signature.input != .void

theorem Method.isFunctional_iff {method : Method} :
    method.isFunctional = true ↔
      method.flags.isPublic = true ∧ method.flags.isStatic = false ∧
        method.flags.isSynthetic = false ∧ method.flags.isBridge = false ∧
          method.signature.input ≠ .void := by
  simp [isFunctional, and_assoc]

structure ObjectClass where
  name : String
  flags : ClassFlags := {}
  capabilities : Capabilities := {}
  /-- The signature that the class declares, where it survives erasure. -/
  generics : Option Signature := none
  methods : List Method := []
  deriving DecidableEq, Repr

/-- Why a class has no functional method to adapt. -/
inductive MethodError where
  | noCandidate (className : String)
  | ambiguous (className : String) (candidates : List String)
  deriving DecidableEq, Repr

namespace MethodError

def message : MethodError → String
  | noCandidate className => className ++ " exposes no method usable as a function"
  | ambiguous className candidates =>
    className ++ " exposes several functional methods: " ++ String.intercalate ", " candidates

end MethodError

namespace ObjectClass

/-- Objects of a plain class have to be adapted before they can be called. -/
def isPlain (cls : ObjectClass) : Bool :=
  !cls.flags.synthetic && cls.capabilities == Capabilities.none

/-- The one functional method of the class; none and several are both errors, so nothing is chosen
arbitrarily. -/
def functionalMethod (cls : ObjectClass) : Except MethodError Method :=
  match cls.methods.filter Method.isFunctional with
  | [] => .error (.noCandidate cls.name)
  | [method] => .ok method
  | candidates => .error (.ambiguous cls.name (candidates.map Method.name))

/-- What a single native capability says about the signature. -/
def impliedSignature (cls : ObjectClass) : Signature :=
  if cls.capabilities = .only .producer then ⟨.void, .unresolved⟩
  else if cls.capabilities = .only .consumer then ⟨.unresolved, .void⟩
  else .unresolved

/-- The declared signature where there is one, its open sides filled by what the capabilities
imply. -/
def signature (cls : ObjectClass) : Signature :=
  (cls.generics.getD .unresolved).refine cls.impliedSignature

theorem functionalMethod_eq_ok {cls : ObjectClass} {method : Method} :
    cls.functionalMethod = .ok method ↔ cls.methods.filter Method.isFunctional = [method] := by
  unfold functionalMethod
  generalize cls.methods.filter Method.isFunctional = candidates
  match candidates with
  | [] | [_] | _ :: _ :: _ => simp

theorem input_impliedSignature_eq_void {cls : ObjectClass} :
    cls.impliedSignature.input = .void ↔ cls.capabilities = .only .producer := by
  unfold impliedSignature
  split
  · next hproducer => simp [hproducer]
  · next hproducer => split <;> simp [hproducer, Signature.unresolved]

theorem output_impliedSignature_eq_void {cls : ObjectClass} :
    cls.impliedSignature.output = .void ↔ cls.capabilities = .only .consumer := by
  unfold impliedSignature
  split
  · next hproducer => simp [hproducer]
  · split
    · next hconsumer => simp [hconsumer]
    · next hconsumer => simp [hconsumer, Signature.unresolved]

/-- The input is void if the class declares it so, or leaves it open and only produces. -/
theorem input_signature_eq_void {cls : ObjectClass} :
    cls.signature.input = .void ↔
      (cls.generics.getD .unresolved).input = .void ∨
        (cls.generics.getD .unresolved).input = .unresolved ∧ cls.capabilities = .only .producer := by
  rw [signature, Signature.refine, Shape.orElse_eq_void, input_impliedSignature_eq_void]

/-- The output is void if the class declares it so, or leaves it open and only consumes. -/
theorem output_signature_eq_void {cls : ObjectClass} :
    cls.signature.output = .void ↔
      (cls.generics.getD .unresolved).output = .void ∨
        (cls.generics.getD .unresolved).output = .unresolved ∧ cls.capabilities = .only .consumer := by
  rw [signature, Signature.refine, Shape.orElse_eq_void, output_impliedSignature_eq_void]

end ObjectClass

end NamedFunctions
