import NamedFunctions.Proofs.DiscoveryPriority
import NamedFunctions.Proofs.ResolutionOutcomes

/-! # Adapted targets as components

A registry may hand out a plain object, whose functional method is then adapted, or it may hand out the
adapted method itself. An adapted method is called directly, whatever target and method it is made of,
exposes no method that could be adapted once more, and has the signature of its method as that of its
class. So discovery comes to the signature that the plain object would be registered with, unless a
factory or a definition has something else to say, and both ways end with the same registration. -/
namespace NamedFunctions

open Discovery

variable {Obj World Payload : Type}

/-! ## The class of an adapted method -/

namespace Method

variable (method : Method) (owner : ObjectClass)

theorem isPlain_adaptedClass : (method.adaptedClass owner).isPlain = false := rfl

theorem functionalMethod_adaptedClass :
    (method.adaptedClass owner).functionalMethod =
      .error (.noCandidate (method.adaptedClass owner).name) := rfl

/-- To transform implies nothing about the sides of a signature. -/
theorem signature_adaptedClass : (method.adaptedClass owner).signature = method.signature :=
  method.signature.refine_unresolved

end Method

/-! ## Discovery for an adapted method -/

theorem Discovery.value_discover_adapted [Described Obj] {registry : Registry Obj} {name : String}
    (target : Target Obj) {method : Method} (unbound : registry (.isFactory name) = false)
    (undeclared : method.signature.input.isConcrete = false → overruling? registry name = none) :
    (discover registry (.bare (.adapted target method)) name).value =
      ⟨method.signature, .ownClass⟩ := by
  have hrouting : (fromRouting registry (.bare (.adapted target method)) name).value = none := rfl
  have hfactory : (fromFactory registry name).value = none := by
    rw [value_fromFactory, unbound]
    rfl
  have hsignature : (Target.adapted target method).classOf.signature = method.signature :=
    method.signature_adaptedClass target.classOf
  rw [value_discover_bare, hrouting, hfactory]
  dsimp only
  rw [hsignature, value_refineByDefinition]
  cases hopen : method.signature.input.isConcrete with
  | true => rfl
  | false => rw [undeclared hopen]

/-! ## Registrations of adapted methods -/

namespace Layer

/-- What an adapted method is registered as. -/
def adaptedRegistration (name : String) (target : Target Obj) (method : Method) :
    Registration Obj where
  primary := name
  target := .adapted target method
  signature := method.signature
  names_nodup := List.nodup_singleton name

section Candidates

variable [Described Obj] {layer other : Layer Obj} {name : String} {target : Target Obj}
  {method : Method}

theorem candidate?_of_adapted (yields : layer.Yields name (.bare (.adapted target method)))
    (unbound : layer.registry (.isFactory name) = false)
    (undeclared : method.signature.input.isConcrete = false →
      overruling? layer.registry name = none) :
    layer.candidate? name = some (adaptedRegistration name target method, .ownClass) := by
  have hplain : (Target.adapted target method).classOf.isPlain = false :=
    method.isPlain_adaptedClass target.classOf
  rw [layer.candidate?_of_bare (yields_iff.1 yields), layer.prepared?_of_called name hplain,
    value_discover_adapted target unbound undeclared]
  rfl

theorem candidate?_of_plain (yields : layer.Yields name (.bare target))
    (plain : ¬target.classOf.IsCallable)
    (only : target.classOf.methods.filter Method.isFunctional = [method]) :
    layer.candidate? name = some (adaptedRegistration name target method, .method) := by
  rw [layer.candidate?_of_bare (yields_iff.1 yields),
    layer.prepared?_of_method name (ObjectClass.isPlain_iff.2 plain)
      (ObjectClass.functionalMethod_eq_ok.2 only)]
  rfl

/-- The outcome of a resolution, less its trace, goes by the registration that is built: the rule that
gave the signature is only reported. -/
theorem run_resolve_congr {registration : Registration Obj} {source otherSource : SignatureSource}
    (h : layer.candidate? name = some (registration, source))
    (hother : other.candidate? name = some (registration, otherSource)) (below : Catalog Obj)
    (store : Store Obj) :
    ((layer.resolve below name).run store).value = ((other.resolve below name).run store).value ∧
      ((layer.resolve below name).run store).store =
        ((other.resolve below name).run store).store := by
  obtain ⟨notes, -, hdiscover⟩ := layer.discover_of_some name below h
  obtain ⟨otherNotes, -, hdiscoverToo⟩ := other.discover_of_some name below hother
  simp only [resolve, Procedure.run_inFlight, Procedure.run_bind]
  cases ((below.contains name).run store).value with
  | true => exact ⟨rfl, rfl⟩
  | false =>
    simp only [Bool.false_eq_true, if_false, hdiscover, hdiscoverToo, Procedure.run_noteAll,
      Procedure.run_bind]
    cases ((below.register registration).run ((below.contains name).run store).store).value with
    | ok _ => exact ⟨rfl, rfl⟩
    | error e => exact ⟨rfl, rfl⟩

end Candidates

/-- An adapted method is called directly, is never adapted again and has the method's own
signature. Unless a factory or a declared signature says otherwise, it is resolved to the same
registration as the plain object that it adapts. -/
theorem resolve_adapted_as_plain [Host World Payload Obj] (target : Target Obj) (method : Method) :
    let adapted : Target Obj := .adapted target method
    (adapted.classOf.IsCallable ∧ (Component.bare adapted).treatment = .calledDirectly ∧
        adapted.classOf.functionalMethod = .error (.noCandidate adapted.classOf.name) ∧
        adapted.classOf.signature = method.signature) ∧
      ∀ (layer other : Layer Obj) (name : String), layer.Yields name (.bare adapted) →
        other.Yields name (.bare target) → ¬target.classOf.IsCallable →
        target.classOf.methods.filter Method.isFunctional = [method] →
        layer.registry (.isFactory name) = false →
        (method.signature.input = .unresolved ∨ method.signature.input = .any →
          ∀ definition, StandsBehind layer.registry name definition →
            layer.registry (.hasDefinition definition) = true →
              layer.registry (.declared definition) = none) →
        (∀ (below : Catalog Obj) (store : Store Obj),
            ((layer.resolve below name).run store).value =
                ((other.resolve below name).run store).value ∧
              ((layer.resolve below name).run store).store =
                ((other.resolve below name).run store).store) ∧
          ∀ store : Store Obj, Text.isBlankText name = false → store.contains name = false →
            let outcome := (layer.resolve .base name).run store
            outcome.value = .registered method.signature ∧
              ∃ registration, outcome.store = store.append registration ∧
                registration.names = [name] ∧ registration.signature = method.signature ∧
                ∀ input, registration.target.call input = target.invoke method.name input := by
  intro adapted
  refine ⟨⟨.inl rfl, rfl, method.functionalMethod_adaptedClass target.classOf,
    method.signature_adaptedClass target.classOf⟩, ?_⟩
  intro layer other name yields yieldsToo plain only unbound undeclared
  have hoverruling : method.signature.input.isConcrete = false →
      overruling? layer.registry name = none := by
    intro hopen
    refine Option.eq_none_iff_forall_ne_some.2 fun signature hsome => ?_
    obtain ⟨definition, hbehind, hdefined, hdeclared⟩ := (overruling?_eq_some ..).1 hsome
    have hnone := undeclared (Shape.isConcrete_eq_false.1 hopen) definition hbehind hdefined
    cases hdeclared.symm.trans hnone
  have hcandidate := candidate?_of_adapted yields unbound hoverruling
  refine ⟨run_resolve_congr hcandidate (candidate?_of_plain yieldsToo plain only), ?_⟩
  intro store hblank habsent outcome
  obtain ⟨component, hyields, hbuilds⟩ := exists_candidate?_iff.1 ⟨_, hcandidate⟩
  have haccepted : store.register (adaptedRegistration name target method) =
      .ok (store.append (adaptedRegistration name target method)) :=
    Store.register_eq_ok.2 ⟨by simp [adaptedRegistration, Registration.names, hblank, habsent], rfl⟩
  obtain ⟨hvalue, hstore⟩ := (Resolves.registered habsent hyields hbuilds haccepted).run
  exact ⟨hvalue, adaptedRegistration name target method, hstore, rfl, rfl, fun _ => rfl⟩

/-- The adapted method is found by name, and a definition without a signature stands behind it; its
plain object is found by qualifier. -/
theorem resolve_adapted_as_plain_loud :
    let shout : Method := ⟨"shout", ⟨.any, .named "String"⟩, { isPublic := true }⟩
    let shouter : Target Scripted.Object :=
      .object (.custom 0 { name := "Shouter", methods := [shout] } none [("shout", .upper)])
    let adapted : Target Scripted.Object := .adapted shouter shout
    let layer : Layer Scripted.Object :=
      ⟨(Declarations.ofList [.component "loud" (.bare adapted), .aliased "loud" "louder",
        .definition "louder" none]).registry, {}⟩
    let other : Layer Scripted.Object :=
      ⟨(Declarations.ofList [.component "shouter" (.bare shouter),
        .qualifier "shouter" "loud"]).registry, {}⟩
    let store : Store Scripted.Object := .empty
    layer.Yields "loud" (.bare adapted) ∧ other.Yields "loud" (.bare shouter) ∧
      ¬shouter.classOf.IsCallable ∧
      shouter.classOf.methods.filter Method.isFunctional = [shout] ∧
      layer.registry (.isFactory "loud") = false ∧
      StandsBehind layer.registry "loud" "louder" ∧
      layer.registry (.declared "louder") = none ∧
      Text.isBlankText "loud" = false ∧ store.contains "loud" = false ∧
      ((layer.resolve .base "loud").run store).value = .registered ⟨.any, .named "String"⟩ ∧
      ((other.resolve .base "loud").run store).value = .registered ⟨.any, .named "String"⟩ ∧
      ((other.resolve .base "loud").run store).store =
        ((layer.resolve .base "loud").run store).store ∧
      ∃ registration, ((layer.resolve .base "loud").run store).store = store.append registration ∧
        ∀ input, registration.target.call input = shouter.invoke "shout" input := by
  intro shout shouter adapted layer other store
  have hyields : layer.Yields "loud" (.bare adapted) := by
    refine .byName (by decide) ?_
    unfold layer adapted shouter shout
    rfl
  have hyieldsToo : other.Yields "loud" (.bare shouter) := by
    refine .byQualifier (by decide) ?_
    unfold other shouter shout
    rfl
  have hplain : ¬shouter.classOf.IsCallable := ObjectClass.isPlain_iff.1 (by decide)
  have honly : shouter.classOf.methods.filter Method.isFunctional = [shout] := by decide
  have hunbound : layer.registry (.isFactory "loud") = false := by decide
  have hbehind : (definitionName layer.registry "loud").value = "louder" := by decide
  have hundeclared : layer.registry (.declared "louder") = none := by decide
  have hblank : Text.isBlankText "loud" = false := by decide
  have habsent : store.contains "loud" = false := by decide
  obtain ⟨halike, hregisters⟩ := (resolve_adapted_as_plain shouter shout).2 layer other "loud" hyields
    hyieldsToo hplain honly hunbound fun _ definition h _ => by
      rwa [← (standsBehind_iff ..).1 h, hbehind]
  obtain ⟨hvalue, registration, hstore, -, -, hcall⟩ := hregisters store hblank habsent
  obtain ⟨hsame, hsameStore⟩ := halike .base store
  exact ⟨hyields, hyieldsToo, hplain, honly, hunbound, (standsBehind_iff ..).2 hbehind, hundeclared,
    hblank, habsent, hvalue, hsame ▸ hvalue, hsameStore.symm, registration, hstore, hcall⟩

end Layer

end NamedFunctions
