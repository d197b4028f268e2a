import NamedFunctions.Proofs.RegisteredNames

/-! # Names that can be used

A bare target can be used as a function when it is called directly or when exactly one of its methods
is functional. Such a target is registered under the one name that it is sought by, and nothing but
a blank or a taken name stands in the way of that. A lookup therefore leaves every name of its
definition known for which the registry has a target that can be used, whatever becomes of the other
names and of the lookup itself: the others may be missing, ambiguous, unadaptable or refused, and
may even bring the name along as an alias of their own. -/
namespace NamedFunctions

open Definition

theorem Capabilities.eq_none_iff {capabilities : Capabilities} :
    capabilities = none ↔ ∀ kind, capabilities.has kind = false := by
  constructor
  · rintro rfl kind
    exact has_none kind
  · obtain ⟨producer, transform, consumer⟩ := capabilities
    intro h
    obtain rfl : producer = false := h .producer
    obtain rfl : transform = false := h .transform
    obtain rfl : consumer = false := h .consumer
    rfl

namespace ObjectClass

variable {cls : ObjectClass}

/-- Objects of the class are called directly: it is synthetic or has a native capability. -/
def IsCallable (cls : ObjectClass) : Prop :=
  cls.flags.synthetic = true ∨ ∃ kind, cls.capabilities.has kind = true

theorem isPlain_iff : cls.isPlain = true ↔ ¬cls.IsCallable := by
  simp [isPlain, IsCallable, Capabilities.eq_none_iff]

theorem isPlain_eq_false : cls.isPlain = false ↔ cls.IsCallable := by
  rw [← Bool.not_eq_true, isPlain_iff, not_not]

/-- Objects of the class can be used as functions: they are called directly, or through the one
method that is functional. -/
def IsUsable (cls : ObjectClass) : Prop :=
  cls.IsCallable ∨ ∃ method, cls.methods.filter Method.isFunctional = [method]

theorem isUsable_iff :
    cls.IsUsable ↔ cls.isPlain = false ∨ ∃ method, cls.functionalMethod = .ok method := by
  simp only [IsUsable, isPlain_eq_false, functionalMethod_eq_ok]

end ObjectClass

variable {Obj : Type}

namespace Layer

variable [Described Obj] (layer : Layer Obj) {name : String} {target : Target Obj}

/-- A settled name is known if it is not blank and a target that can be used is there for it. -/
theorem Settled.contains_of_usable {layer : Layer Obj} {store : Store Obj}
    (settled : layer.Settled store name) (hblank : Text.isBlankText name = false)
    (hc : layer.component? name = some (.bare target)) (h : target.classOf.IsUsable) :
    store.contains name = true := by
  rcases settled with hknown | hrefused
  · exact hknown
  · obtain ⟨registration, source, hcandidate, hnames⟩ :=
      layer.exists_candidate?_of_bare hc (ObjectClass.isUsable_iff.1 h)
    obtain ⟨own, hown, hreason⟩ := hrefused registration source hcandidate
    rw [hnames, List.mem_singleton] at hown
    subst hown
    exact hreason.resolve_left (by simp [hblank])

/-- After a lookup the store contains every name of the definition for which the registry has a
target that can be used, by name or by an unambiguous qualifier, whatever becomes of the other
names and of the lookup itself. -/
theorem lookup_discovers_usable (layer : Layer Obj) (kind : Option Kind)
    (definition : Option String) (outputTypes : List String) (store : Store Obj) :
    let after := ((layer.lookup .base kind definition outputTypes).run store).store
    ∀ name ∈ stages (layer.effective definition), ∀ target : Target Obj,
      layer.component? name = some (.bare target) → target.classOf.IsUsable →
        after.contains name = true := by
  intro after name hname target hc h
  have hm : name ∈ names (layer.effective definition) := mem_names.2 hname
  have settled : layer.Settled after name :=
    layer.settled_lookup kind definition outputTypes store name hm
  exact settled.contains_of_usable (isBlankText_of_mem_names hm) hc h

/-- Among names that are missing, ambiguous, unadaptable, refused and known, two can be used: one is
found by its qualifier, the other comes along as an alias of the name before it. The lookup finds
nothing in the end. -/
theorem lookup_discovers_usable_among :
    let upper : Target Scripted.Object :=
      .object (.function 0 ⟨.transform, "Upper", .upper, none, {}⟩)
    let inert : Target Scripted.Object := .object (.custom 1 { name := "Inert" } none [])
    let shouter : Target Scripted.Object :=
      .object (.custom 2
        { name := "Shouter", methods := [⟨"shout", ⟨.any, .any⟩, { isPublic := true }⟩] }
        none [("shout", .upper)])
    let registry := (Declarations.ofList
      [.component "inert" (.bare inert), .component "shouter" (.bare shouter),
        .qualifier "inert" "twice", .qualifier "shouter" "twice", .qualifier "shouter" "shout",
        .component "taken" (.registration { primary := "known", target := upper }),
        .component "both" (.registration { primary := "both", aliases := ["loud"], target := upper }),
        .component "loud" (.bare upper)]).registry
    let layer : Layer Scripted.Object := ⟨registry, {}⟩
    let definition := "nowhere, twice | inert, taken | known, both | loud, shout"
    let outcome := (layer.lookup .base none (some definition) []).run
      (Store.empty.offerAll [{ primary := "known", target := upper }])
    ("shout" ∈ stages (layer.effective (some definition)) ∧
        layer.component? "shout" = some (.bare shouter) ∧ shouter.classOf.IsUsable ∧
        outcome.store.contains "shout" = true) ∧
      ("loud" ∈ stages (layer.effective (some definition)) ∧
        layer.component? "loud" = some (.bare upper) ∧ upper.classOf.IsUsable ∧
        outcome.store.contains "loud" = true) ∧
      outcome.value = none := by
  intro upper inert shouter registry layer definition outcome
  have hregistered := layer.lookup_discovers_usable none (some definition) []
    (Store.empty.offerAll [{ primary := "known", target := upper }])
  have hshout : layer.component? "shout" = some (.bare shouter) := by
    unfold layer registry shouter inert upper
    rfl
  have hloud : layer.component? "loud" = some (.bare upper) := by
    unfold layer registry shouter inert upper
    rfl
  have hmethod : shouter.classOf.IsUsable :=
    .inr ⟨⟨"shout", ⟨.any, .any⟩, { isPublic := true }⟩, by decide⟩
  have hcapable : upper.classOf.IsUsable := .inl (.inr ⟨.transform, by decide⟩)
  have hm : ∀ name ∈ ["shout", "loud"], name ∈ stages (layer.effective (some definition)) := by
    decide
  refine ⟨⟨hm _ (by simp), hshout, hmethod, hregistered _ (hm _ (by simp)) _ hshout hmethod⟩,
    ⟨hm _ (by simp), hloud, hcapable, hregistered _ (hm _ (by simp)) _ hloud hcapable⟩, ?_⟩
  exact Option.isNone_iff_eq_none.1 (by decide)

end Layer

end NamedFunctions
