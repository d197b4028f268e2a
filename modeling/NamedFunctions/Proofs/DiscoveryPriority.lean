import NamedFunctions.Discovery
import NamedFunctions.Registry.Declared
import NamedFunctions.Scripted

/-! # The priority of the discovery rules

Every rule for the signature of a candidate speaks only in view of certain answers of the registry:
a routing object needs a signature declared under its very name, a factory needs to say what it
produces, a definition needs a declared signature and a class that leaves its input open. Several
rules may speak at once, and a signal may come without what would give it force. Discovery hears
the highest rule that speaks. The class always speaks, so there is always a signature, and one that
fixes its input is overruled by no definition. -/
namespace NamedFunctions

/-- The order in which the rules are heard. The method of an adapted object is heard last, since no
rule of discovery speaks of it. -/
def SignatureSource.rank : SignatureSource → Nat
  | routing => 0
  | registration => 1
  | factory => 2
  | declared => 3
  | ownClass => 4
  | method => 5

theorem SignatureSource.rank_inj {a b : SignatureSource} (h : a.rank = b.rank) : a = b := by
  cases a <;> cases b <;> first | rfl | cases h

theorem Shape.isConcrete_eq_false {shape : Shape} :
    shape.isConcrete = false ↔ shape = .unresolved ∨ shape = .any := by
  cases shape <;> simp [isConcrete]

theorem Shape.isConcrete_eq_true {shape : Shape} :
    shape.isConcrete = true ↔ shape = .void ∨ ∃ name, shape = .named name := by
  cases shape <;> simp [isConcrete]

namespace Discovery

variable {Obj : Type} (registry : Registry Obj) (name : String)

/-! ## The definition behind a name -/

/-- The name whose definition stands behind a name: the first of its aliases that has a definition,
or the name itself, with or without one, where no alias has. -/
inductive StandsBehind : String → Prop
  | ofAlias {before after : List String} {definition : String} :
    registry (.aliases name) = before ++ definition :: after →
      (∀ other ∈ before, registry (.hasDefinition other) = false) →
      registry (.hasDefinition definition) = true → StandsBehind definition
  | ofName : (∀ other ∈ registry (.aliases name), registry (.hasDefinition other) = false) →
    StandsBehind name

theorem standsBehind_iff {definition : String} :
    StandsBehind registry name definition ↔ (definitionName registry name).value = definition := by
  rw [value_definitionName]
  constructor
  · rintro (⟨hlist, hbefore, hdefined⟩ | hnone)
    · rw [List.find?_eq_some_iff_append.2 ⟨hdefined, _, _, hlist, by simpa using hbefore⟩,
        Option.getD_some]
    · rw [List.find?_eq_none.2 fun other hm => by simp [hnone other hm], Option.getD_none]
  · rintro rfl
    cases hfind : (registry (.aliases name)).find? fun other => registry (.hasDefinition other) with
    | some found =>
      obtain ⟨hdefined, before, after, hlist, hbefore⟩ := List.find?_eq_some_iff_append.1 hfind
      exact .ofAlias hlist (by simpa using hbefore) hdefined
    | none => exact .ofName (by simpa using hfind)

/-- The signature that is declared on the definition behind a name. -/
def overruling? : Option Signature :=
  let definition := (definitionName registry name).value
  if registry (.hasDefinition definition) then registry (.declared definition) else none

theorem overruling?_eq_some {signature : Signature} :
    overruling? registry name = some signature ↔ ∃ definition,
      StandsBehind registry name definition ∧ registry (.hasDefinition definition) = true ∧
        registry (.declared definition) = some signature := by
  simp [overruling?, standsBehind_iff]

theorem value_fromFactory :
    (fromFactory registry name).value =
      if registry (.isFactory name) then (registry (.produced name)).map ObjectClass.signature
      else none := by
  rw [fromFactory, Inquiry.value_bind, Registry.value_ask]
  split <;> rfl

theorem value_refineByDefinition (signature : Signature) :
    (refineByDefinition registry name signature).value =
      match signature.input.isConcrete, overruling? registry name with
      | false, some declared => ⟨declared, .declared⟩
      | _, _ => ⟨signature, .ownClass⟩ := by
  rw [refineByDefinition, Inquiry.value_bind, overruling?]
  generalize (definitionName registry name).value = definition
  cases signature.input.isConcrete with
  | true => rfl
  | false =>
    cases hdefined : registry (.hasDefinition definition) with
    | false => simp [hdefined]
    | true => cases hdeclared : registry (.declared definition) <;> simp [hdefined, hdeclared]

variable [Described Obj]

/-! ## The rules one by one -/

/-- A rule speaks of a candidate under the name, and gives it a signature. -/
inductive Speaks : Component Obj → SignatureSource → Signature → Prop
  | routing {target : Target Obj} {signature : Signature} :
    target.classOf.flags.routing = true → registry (.declared name) = some signature →
      Speaks (.bare target) .routing signature
  | registration (r : Registration Obj) : Speaks (.registration r) .registration r.signature
  | factory {candidate : Component Obj} {cls : ObjectClass} :
    registry (.isFactory name) = true → registry (.produced name) = some cls →
      Speaks candidate .factory cls.signature
  | declared {candidate : Component Obj} {definition : String} {signature : Signature} :
    candidate.classOf.signature.input = .unresolved ∨ candidate.classOf.signature.input = .any →
      StandsBehind registry name definition → registry (.hasDefinition definition) = true →
      registry (.declared definition) = some signature → Speaks candidate .declared signature
  | ownClass (candidate : Component Obj) : Speaks candidate .ownClass candidate.classOf.signature

variable {registry name} {candidate : Component Obj} {signature : Signature}

theorem value_fromRouting_eq_some :
    (fromRouting registry candidate name).value = some signature ↔
      Speaks registry name candidate .routing signature := by
  constructor
  · intro h
    unfold fromRouting at h
    split at h
    · split at h
      · next hrouting => exact .routing hrouting h
      · cases h
    · cases h
  · rintro (⟨hrouting, hdeclared⟩)
    rw [fromRouting, if_pos hrouting, Registry.value_ask, hdeclared]

theorem value_fromFactory_eq_some :
    (fromFactory registry name).value = some signature ↔
      Speaks registry name candidate .factory signature := by
  rw [value_fromFactory]
  constructor
  · intro h
    split at h
    · next hbound =>
      obtain ⟨cls, hproduced, rfl⟩ := Option.map_eq_some_iff.1 h
      exact .factory hbound hproduced
    · cases h
  · rintro (_ | _ | ⟨hbound, hproduced⟩)
    rw [if_pos hbound, hproduced, Option.map_some]

theorem speaks_declared_iff :
    Speaks registry name candidate .declared signature ↔
      candidate.classOf.signature.input.isConcrete = false ∧
        overruling? registry name = some signature := by
  rw [overruling?_eq_some, Shape.isConcrete_eq_false]
  constructor
  · rintro (_ | _ | _ | ⟨hopen, hbehind, hdefined, hdeclared⟩)
    exact ⟨hopen, _, hbehind, hdefined, hdeclared⟩
  · rintro ⟨hopen, definition, hbehind, hdefined, hdeclared⟩
    exact .declared hopen hbehind hdefined hdeclared

theorem Speaks.unique {source : SignatureSource} {other : Signature}
    (h : Speaks registry name candidate source signature)
    (h' : Speaks registry name candidate source other) : signature = other := by
  cases source with
  | routing =>
    exact Option.some.inj ((value_fromRouting_eq_some.2 h).symm.trans (value_fromRouting_eq_some.2 h'))
  | registration =>
    cases h
    cases h'
    rfl
  | factory =>
    exact Option.some.inj ((value_fromFactory_eq_some.2 h).symm.trans (value_fromFactory_eq_some.2 h'))
  | declared =>
    exact Option.some.inj ((speaks_declared_iff.1 h).2.symm.trans (speaks_declared_iff.1 h').2)
  | ownClass =>
    cases h
    cases h'
    rfl
  | method => cases h

/-! ## The rule that is heard -/

variable (registry name)

theorem value_discover_bare (target : Target Obj) :
    (discover registry (.bare target) name).value =
      match (fromRouting registry (.bare target) name).value, (fromFactory registry name).value with
      | some signature, _ => ⟨signature, .routing⟩
      | none, some signature => ⟨signature, .factory⟩
      | none, none => (refineByDefinition registry name target.classOf.signature).value := by
  unfold discover
  rw [Inquiry.value_bind]
  cases (fromRouting registry (.bare target) name).value with
  | some signature => rfl
  | none =>
    simp only [Inquiry.value_bind]
    cases (fromFactory registry name).value <;> rfl

/-- A rule is heard when it speaks and none above it does. -/
def Heard (candidate : Component Obj) (source : SignatureSource) (signature : Signature) : Prop :=
  Speaks registry name candidate source signature ∧
    ∀ other otherSignature, Speaks registry name candidate other otherSignature →
      source.rank ≤ other.rank

theorem Heard.unique {registry : Registry Obj} {name : String} {source other : SignatureSource}
    {signature otherSignature : Signature} (h : Heard registry name candidate source signature)
    (h' : Heard registry name candidate other otherSignature) :
    source = other ∧ signature = otherSignature := by
  have hle : source.rank ≤ other.rank := h.2 other otherSignature h'.1
  have hge : other.rank ≤ source.rank := h'.2 source signature h.1
  obtain rfl : source = other := SignatureSource.rank_inj (Nat.le_antisymm hle hge)
  exact ⟨rfl, h.1.unique h'.1⟩

theorem heard_discover_bare (target : Target Obj) :
    let found := (discover registry (.bare target) name).value
    Heard registry name (.bare target) found.source found.signature := by
  -- by the cases of discovery: a rule that gave no answer does not speak
  intro found
  have hfound : found = _ := value_discover_bare registry name target
  cases hrouting : (fromRouting registry (.bare target) name).value with
  | some signature =>
    simp only [hrouting] at hfound
    rw [hfound]
    exact ⟨value_fromRouting_eq_some.1 hrouting, fun _ _ _ => Nat.zero_le _⟩
  | none =>
    have hunrouted : ∀ signature, ¬Speaks registry name (.bare target) .routing signature := by
      simp [← value_fromRouting_eq_some, hrouting]
    cases hfactory : (fromFactory registry name).value with
    | some signature =>
      simp only [hrouting, hfactory] at hfound
      rw [hfound]
      refine ⟨value_fromFactory_eq_some.1 hfactory, ?_⟩
      dsimp only
      intro other otherSignature h
      cases h with
      | routing hr hd => exact (hunrouted _ (.routing hr hd)).elim
      | factory | declared | ownClass => decide
    | none =>
      have hunbound : ∀ signature, ¬Speaks registry name (.bare target) .factory signature := by
        simp [← value_fromFactory_eq_some, hfactory]
      simp only [hrouting, hfactory, value_refineByDefinition] at hfound
      split at hfound
      · next declared hopen hoverruling =>
        rw [hfound]
        refine ⟨speaks_declared_iff.2 ⟨hopen, hoverruling⟩, ?_⟩
        dsimp only
        intro other otherSignature h
        cases h with
        | routing hr hd => exact (hunrouted _ (.routing hr hd)).elim
        | factory hb hp => exact (hunbound _ (.factory hb hp)).elim
        | declared | ownClass => decide
      · next hneither =>
        rw [hfound]
        refine ⟨.ownClass _, ?_⟩
        dsimp only
        intro other otherSignature h
        cases h with
        | routing hr hd => exact (hunrouted _ (.routing hr hd)).elim
        | factory hb hp => exact (hunbound _ (.factory hb hp)).elim
        | declared ho hs hd hg =>
          obtain ⟨hopen, hoverruling⟩ := speaks_declared_iff.1 (.declared ho hs hd hg)
          exact (hneither _ hopen hoverruling).elim
        | ownClass => decide

theorem heard_discover (candidate : Component Obj) :
    let found := (discover registry candidate name).value
    Heard registry name candidate found.source found.signature := by
  cases candidate with
  | bare target => exact heard_discover_bare registry name target
  | registration r =>
    show Heard registry name (.registration r) .registration r.signature
    refine ⟨.registration r, ?_⟩
    intro other otherSignature h
    cases h <;> decide

/-- What discovery comes to depends on few answers, and on the definition only where the class leaves
the input open. -/
theorem value_discover_bare_congr {registry other : Registry Obj} {name otherName : String}
    {target : Target Obj}
    (routing : target.classOf.flags.routing = true →
      registry (.declared name) = other (.declared otherName))
    (bound : registry (.isFactory name) = other (.isFactory otherName))
    (produced : registry (.produced name) = other (.produced otherName))
    (overruling : target.classOf.signature.input.isConcrete = false →
      overruling? registry name = overruling? other otherName) :
    (discover registry (.bare target) name).value =
      (discover other (.bare target) otherName).value := by
  have hrouting : (fromRouting registry (.bare target) name).value =
      (fromRouting other (.bare target) otherName).value := by
    unfold fromRouting
    dsimp only
    split
    · next h => exact routing h
    · rfl
  have hfactory : (fromFactory registry name).value = (fromFactory other otherName).value := by
    rw [value_fromFactory, value_fromFactory, bound, produced]
  have hrefined : (refineByDefinition registry name target.classOf.signature).value =
      (refineByDefinition other otherName target.classOf.signature).value := by
    rw [value_refineByDefinition, value_refineByDefinition]
    cases hopen : target.classOf.signature.input.isConcrete with
    | true => rfl
    | false => rw [overruling hopen]
  rw [value_discover_bare, value_discover_bare, hrouting, hfactory, hrefined]

/-- Discovery comes to the signature of one rule, named as its source, and no rule above that one
has anything to say. So no alias or definition overrules a class that fixes its input. -/
theorem discover_hears_highest (registry : Registry Obj) (candidate : Component Obj)
    (name : String) :
    (∀ (source : SignatureSource) (signature : Signature),
        (discover registry candidate name).value = ⟨signature, source⟩ ↔
          Speaks registry name candidate source signature ∧
            ∀ other otherSignature, Speaks registry name candidate other otherSignature →
              source.rank ≤ other.rank) ∧
      ((candidate.classOf.signature.input = .void ∨
          ∃ text, candidate.classOf.signature.input = .named text) →
        ∀ other : Registry Obj,
          (candidate.classOf.flags.routing = true →
            other (.declared name) = registry (.declared name)) →
          other (.isFactory name) = registry (.isFactory name) →
          other (.produced name) = registry (.produced name) →
          (discover other candidate name).value = (discover registry candidate name).value) := by
  have hheard := heard_discover registry name candidate
  constructor
  · intro source signature
    constructor
    · intro h
      rw [h] at hheard
      exact hheard
    · intro h
      obtain ⟨hsource, hsignature⟩ := hheard.unique h
      rw [← hsource, ← hsignature]
  · intro hinput other hrouting hbound hproduced
    have hconcrete := Shape.isConcrete_eq_true.2 hinput
    cases candidate with
    | registration r => rfl
    | bare target =>
      refine value_discover_bare_congr hrouting hbound hproduced ?_
      intro hopen
      cases hconcrete.symm.trans hopen

/-- A routing object under a name that is defined without a signature and bound to a factory that
does not say what it produces: the definition of its alias speaks. Under the same name a class that
takes integers speaks for itself, as it does where nothing is defined. -/
theorem discover_hears_highest_router :
    let object (cls : ObjectClass) : Target Scripted.Object := .object (.custom 0 cls none [])
    let router := object
      { name := "Router", flags := { routing := true }, generics := some ⟨.any, .named "Int"⟩ }
    let counter := object { name := "Counter", generics := some ⟨.named "Int", .unresolved⟩ }
    let texts : Signature := ⟨.named "String", .named "String"⟩
    let registry := (Declarations.ofList [.aliased "route" "r", .definition "r" none,
      .definition "route" (some texts), .factory "route" (.bare router) none]).registry
    let bare := (Declarations.ofList [.aliased "route" "r",
      .factory "route" (.bare router) none]).registry
    Speaks registry "r" (.bare router) .declared texts ∧
      (∀ other signature, Speaks registry "r" (.bare router) other signature →
        SignatureSource.declared.rank ≤ other.rank) ∧
      (Component.bare counter).classOf.signature.input = .named "Int" ∧
      bare (.isFactory "r") = registry (.isFactory "r") ∧
      bare (.produced "r") = registry (.produced "r") ∧
      (discover registry (.bare counter) "r").value = ⟨⟨.named "Int", .unresolved⟩, .ownClass⟩ ∧
      (discover bare (.bare counter) "r").value = ⟨⟨.named "Int", .unresolved⟩, .ownClass⟩ := by
  intro object router counter texts registry bare
  obtain ⟨hspeaks, hfirst⟩ :=
    ((discover_hears_highest registry (.bare router) "r").1 .declared texts).1 (by decide)
  have hinput : (Component.bare counter).classOf.signature.input = .named "Int" := by decide
  have hbound : bare (.isFactory "r") = registry (.isFactory "r") := by decide
  have hproduced : bare (.produced "r") = registry (.produced "r") := by decide
  have hcounter : (discover registry (.bare counter) "r").value =
      ⟨⟨.named "Int", .unresolved⟩, .ownClass⟩ := by decide
  have hsame := (discover_hears_highest registry (.bare counter) "r").2 (.inr ⟨"Int", hinput⟩) bare
    (fun hrouting => absurd hrouting (by decide)) hbound hproduced
  exact ⟨hspeaks, hfirst, hinput, hbound, hproduced, hcounter, hsame.trans hcounter⟩

end Discovery

end NamedFunctions
