import NamedFunctions.Proofs.UsableNames

/-! # Outcomes of a resolution

Resolving a name ends in one of five ways, and each of them has a condition of its own on the store
and on the registry. The registry yields a component by name or, where it has none of that name, by
qualifier; the component is built into a registration, unless it is a plain object without a single
functional method; and the store accepts the registration or not. Only an accepted registration
changes the store, and the outcome says so. -/
namespace NamedFunctions

variable {Obj : Type}

namespace Layer

variable (layer : Layer Obj) (name : String)

/-! ## What the registry yields -/

/-- The registry yields the component for the name. -/
inductive Yields : Component Obj → Prop where
  | byName {component : Component Obj} (known : layer.registry (.contains name) = true)
      (found : layer.registry (.fetch name) = some component) : Yields component
  | byQualifier {component : Component Obj} (unknown : layer.registry (.contains name) = false)
      (found : layer.registry (.qualified name) = .ok (some component)) : Yields component

/-- The registry yields no component for the name. -/
inductive YieldsNothing : Prop where
  /-- There is a component of the name, but it is not handed out. -/
  | withheld (known : layer.registry (.contains name) = true)
      (missing : layer.registry (.fetch name) = none)
  | unqualified (unknown : layer.registry (.contains name) = false)
      (missing : layer.registry (.qualified name) = .ok none)
  /-- The qualifier does not lead to one component. -/
  | failed {e : QualifierError} (unknown : layer.registry (.contains name) = false)
      (error : layer.registry (.qualified name) = .error e)

variable {layer name}

theorem yields_iff {component : Component Obj} :
    layer.Yields name component ↔ layer.component? name = some component := by
  unfold component?
  constructor
  · rintro (⟨known, found⟩ | ⟨unknown, found⟩)
    · rw [if_pos known, found]
    · rw [if_neg (by simp [unknown]), found]
      rfl
  · intro h
    split at h
    · next known => exact .byName known h
    · next unknown =>
      cases hq : layer.registry (.qualified name) with
      | ok found =>
        rw [hq] at h
        cases h
        exact .byQualifier (Bool.eq_false_iff.2 unknown) hq
      | error e =>
        rw [hq] at h
        cases h

theorem yieldsNothing_iff : layer.YieldsNothing name ↔ layer.component? name = none := by
  unfold component?
  constructor
  · rintro (⟨known, missing⟩ | ⟨unknown, missing⟩ | ⟨unknown, error⟩)
    · rw [if_pos known, missing]
    · rw [if_neg (by simp [unknown]), missing]
      rfl
    · rw [if_neg (by simp [unknown]), error]
      rfl
  · intro h
    split at h
    · next known => exact .withheld known h
    · next unknown =>
      have hunknown := Bool.eq_false_iff.2 unknown
      cases hq : layer.registry (.qualified name) with
      | ok found =>
        rw [hq] at h
        obtain rfl : found = none := h
        exact .unqualified hunknown hq
      | error e => exact .failed hunknown hq

/-! ## What is built of a component -/

variable [Described Obj]

variable (layer name) in
/-- The component is built into the registration, to be stored for the name. -/
inductive Builds : Component Obj → Registration Obj → Prop where
  /-- A registration is taken as it is. -/
  | ready (registration : Registration Obj) : Builds (.registration registration) registration
  | called {target : Target Obj} (callable : target.classOf.IsCallable) :
      Builds (.bare target)
        { primary := name, target
          signature := (Discovery.discover layer.registry (.bare target) name).value.signature }
  /-- A plain object is called through its one functional method. -/
  | adapted {target : Target Obj} {method : Method} (plain : ¬target.classOf.IsCallable)
      (only : target.classOf.methods.filter Method.isFunctional = [method]) :
      Builds (.bare target)
        { primary := name, target := .adapted target method, signature := method.signature }

theorem builds_iff {component : Component Obj} {registration : Registration Obj} :
    layer.Builds name component registration ↔
      ∃ source, layer.prepared? name component = some (registration, source) := by
  constructor
  · rintro (_ | callable | ⟨plain, only⟩)
    · exact ⟨.registration, rfl⟩
    · rw [layer.prepared?_of_called name (ObjectClass.isPlain_eq_false.2 callable)]
      exact ⟨_, rfl⟩
    · rw [layer.prepared?_of_method name (ObjectClass.isPlain_iff.2 plain)
        (ObjectClass.functionalMethod_eq_ok.2 only)]
      exact ⟨_, rfl⟩
  · rintro ⟨source, h⟩
    cases component with
    | registration ready =>
      cases h
      exact .ready registration
    | bare target =>
      cases hp : target.classOf.isPlain with
      | false =>
        rw [layer.prepared?_of_called name hp] at h
        cases h
        exact .called (ObjectClass.isPlain_eq_false.1 hp)
      | true =>
        cases hm : target.classOf.functionalMethod with
        | ok method =>
          rw [layer.prepared?_of_method name hp hm] at h
          cases h
          exact .adapted (ObjectClass.isPlain_iff.1 hp) (ObjectClass.functionalMethod_eq_ok.1 hm)
        | error e =>
          rw [layer.prepared?_of_unadaptable name hp hm] at h
          cases h

theorem prepared?_eq_none {component : Component Obj} :
    layer.prepared? name component = none ↔
      ∃ target, component = .bare target ∧ ¬target.classOf.IsCallable ∧
        (target.classOf.methods.filter Method.isFunctional).length ≠ 1 := by
  constructor
  · intro h
    have hnone : ∀ registration, ¬layer.Builds name component registration := by
      intro registration hbuilds
      obtain ⟨source, hs⟩ := builds_iff.1 hbuilds
      rw [h] at hs
      cases hs
    cases component with
    | registration ready => exact (hnone ready (.ready ready)).elim
    | bare target =>
      refine ⟨target, rfl, fun callable => hnone _ (.called callable), fun hone => ?_⟩
      obtain ⟨method, only⟩ := List.length_eq_one_iff.1 hone
      by_cases callable : target.classOf.IsCallable
      · exact hnone _ (.called callable)
      · exact hnone _ (.adapted callable only)
  · rintro ⟨target, rfl, plain, several⟩
    cases hm : target.classOf.functionalMethod with
    | ok method =>
      rw [ObjectClass.functionalMethod_eq_ok] at hm
      simp [hm] at several
    | error e => exact layer.prepared?_of_unadaptable name (ObjectClass.isPlain_iff.2 plain) hm

/-! ## The five outcomes -/

variable (layer name) in
/-- How resolving the name ends, and what store it leaves. -/
inductive Resolves (store : Store Obj) : Resolution → Store Obj → Prop where
  | present (known : store.contains name = true) : Resolves store .present store
  | notFound (unknown : store.contains name = false) (nothing : layer.YieldsNothing name) :
      Resolves store .notFound store
  | unadaptable {target : Target Obj} (unknown : store.contains name = false)
      (yields : layer.Yields name (.bare target)) (plain : ¬target.classOf.IsCallable)
      (several : (target.classOf.methods.filter Method.isFunctional).length ≠ 1) :
      Resolves store .unadaptable store
  | rejected {component : Component Obj} {registration : Registration Obj} {e : RegisterError}
      (unknown : store.contains name = false) (yields : layer.Yields name component)
      (builds : layer.Builds name component registration)
      (refused : store.register registration = .error e) : Resolves store (.rejected e) store
  | registered {component : Component Obj} {registration : Registration Obj} {next : Store Obj}
      (unknown : store.contains name = false) (yields : layer.Yields name component)
      (builds : layer.Builds name component registration)
      (accepted : store.register registration = .ok next) :
      Resolves store (.registered registration.signature) next

theorem exists_candidate?_iff {registration : Registration Obj} :
    (∃ source, layer.candidate? name = some (registration, source)) ↔
      ∃ component, layer.Yields name component ∧ layer.Builds name component registration := by
  simp only [candidate?, Option.bind_eq_some_iff, yields_iff, builds_iff]
  constructor
  · rintro ⟨source, component, hc, hp⟩
    exact ⟨component, hc, source, hp⟩
  · rintro ⟨component, hc, source, hp⟩
    exact ⟨source, component, hc, hp⟩

theorem exists_resolves (layer : Layer Obj) (name : String) (store : Store Obj) :
    ∃ resolution after, layer.Resolves name store resolution after := by
  cases hknown : store.contains name with
  | true => exact ⟨_, _, .present hknown⟩
  | false =>
    cases hc : layer.component? name with
    | none => exact ⟨_, _, .notFound hknown (yieldsNothing_iff.2 hc)⟩
    | some component =>
      have yields := yields_iff.2 hc
      cases hp : layer.prepared? name component with
      | none =>
        obtain ⟨target, rfl, plain, several⟩ := prepared?_eq_none.1 hp
        exact ⟨_, _, .unadaptable hknown yields plain several⟩
      | some found =>
        obtain ⟨registration, source⟩ := found
        have builds := builds_iff.2 ⟨source, hp⟩
        cases hr : store.register registration with
        | ok next => exact ⟨_, _, .registered hknown yields builds hr⟩
        | error e => exact ⟨_, _, .rejected hknown yields builds hr⟩

theorem Resolves.run {store after : Store Obj} {resolution : Resolution}
    (h : layer.Resolves name store resolution after) :
    ((layer.resolve .base name).run store).value = resolution ∧
      ((layer.resolve .base name).run store).store = after := by
  rw [value_run_resolve, store_run_resolve, value_run_discover, store_run_discover]
  cases h with
  | present known => simp [known]
  | notFound unknown nothing =>
    have hc := yieldsNothing_iff.1 nothing
    simp [unknown, candidate?, hc]
  | unadaptable unknown yields plain several =>
    have hc := yields_iff.1 yields
    have hp : layer.prepared? name (.bare _) = none :=
      prepared?_eq_none.2 ⟨_, rfl, plain, several⟩
    simp [unknown, candidate?, hc, hp]
  | rejected unknown yields builds refused =>
    obtain ⟨source, hc⟩ := exists_candidate?_iff.2 ⟨_, yields, builds⟩
    simp [unknown, hc, Store.offer, refused]
  | registered unknown yields builds accepted =>
    obtain ⟨source, hc⟩ := exists_candidate?_iff.2 ⟨_, yields, builds⟩
    simp [unknown, hc, Store.offer, accepted]

theorem resolves_run (layer : Layer Obj) (name : String) (store : Store Obj) :
    layer.Resolves name store ((layer.resolve .base name).run store).value
      ((layer.resolve .base name).run store).store := by
  obtain ⟨resolution, after, h⟩ := layer.exists_resolves name store
  rwa [h.run.1, h.run.2]

theorem Resolves.store_eq {store after : Store Obj} {resolution : Resolution}
    (h : layer.Resolves name store resolution after)
    (hother : ∀ signature, resolution ≠ .registered signature) : after = store := by
  cases h with
  | present | notFound | unadaptable | rejected => rfl
  | registered => exact (hother _ rfl).elim

/-- A bare component is registered under a name that the store lacks, so that only a blank name can
be refused. -/
theorem refused_of_bare {store : Store Obj} {target : Target Obj} {registration : Registration Obj}
    {e : RegisterError} (unknown : store.contains name = false)
    (builds : layer.Builds name (.bare target) registration)
    (refused : store.register registration = .error e) :
    e = .unnamed ∧ Text.isBlankText name = true := by
  have hnames : registration.names = [name] := by cases builds <;> rfl
  cases e with
  | unnamed =>
    obtain ⟨own, hown, hblank⟩ := Store.register_eq_unnamed.1 refused
    rw [hnames, List.mem_singleton] at hown
    exact ⟨rfl, hown ▸ hblank⟩
  | duplicate taken =>
    have htaken := (Store.register_eq_duplicate.1 refused).2
    rw [Store.taken?, hnames, List.find?_singleton, unknown] at htaken
    simp at htaken

/-- Each outcome of a resolution has its condition on the store and on what the registry yields,
and only a registration changes the store. Of a bare component only one for a blank name is
rejected. -/
theorem resolve_outcome_iff (layer : Layer Obj) (name : String) (store : Store Obj) :
    let outcome := (layer.resolve .base name).run store
    (outcome.value = .present ↔ store.contains name = true) ∧
      (outcome.value = .notFound ↔ store.contains name = false ∧ layer.YieldsNothing name) ∧
      (outcome.value = .unadaptable ↔ store.contains name = false ∧
        ∃ target, layer.Yields name (.bare target) ∧ ¬target.classOf.IsCallable ∧
          (target.classOf.methods.filter Method.isFunctional).length ≠ 1) ∧
      (∀ e, outcome.value = .rejected e ↔ store.contains name = false ∧
        ∃ component registration, layer.Yields name component ∧
          layer.Builds name component registration ∧ store.register registration = .error e) ∧
      (∀ signature, outcome.value = .registered signature ↔ store.contains name = false ∧
        ∃ component registration, layer.Yields name component ∧
          layer.Builds name component registration ∧ registration.signature = signature ∧
          store.register registration = .ok outcome.store) ∧
      (∀ e target, outcome.value = .rejected e → layer.Yields name (.bare target) →
        e = .unnamed ∧ Text.isBlankText name = true) ∧
      ((∀ signature, outcome.value ≠ .registered signature) → outcome.store = store) ∧
      ∀ signature, outcome.value = .registered signature →
        ∃ registration, registration.signature = signature ∧
          outcome.store.registrations = store.registrations ++ [registration] := by
  intro outcome
  have hrun : layer.Resolves name store outcome.value outcome.store := layer.resolves_run name store
  have hcan {resolution : Resolution} {after : Store Obj}
      (h : layer.Resolves name store resolution after) :
      outcome.value = resolution ∧ outcome.store = after := h.run
  clear_value outcome
  obtain ⟨value, after, trace⟩ := outcome
  refine ⟨⟨?_, ?_⟩, ⟨?_, ?_⟩, ⟨?_, ?_⟩, fun e => ⟨?_, ?_⟩, fun signature => ⟨?_, ?_⟩, ?_,
    hrun.store_eq, ?_⟩
  · rintro rfl
    cases hrun with
    | present known => exact known
  · exact fun known => (hcan (.present known)).1
  · rintro rfl
    cases hrun with
    | notFound unknown nothing => exact ⟨unknown, nothing⟩
  · exact fun ⟨unknown, nothing⟩ => (hcan (.notFound unknown nothing)).1
  · rintro rfl
    cases hrun with
    | unadaptable unknown yields plain several => exact ⟨unknown, _, yields, plain, several⟩
  · exact fun ⟨unknown, _, yields, plain, several⟩ =>
      (hcan (.unadaptable unknown yields plain several)).1
  · rintro rfl
    cases hrun with
    | rejected unknown yields builds refused => exact ⟨unknown, _, _, yields, builds, refused⟩
  · exact fun ⟨unknown, _, _, yields, builds, refused⟩ =>
      (hcan (.rejected unknown yields builds refused)).1
  · rintro rfl
    cases hrun with
    | registered unknown yields builds accepted =>
      exact ⟨unknown, _, _, yields, builds, rfl, accepted⟩
  · rintro ⟨unknown, _, _, yields, builds, rfl, accepted⟩
    exact (hcan (.registered unknown yields builds accepted)).1
  · rintro e target rfl bare
    cases hrun with
    | rejected unknown yields builds refused =>
      obtain rfl := Option.some.inj ((yields_iff.1 yields).symm.trans (yields_iff.1 bare))
      exact refused_of_bare unknown builds refused
  · rintro signature rfl
    cases hrun with
    | registered unknown yields builds accepted =>
      obtain ⟨-, rfl⟩ := Store.register_eq_ok.1 accepted
      exact ⟨_, rfl, Store.registrations_append ..⟩

/-- The blank name has a bare component, `x` a registration whose alias is taken, and `y` leads by its
qualifier to a component that can be registered. -/
theorem resolve_outcome_iff_blank :
    let upper : Target Scripted.Object :=
      .object (.function 0 ⟨.transform, "Upper", .upper, none, {}⟩)
    let ready : Registration Scripted.Object := { primary := "x", aliases := ["a"], target := upper }
    let registry := (Declarations.ofList [.component " " (.bare upper),
      .component "x" (.registration ready), .qualifier " " "y"]).registry
    let layer : Layer Scripted.Object := ⟨registry, {}⟩
    let store := Store.empty.offerAll [{ primary := "a", target := upper }]
    let resolve (name : String) := (layer.resolve .base name).run store
    ((resolve " ").value = .rejected .unnamed ∧ layer.Yields " " (.bare upper) ∧
        Text.isBlankText " " = true ∧ (resolve " ").store = store) ∧
      ((resolve "x").value = .rejected (.duplicate "a") ∧ (resolve "x").store = store) ∧
      (resolve "y").value = .registered .unresolved ∧
      ∃ registration, registration.signature = .unresolved ∧
        (resolve "y").store.registrations = store.registrations ++ [registration] := by
  intro upper ready registry layer store resolve
  have hblank : (resolve " ").value = .rejected .unnamed := by decide
  have htaken : (resolve "x").value = .rejected (.duplicate "a") := by decide
  have hregistered : (resolve "y").value = .registered .unresolved := by decide
  have hcomponent : layer.component? " " = some (.bare upper) := by
    unfold layer registry ready upper
    rfl
  have hyields : layer.Yields " " (.bare upper) := yields_iff.2 hcomponent
  obtain ⟨-, -, -, -, -, hbare, hsame, -⟩ := layer.resolve_outcome_iff " " store
  obtain ⟨-, -, -, -, -, -, hsameToo, -⟩ := layer.resolve_outcome_iff "x" store
  obtain ⟨-, -, -, -, -, -, -, hadds⟩ := layer.resolve_outcome_iff "y" store
  refine ⟨⟨hblank, hyields, (hbare _ upper hblank hyields).2, hsame fun signature h => ?_⟩,
    ⟨htaken, hsameToo fun signature h => ?_⟩, hregistered, hadds _ hregistered⟩
  · cases hblank.symm.trans h
  · cases htaken.symm.trans h

end Layer

end NamedFunctions
