import NamedFunctions.Proofs.CanonicalForm
import NamedFunctions.Proofs.StoreGrowth
import NamedFunctions.Registry.Declared
import NamedFunctions.Scripted

/-! # Lookups through layers

A layer hands the canonical form of a definition down and may do so several times, and the layers
below may register meanwhile. Still a lookup at any level comes to what the store itself finds in
the end. A definition that the store can serve already is served at once: nothing is asked and
nothing is stored on the way, however many layers there are. -/
namespace NamedFunctions

open Definition

variable {Obj : Type}

@[simp] theorem Procedure.run_map {α β : Type} (f : α → β) (procedure : Procedure Obj α)
    (store : Store Obj) :
    (f <$> procedure).run store =
      ⟨f (procedure.run store).value, (procedure.run store).store, (procedure.run store).trace⟩ := by
  rw [map_eq_pure_bind, Procedure.run_bind]
  simp

namespace Store

variable {store : Store Obj} {kind : Option Kind} {definition : String} {outputTypes : List String}

@[simp] theorem lookup_canonical :
    store.lookup kind (canonical definition) outputTypes =
      store.lookup kind definition outputTypes := by
  simp only [lookup_eq, stages_canonical, canonical_canonical]

theorem lookup_of_stages_eq_nil (h : stages definition = []) :
    store.lookup kind definition outputTypes = .error .empty := by
  rw [lookup_eq, h]
  rfl

theorem stages_ne_nil_of_lookup {found : Pipeline Obj}
    (h : store.lookup kind definition outputTypes = .ok found) : stages definition ≠ [] := by
  intro hn
  rw [lookup_of_stages_eq_nil hn] at h
  cases h

theorem contains_of_get? {name : String} {found : Registration Obj}
    (h : store.get? name = some found) : store.contains name = true := by
  obtain ⟨slot, hs, -⟩ := Option.bind_eq_some_iff.1 h
  rw [contains_eq_isSome, hs, Option.isSome_some]

theorem contains_of_lookup {found : Pipeline Obj}
    (h : store.lookup kind definition outputTypes = .ok found) {name : String}
    (hm : name ∈ stages definition) : store.contains name = true := by
  obtain ⟨registrations, hall, -⟩ := lookup_eq_ok.1 h
  have hs : store.get? name ∈ registrations.map some :=
    getAll_eq_ok.1 hall ▸ List.mem_map_of_mem hm
  obtain ⟨registration, -, hr⟩ := List.mem_map.1 hs
  exact contains_of_get? hr.symm

end Store

/-! ## What a lookup comes to -/

/-- The outcome of a lookup is what the store finds in the state that is left. -/
def Outcome.Answers (outcome : Outcome Obj (Option (Pipeline Obj))) (kind : Option Kind)
    (definition : String) (outputTypes : List String) : Prop :=
  outcome.value = (outcome.store.lookup kind definition outputTypes).toOption

theorem Outcome.Answers.lookup_eq_ok {outcome : Outcome Obj (Option (Pipeline Obj))}
    {kind : Option Kind} {definition : String} {outputTypes : List String} {found : Pipeline Obj}
    (h : outcome.Answers kind definition outputTypes) (hv : outcome.value = some found) :
    outcome.store.lookup kind definition outputTypes = .ok found := by
  rw [Outcome.Answers, hv] at h
  cases hl : outcome.store.lookup kind definition outputTypes with
  | ok pipeline =>
    rw [hl] at h
    exact congrArg Except.ok (Option.some.inj h).symm
  | error miss =>
    rw [hl] at h
    cases h

/-- Lookups of definitions that are not blank come to what the store finds. -/
def Catalog.Faithful (catalog : Catalog Obj) : Prop :=
  ∀ (kind : Option Kind) (definition : String) (outputTypes : List String) (store : Store Obj),
    Text.isBlankText definition = false →
      ((catalog.lookup kind definition outputTypes).run store).Answers kind definition outputTypes

theorem Catalog.run_lookup_base (kind : Option Kind) (definition : String)
    (outputTypes : List String) (store : Store Obj) :
    ((base.lookup kind definition outputTypes).run store).value =
        (store.lookup kind definition outputTypes).toOption ∧
      ((base.lookup kind definition outputTypes).run store).store = store := by
  show ((lookupStored kind definition outputTypes).run store).value = _ ∧
    ((lookupStored kind definition outputTypes).run store).store = store
  rw [lookupStored, Procedure.run_bind, Procedure.run_observe]
  cases h : store.lookup kind definition outputTypes with
  | ok pipeline => exact ⟨rfl, rfl⟩
  | error miss => cases miss <;> exact ⟨rfl, rfl⟩

theorem Catalog.faithful_base : (Catalog.base : Catalog Obj).Faithful := by
  intro kind definition outputTypes store _
  obtain ⟨hvalue, hstore⟩ := run_lookup_base kind definition outputTypes store
  rw [Outcome.Answers, hvalue, hstore]

variable [Described Obj]

/-- The lookup of a layer over a faithful catalog, whether it ends with the first answer from below,
with the last one, or with an empty definition. -/
theorem Layer.answers_lookup (layer : Layer Obj) {below : Catalog Obj} (faithful : below.Faithful)
    (kind : Option Kind) (definition : Option String) (outputTypes : List String)
    (store : Store Obj) :
    ((layer.lookup below kind definition outputTypes).run store).Answers kind
      (layer.effective definition) outputTypes := by
  rw [Layer.lookup]
  generalize layer.effective definition = raw
  by_cases hn : names raw = []
  · rw [if_pos hn, Procedure.run_bind, Procedure.run_report]
    exact congrArg Except.toOption (Store.lookup_of_stages_eq_nil (names_eq_nil.1 hn)).symm
  · have hb := isBlankText_canonical fun hs => hn (names_eq_nil.2 hs)
    have hbelow : ∀ s : Store Obj,
        ((below.lookup kind (canonical raw) outputTypes).run s).Answers kind raw outputTypes := by
      intro s
      have h := faithful kind (canonical raw) outputTypes s hb
      rw [Outcome.Answers, Store.lookup_canonical] at h
      exact h
    have hfirst := hbelow store
    rw [if_neg hn, Procedure.run_bind]
    cases hr : (below.lookup kind (canonical raw) outputTypes).run store with
    | mk value middle trace =>
      rw [hr] at hfirst
      cases value with
      | some found => exact hfirst
      | none =>
        simp only [Procedure.run_bind]
        exact hbelow _

theorem Layer.lookup_atop (layer : Layer Obj) (below : Catalog Obj) (kind : Option Kind)
    (definition : String) (outputTypes : List String) :
    (layer.atop below).lookup kind definition outputTypes =
      layer.lookup below kind (some definition) outputTypes := by
  simp only [Layer.atop]

theorem Layer.faithful_atop (layer : Layer Obj) {below : Catalog Obj} (faithful : below.Faithful) :
    (layer.atop below).Faithful := by
  intro kind definition outputTypes store hb
  have h := layer.answers_lookup faithful kind (some definition) outputTypes store
  rwa [layer.effective_some hb, ← layer.lookup_atop] at h

theorem Catalog.faithful_ofLayers (layers : List (Layer Obj)) : (Catalog.ofLayers layers).Faithful := by
  -- by induction on the layers: each one adds a discovery between two lookups below it
  induction layers with
  | nil => exact faithful_base
  | cons layer layers ih => exact layer.faithful_atop ih

/-- Through any number of layers, and whatever is discovered on the way, a lookup answers what the
store itself gives afterwards for the definition that the lookup is about. -/
theorem Layer.lookup_refines_store (layer : Layer Obj) (layers : List (Layer Obj))
    (kind : Option Kind) (definition : Option String) (outputTypes : List String)
    (store : Store Obj) :
    let outcome := (layer.lookup (.ofLayers layers) kind definition outputTypes).run store
    let stored :=
      (Catalog.base.lookup kind (layer.effective definition) outputTypes).run outcome.store
    outcome.value = stored.value ∧ stored.store = outcome.store := by
  intro outcome stored
  have hanswer : outcome.Answers kind (layer.effective definition) outputTypes :=
    layer.answers_lookup (Catalog.faithful_ofLayers layers) kind definition outputTypes store
  obtain ⟨hvalue, hstore⟩ :=
    Catalog.run_lookup_base kind (layer.effective definition) outputTypes outcome.store
  exact ⟨hanswer.trans hvalue.symm, hstore⟩

/-- Nothing is given, so the default is looked up, of which each layer discovers one name. -/
theorem Layer.lookup_refines_store_discovered :
    let upper : Target Scripted.Object := .object (.function 0 ⟨.transform, "Upper", .upper, none, {}⟩)
    let note : Target Scripted.Object := .object (.function 1 ⟨.transform, "Note", .record, none, {}⟩)
    let layer : Layer Scripted.Object :=
      ⟨(Declarations.ofList [.component "upper" (.bare upper)]).registry, ⟨some " note,upper"⟩⟩
    let lower : Layer Scripted.Object :=
      ⟨(Declarations.ofList [.component "note" (.bare note)]).registry, {}⟩
    let found : Pipeline Scripted.Object :=
      ⟨"note|upper", [{ primary := "note", target := note }, { primary := "upper", target := upper }],
        .unresolved, ["text"]⟩
    let outcome := (layer.lookup (.ofLayers [lower]) none none ["text"]).run .empty
    layer.effective none = "note,upper" ∧ outcome.value = some found ∧
      outcome.store.registrations = found.stages ∧
      ((Catalog.base.lookup none "note,upper" ["text"]).run outcome.store).value = some found := by
  intro upper note layer lower found outcome
  have heffective : layer.effective none = "note,upper" := layer.effective_of_default (by simp) rfl
  have hvalue : outcome.value = some found := by
    unfold outcome found layer lower upper note
    rfl
  have hregistered : outcome.store.registrations = found.stages := by
    unfold outcome found layer lower upper note
    rfl
  have hstores := (layer.lookup_refines_store [lower] none none ["text"] .empty).1
  rw [heffective] at hstores
  exact ⟨heffective, hvalue, hregistered, hstores.symm.trans hvalue⟩

/-! ## What the store can serve already -/

theorem Catalog.run_lookup_of_stored (layers : List (Layer Obj)) {store : Store Obj}
    {kind : Option Kind} {definition : String} {outputTypes : List String} {found : Pipeline Obj}
    (h : store.lookup kind definition outputTypes = .ok found) :
    ((Catalog.ofLayers layers).lookup kind definition outputTypes).run store =
      ⟨some found, store, []⟩ := by
  have hn := Store.stages_ne_nil_of_lookup h
  induction layers generalizing definition with
  | nil =>
    show (lookupStored kind definition outputTypes).run store = _
    rw [lookupStored, Procedure.run_bind, Procedure.run_observe, h]
    rfl
  | cons layer layers ih =>
    have hb := isBlankText_of_stages_ne_nil hn
    have hc := @ih (canonical definition) (by rw [Store.lookup_canonical, h])
      (by rwa [stages_canonical])
    rw [ofLayers_cons, Layer.lookup_atop, Layer.lookup, layer.effective_some hb,
      if_neg (by rwa [names_eq_nil]), Procedure.run_bind, hc]
    rfl

/-! ## Lookups over the store itself -/

section OverBase

variable (layer : Layer Obj) {kind : Option Kind} {definition : Option String}
  {outputTypes : List String} {store : Store Obj}

theorem Layer.run_lookup_of_ok {found : Pipeline Obj}
    (h : store.lookup kind (layer.effective definition) outputTypes = .ok found) :
    (layer.lookup .base kind definition outputTypes).run store = ⟨some found, store, []⟩ := by
  have hn := Store.stages_ne_nil_of_lookup h
  have hfirst := Catalog.run_lookup_of_stored [] (Store.lookup_canonical.trans h)
  rw [Catalog.ofLayers_nil] at hfirst
  rw [Layer.lookup, if_neg (by rwa [names_eq_nil]), Procedure.run_bind, hfirst]
  rfl

theorem Layer.run_lookup_of_error {miss : LookupMiss Obj}
    (h : store.lookup kind (layer.effective definition) outputTypes = .error miss)
    (hn : names (layer.effective definition) ≠ []) :
    (layer.lookup .base kind definition outputTypes).run store =
      let look := Catalog.base.lookup kind (canonical (layer.effective definition)) outputTypes
      let missing := (layer.resolveMissing .base (store.names none)
        (names (layer.effective definition))).run store
      ⟨(look.run missing.store).value, missing.store,
        (look.run store).trace ++ (missing.trace ++ (look.run missing.store).trace)⟩ := by
  have hnames : (Catalog.base.names none).run store = ⟨store.names none, store, []⟩ := rfl
  have hlook (s : Store Obj) :=
    Catalog.run_lookup_base kind (canonical (layer.effective definition)) outputTypes s
  have hfirst := (hlook store).1
  rw [Store.lookup_canonical, h] at hfirst
  rw [Layer.lookup, if_neg hn, Procedure.run_bind]
  dsimp only
  rw [hfirst]
  simp only [Except.toOption, Procedure.run_bind, hnames, (hlook _).2, List.nil_append]

end OverBase

/-! ## What was found stays found -/

theorem Operation.run_perform_lookup (layers : List (Layer Obj)) (kind : Option Kind)
    (definition : String) (outputTypes : List String) (store : Store Obj) :
    ((Operation.lookup kind definition outputTypes).perform layers).run store =
      let outcome := ((Catalog.ofLayers layers).lookup kind definition outputTypes).run store
      ⟨.pipeline outcome.value, outcome.store, outcome.trace⟩ := by
  simp only [Operation.perform, Procedure.run_map]

/-- In a run of operations the registrations grow at the end only, and a name keeps its
registration. What a lookup has once found, the same lookup finds ever after, though registries
may change with each operation. -/
theorem Store.resolvable_stays (store : Store Obj)
    (earlier later : List (List (Layer Obj) × Operation Obj)) :
    (store.afterAll earlier).registrations <+: (store.afterAll (earlier ++ later)).registrations ∧
      (∀ (name : String) (found : Registration Obj),
        (store.afterAll earlier).get? name = some found →
          (store.afterAll (earlier ++ later)).get? name = some found) ∧
      ∀ (layers layersThen : List (Layer Obj)) (kind : Option Kind) (definition : String)
        (outputTypes : List String) (found : Pipeline Obj),
        Text.isBlankText definition = false →
          let lookup : Operation Obj := .lookup kind definition outputTypes
          ((lookup.perform layers).run (store.afterAll earlier)).value = .pipeline (some found) →
            ((lookup.perform layersThen).run
              (store.afterAll (earlier ++ (layers, lookup) :: later))).value =
                .pipeline (some found) := by
  have grows := (store.afterAll earlier).extends_afterAll later
  rw [← afterAll_append] at grows
  refine ⟨grows.registrations, fun name found h => grows.get? h, ?_⟩
  intro layers layersThen kind definition outputTypes found hb lookup hfound
  rw [Operation.run_perform_lookup] at hfound
  -- the first call leaves a store that serves the definition, and what follows only extends it
  have hserved : ((lookup.perform layers).run (store.afterAll earlier)).store.lookup kind definition
      outputTypes = .ok found := by
    rw [Operation.run_perform_lookup]
    exact (Catalog.faithful_ofLayers layers kind definition outputTypes _ hb).lookup_eq_ok
      (Answer.pipeline.inj hfound)
  have hstill := (extends_afterAll _ later).lookup hserved
  rw [afterAll_append, afterAll_cons, Operation.run_perform_lookup,
    Catalog.run_lookup_of_stored layersThen hstill]

/-- One name is registered, another is discovered in a registry, and then the registry is emptied:
both stay as they were. -/
theorem Store.resolvable_stays_upper :
    let upper : Target Scripted.Object := .object (.function 0 ⟨.transform, "Upper", .upper, none, {}⟩)
    let registry := (Declarations.ofList [.component "upper" (.bare upper)]).registry
    let louder : Registration Scripted.Object := { primary := "louder", target := upper }
    let lookup : Operation Scripted.Object := .lookup none " upper," ["text"]
    let found : Pipeline Scripted.Object :=
      ⟨"upper", [{ primary := "upper", target := upper }], .unresolved, ["text"]⟩
    let earlier : List (List (Layer Scripted.Object) × Operation Scripted.Object) :=
      [([], .register louder)]
    let later : List (List (Layer Scripted.Object) × Operation Scripted.Object) :=
      [([⟨registry, {}⟩], .names none), ([], .register louder), ([⟨.empty, {}⟩], .resolve "lower")]
    Text.isBlankText " upper," = false ∧
      (Store.empty.afterAll earlier).get? "louder" = some louder ∧
      ((lookup.perform [⟨registry, {}⟩]).run (Store.empty.afterAll earlier)).value =
        .pipeline (some found) ∧
      (Store.empty.afterAll (earlier ++ later)).get? "louder" = some louder ∧
      ((lookup.perform [⟨.empty, {}⟩]).run
        (Store.empty.afterAll (earlier ++ ([⟨registry, {}⟩], lookup) :: later))).value =
          .pipeline (some found) :=
  ⟨by decide, by rfl, by rfl, (Store.resolvable_stays .empty _ _).2.1 "louder" _ (by rfl),
    (Store.resolvable_stays .empty _ _).2.2 _ _ none " upper," ["text"] _ (by decide) (by rfl)⟩

end NamedFunctions
