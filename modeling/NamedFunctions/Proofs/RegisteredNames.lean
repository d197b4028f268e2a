import NamedFunctions.Proofs.SettledNames

/-! # The names under which a component is registered

When a layer says that it has registered what it found for a name, the store has grown by just one
registration. A bare component is registered under the name that it was sought by. A component that
is a registration already keeps the names that it has, and these need not include the name under
which the registry offers it: by a qualifier, an alias or another key it is found, registered, and
still not known under that name. -/
namespace NamedFunctions

open Definition

variable {Obj : Type}

namespace Store

variable {store : Store Obj} {name : String} {registration : Registration Obj}

theorem lookup_single (hname : stages name = [name]) (hget : store.get? name = some registration)
    (outputTypes : List String) :
    store.lookup none name outputTypes =
      .ok ⟨name, [registration], registration.signature, outputTypes⟩ := by
  have hall : store.getAll (stages name) = .ok [registration] := by
    rw [hname, getAll_eq_ok, List.map_singleton, hget, List.map_singleton]
  have hplaced : Pipeline.misplaced? true [registration] = none := by
    unfold Pipeline.misplaced?
    cases registration.kind <;> rfl
  refine lookup_eq_ok.2 ⟨[registration], hall, hplaced, ?_, rfl⟩
  rw [canonical_of_stages_eq hname]
  rfl

end Store

namespace Layer

variable [Described Obj] (layer : Layer Obj) {name : String} {store : Store Obj}

theorem names_of_candidate? {registration : Registration Obj} {source : SignatureSource}
    (h : layer.candidate? name = some (registration, source)) :
    registration.names = [name] ∨ layer.component? name = some (.registration registration) := by
  obtain ⟨component, hc, hp⟩ := Option.bind_eq_some_iff.1 h
  cases component with
  | registration ready =>
    cases hp
    exact .inr hc
  | bare target =>
    left
    rw [prepared?] at hp
    split at hp
    · obtain ⟨adapted, -, he⟩ := Option.map_eq_some_iff.1 hp
      cases he
      rfl
    · cases hp
      rfl

/-! ## What a resolution comes to -/

theorem value_run_discover (name : String) (store : Store Obj) :
    ((layer.discover .base name).run store).value =
      match layer.candidate? name with
      | none => if (layer.component? name).isSome then .unadaptable else .notFound
      | some (registration, _) =>
        match store.register registration with
        | .ok _ => .registered registration.signature
        | .error e => .rejected e := by
  cases h : layer.candidate? name with
  | none =>
    obtain ⟨notes, -, he⟩ := layer.discover_of_none name .base h
    rw [he, Procedure.run_noteAll]
    rfl
  | some found =>
    obtain ⟨registration, source⟩ := found
    obtain ⟨notes, -, he⟩ := layer.discover_of_some name .base h
    have hsubmit : (Catalog.base.register registration).run store = _ :=
      Procedure.run_submit registration store
    rw [he, Procedure.run_noteAll, Procedure.run_bind, hsubmit]
    dsimp only
    cases store.register registration <;> rfl

theorem value_run_resolve (name : String) (store : Store Obj) :
    ((layer.resolve .base name).run store).value =
      if store.contains name then .present
      else ((layer.discover .base name).run store).value := by
  unfold resolve
  have hcontains : (Catalog.base.contains name).run store = ⟨store.contains name, store, []⟩ := rfl
  rw [Procedure.run_inFlight, Procedure.run_bind, hcontains]
  dsimp only
  split <;> rfl

theorem store_of_resolve_registered {signature : Signature}
    (h : ((layer.resolve .base name).run store).value = .registered signature) :
    ∃ registration source, layer.candidate? name = some (registration, source) ∧
      registration.signature = signature ∧ store.contains name = false ∧
      ((layer.resolve .base name).run store).store = store.append registration := by
  rw [value_run_resolve, value_run_discover] at h
  rw [store_run_resolve, store_run_discover]
  split at h
  · cases h
  · next hmissing =>
    rw [if_neg hmissing]
    cases hc : layer.candidate? name with
    | none =>
      rw [hc] at h
      dsimp only at h
      split at h <;> cases h
    | some found =>
      obtain ⟨registration, source⟩ := found
      rw [hc] at h
      cases hr : store.register registration with
      | error e =>
        simp only [hr] at h
        cases h
      | ok next =>
        simp only [hr] at h
        cases h
        rw [Option.elim_some, Store.offer, hr]
        obtain ⟨-, rfl⟩ := Store.register_eq_ok.1 hr
        exact ⟨registration, source, rfl, rfl, Bool.eq_false_iff.2 hmissing, rfl⟩

/-- When resolving a name ends with a registration, the store has it under each of its names, with
the signature that was reported. A lookup of the name then asks nothing, unless a ready-made
registration does not list it and leaves it unknown. -/
theorem resolve_registers (layer : Layer Obj) (name : String) (store : Store Obj)
    (signature : Signature) (hname : stages name = [name])
    (h : ((layer.resolve .base name).run store).value = .registered signature) :
    let after := ((layer.resolve .base name).run store).store
    ∃ registration : Registration Obj, registration.signature = signature ∧
      (∀ own ∈ registration.names, after.get? own = some registration) ∧
      (name ∉ registration.names →
        layer.component? name = some (.registration registration) ∧ after.contains name = false) ∧
      (name ∈ registration.names →
        after.get? name = some registration ∧
          (layer.lookup .base none (some name) []).run after =
            ⟨some ⟨name, [registration], signature, []⟩, after, []⟩) := by
  intro after
  obtain ⟨registration, source, hc, rfl, hmissing, hafter⟩ := layer.store_of_resolve_registered h
  have hget : ∀ own ∈ registration.names, after.get? own = some registration := by
    intro own hown
    show ((layer.resolve .base name).run store).store.get? own = some registration
    rw [hafter]
    exact store.get?_append_of_mem hown
  refine ⟨registration, rfl, hget, ?_, ?_⟩
  · intro hother
    constructor
    · rcases layer.names_of_candidate? hc with hnames | hready
      · simp [hnames] at hother
      · exact hready
    · show ((layer.resolve .base name).run store).store.contains name = false
      rw [hafter, Store.contains_append, hmissing]
      simpa using hother
  · intro hown
    have hblank : Text.isBlankText name = false := isBlankText_of_stages_ne_nil (by simp [hname])
    have hlookup := Store.lookup_single hname (hget name hown) []
    rw [← layer.effective_some hblank] at hlookup
    refine ⟨hget name hown, ?_⟩
    rw [layer.run_lookup_of_ok hlookup, layer.effective_some hblank]

/-- A registration that lists `x` as an alias, found by the qualifier `x`. -/
theorem resolve_registers_qualified :
    let upper : Target Scripted.Object :=
      .object (.function 0 ⟨.transform, "Upper", .upper, none, {}⟩)
    let ready : Registration Scripted.Object :=
      { primary := "a", aliases := ["x"], target := upper, signature := ⟨.any, .any⟩ }
    let registry :=
      (Declarations.ofList [.component "b" (.registration ready), .qualifier "b" "x"]).registry
    let layer : Layer Scripted.Object := ⟨registry, {}⟩
    let after := ((layer.resolve .base "x").run .empty).store
    stages "x" = ["x"] ∧
      ((layer.resolve .base "x").run .empty).value = .registered ⟨.any, .any⟩ ∧
      after.get? "x" = some ready ∧
      (layer.lookup .base none (some "x") []).run after =
        ⟨some ⟨"x", [ready], ⟨.any, .any⟩, []⟩, after, []⟩ := by
  intro upper ready registry layer after
  have hname : stages "x" = ["x"] := by decide
  have hresolved : ((layer.resolve .base "x").run .empty).value = .registered ⟨.any, .any⟩ := by
    decide
  obtain ⟨registration, -, -, hother, hown⟩ :=
    layer.resolve_registers "x" .empty ⟨.any, .any⟩ hname hresolved
  have hready : layer.component? "x" = some (.registration ready) := by
    unfold layer registry ready upper
    rfl
  have hlisted : "x" ∈ registration.names := by
    by_contra hn
    obtain ⟨hfound, -⟩ := hother hn
    rw [hready] at hfound
    cases hfound
    exact hn (by decide)
  obtain ⟨hget, hlookup⟩ := hown hlisted
  have hstored : after.get? "x" = some ready := by
    unfold after layer registry ready upper
    rfl
  obtain rfl : ready = registration := Option.some.inj (hstored.symm.trans hget)
  exact ⟨hname, hresolved, hstored, hlookup⟩

/-- The same registration without the alias: `x` is resolved again by every lookup, and never known. -/
theorem resolve_registers_elsewhere :
    let upper : Target Scripted.Object :=
      .object (.function 0 ⟨.transform, "Upper", .upper, none, {}⟩)
    let ready : Registration Scripted.Object :=
      { primary := "a", target := upper, signature := ⟨.any, .any⟩ }
    let registry := (Declarations.ofList [.component "x" (.registration ready)]).registry
    let layer : Layer Scripted.Object := ⟨registry, {}⟩
    let after := ((layer.resolve .base "x").run .empty).store
    let again := (layer.lookup .base none (some "x") []).run after
    stages "x" = ["x"] ∧
      ((layer.resolve .base "x").run .empty).value = .registered ⟨.any, .any⟩ ∧
      after.get? "x" = none ∧ again.value = none ∧
      Note.asked 0 (.contains "x") ∈ again.trace := by
  intro upper ready registry layer after again
  have hget : after.get? "x" = none := Option.isNone_iff_eq_none.1 (by decide)
  have hvalue : again.value = none := Option.isNone_iff_eq_none.1 (by decide)
  exact ⟨by decide, by decide, hget, hvalue, by decide⟩

end Layer

end NamedFunctions
