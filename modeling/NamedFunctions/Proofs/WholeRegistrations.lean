import NamedFunctions.Proofs.DiscoveryOrder

/-! # Registrations are taken whole

A registration may bring any number of names, and any of them may be blank or taken. It is accepted
with all of them or refused with all of them, and the answer tells which name is at fault. A refusal
leaves the store as it was. An acceptance shows only where one of the new names is asked for: every
other name leads to what it led to before, and a lookup that mentions none of the new names comes to
what it came to before, whether it found something or not. -/
namespace NamedFunctions

open Definition

variable {Obj : Type}

namespace Store

variable {store other : Store Obj} {registration : Registration Obj} {name : String}

/-- The name is taken, and no name that the registration has before it is. -/
def FirstTaken (store : Store Obj) (registration : Registration Obj) (name : String) : Prop :=
  ∃ before after, registration.names = before ++ name :: after ∧ store.contains name = true ∧
    ∀ own ∈ before, store.contains own = false

theorem taken?_eq_some : store.taken? registration = some name ↔ store.FirstTaken registration name := by
  rw [taken?, List.find?_eq_some_iff_append, FirstTaken]
  constructor
  · rintro ⟨htaken, before, after, hnames, hfree⟩
    exact ⟨before, after, hnames, htaken, fun own hm => by simpa using hfree own hm⟩
  · rintro ⟨before, after, hnames, htaken, hfree⟩
    exact ⟨htaken, before, after, hnames, fun own hm => by simp [hfree own hm]⟩

/-! ## What a lookup depends on -/

theorem getAll_congr {names : List String} (h : ∀ name ∈ names, store.get? name = other.get? name) :
    store.getAll names = other.getAll names := by
  induction names with
  | nil => rfl
  | cons first rest ih =>
    obtain ⟨hfirst, hrest⟩ := List.forall_mem_cons.1 h
    rw [getAll, getAll, hfirst, ih hrest]

/-- A lookup depends on nothing but what the stages of its definition lead to. -/
theorem lookup_congr {definition : String}
    (h : ∀ name ∈ stages definition, store.get? name = other.get? name) (kind : Option Kind)
    (outputTypes : List String) :
    store.lookup kind definition outputTypes = other.lookup kind definition outputTypes := by
  rw [lookup_eq, lookup_eq, getAll_congr h]

/-! ## Stores that come about -/

/-- Whatever a procedure does, list and index stay in step. -/
theorem WellFormed.run {α : Type} (h : store.WellFormed) (procedure : Procedure Obj α) :
    (procedure.run store).store.WellFormed := by
  induction procedure generalizing store with
  | done => exact h
  | read _ ih => exact ih store h
  | register registration _ ih =>
    cases hr : store.register registration with
    | ok next =>
      simp only [Procedure.run, hr]
      exact ih (.ok ()) (h.register hr)
    | error e =>
      simp only [Procedure.run, hr]
      exact ih (.error e) h
  | note _ _ ih => exact ih h
  | enter _ _ _ ih => exact ih none h
  | leave _ _ _ _ ih => exact ih h

theorem WellFormed.afterAll [Described Obj] (h : store.WellFormed)
    (operations : List (List (Layer Obj) × Operation Obj)) :
    (store.afterAll operations).WellFormed := by
  induction operations generalizing store with
  | nil => exact h
  | cons first rest ih => exact ih (h.run _)

end Store

/-! ## Registering at any level -/

section Registering

variable [Described Obj] (layers : List (Layer Obj)) (registration : Registration Obj)
  (store : Store Obj)

/-- Layers pass a registration down to the store. -/
theorem Catalog.register_ofLayers :
    (ofLayers layers).register registration = .submit registration := by
  induction layers with
  | nil => rfl
  | cons layer layers ih => exact ih

theorem Catalog.run_register_ofLayers :
    ((ofLayers layers).register registration).run store =
      ⟨(store.register registration).map fun _ => (), store.offer registration, []⟩ := by
  rw [register_ofLayers, Procedure.run_submit, Store.offer]
  cases store.register registration <;> rfl

theorem Catalog.value_run_register_eq_error {e : RegisterError} :
    (((ofLayers layers).register registration).run store).value = .error e ↔
      store.register registration = .error e := by
  rw [run_register_ofLayers]
  cases store.register registration <;> simp [Except.map]

/-- What is accepted is added, and nothing else is. -/
theorem Catalog.value_run_register_eq_ok :
    (((ofLayers layers).register registration).run store).value = .ok () ↔
      store.register registration = .ok (store.append registration) := by
  rw [run_register_ofLayers]
  cases hr : store.register registration with
  | ok next =>
    obtain ⟨-, rfl⟩ := Store.register_eq_ok.1 hr
    exact iff_of_true rfl rfl
  | error e => simp [Except.map]

end Registering

/-- A registration is refused as unnamed when one of its names is blank, else as a duplicate of
its first name that is taken, and nothing changes. Otherwise it stands at the end, each of its
names leads to it, and lookups of other names come to the same. -/
theorem Store.register_whole [Described Obj]
    (operations : List (List (Layer Obj) × Operation Obj)) (layers : List (Layer Obj))
    (registration : Registration Obj) :
    let store := (Store.empty : Store Obj).afterAll operations
    let outcome := ((Catalog.ofLayers layers).register registration).run store
    let after := outcome.store
    (outcome.value = .error .unnamed ↔
        ∃ own ∈ registration.names, Text.isBlankText own = true) ∧
      (∀ taken, outcome.value = .error (.duplicate taken) ↔
        (∀ own ∈ registration.names, Text.isBlankText own = false) ∧
          store.FirstTaken registration taken) ∧
      (outcome.value = .ok () ↔
        ∀ own ∈ registration.names, Text.isBlankText own = false ∧ store.contains own = false) ∧
      (∀ e, outcome.value = .error e → after = store) ∧
      (outcome.value = .ok () →
        after.registrations = store.registrations ++ [registration] ∧
          (∀ name, after.get? name =
            if name ∈ registration.names then some registration else store.get? name) ∧
          ∀ (kind : Option Kind) (definition : String) (outputTypes : List String),
            (∀ own ∈ registration.names, own ∉ stages definition) →
              after.lookup kind definition outputTypes =
                store.lookup kind definition outputTypes) := by
  intro store outcome after
  have hafter : after = store.offer registration := by
    show (((Catalog.ofLayers layers).register registration).run store).store = _
    rw [Catalog.run_register_ofLayers]
  refine ⟨?_, fun taken => ?_, ?_, fun e he => ?_, fun hok => ?_⟩
  · exact (Catalog.value_run_register_eq_error ..).trans register_eq_unnamed
  · rw [← taken?_eq_some]
    exact (Catalog.value_run_register_eq_error ..).trans register_eq_duplicate
  · refine (Catalog.value_run_register_eq_ok ..).trans (register_eq_ok.trans ?_)
    exact and_iff_left rfl
  · have hr := (Catalog.value_run_register_eq_error ..).1 he
    rw [hafter, offer, hr]
  · have hr := (Catalog.value_run_register_eq_ok ..).1 hok
    have happended : after = store.append registration := by rw [hafter, offer, hr]
    have hwell : store.WellFormed := WellFormed.empty.afterAll operations
    rw [happended]
    refine ⟨registrations_append .., hwell.get?_append registration, ?_⟩
    intro kind definition outputTypes hunmentioned
    refine lookup_congr (fun name hm => ?_) kind outputTypes
    rw [hwell.get?_append, if_neg fun hn => hunmentioned name hn hm]

/-- Of the first registration's names two are free and two are taken, one of these by discovery; the
second has a taken name before a blank one. The free names go to the third. -/
theorem Store.register_whole_clash :
    let upper : Target Scripted.Object :=
      .object (.function 0 ⟨.transform, "Upper", .upper, none, {}⟩)
    let layer : Layer Scripted.Object :=
      ⟨(Declarations.ofList [.component "upper" (.bare upper)]).registry, {}⟩
    let operations : List (List (Layer Scripted.Object) × Operation Scripted.Object) :=
      [([], .register { primary := "a", target := upper }), ([layer], .lookup none "upper" [])]
    let store := Store.empty.afterAll operations
    let clash : Registration Scripted.Object :=
      { primary := "b", aliases := ["c", "upper", "a"], target := upper }
    let blank : Registration Scripted.Object :=
      { primary := "a", aliases := ["\u3000"], target := upper }
    let fresh : Registration Scripted.Object := { primary := "b", aliases := ["c"], target := upper }
    let register (registration : Registration Scripted.Object) :=
      ((Catalog.ofLayers [layer]).register registration).run store
    ((register clash).value = .error (.duplicate "upper") ∧ (register clash).store = store) ∧
      ((register blank).value = .error .unnamed ∧ (register blank).store = store) ∧
      (register fresh).value = .ok () ∧
      (register fresh).store.get? "c" = some fresh ∧
      (register fresh).store.lookup none "a | upper" [] = store.lookup none "a | upper" [] := by
  intro upper layer operations store clash blank fresh register
  have hclash : (register clash).value = .error (.duplicate "upper") :=
    ((register_whole operations [layer] clash).2.1 "upper").2
      ⟨by decide, ["b", "c"], ["a"], rfl, by decide, by decide⟩
  have hblank : (register blank).value = .error .unnamed :=
    (register_whole operations [layer] blank).1.2 ⟨"\u3000", by decide, by decide⟩
  have hfresh : (register fresh).value = .ok () :=
    (register_whole operations [layer] fresh).2.2.1.2 (by decide)
  obtain ⟨-, hget, hlookup⟩ := (register_whole operations [layer] fresh).2.2.2.2 hfresh
  exact ⟨⟨hclash, (register_whole operations [layer] clash).2.2.2.1 _ hclash⟩,
    ⟨hblank, (register_whole operations [layer] blank).2.2.2.1 _ hblank⟩, hfresh,
    (hget "c").trans (if_pos (by decide)), hlookup none "a | upper" [] (by decide)⟩

end NamedFunctions
