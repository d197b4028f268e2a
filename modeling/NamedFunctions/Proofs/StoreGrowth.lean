import NamedFunctions.Operation

/-! # Stores only grow

Of the atomic steps of a procedure only a registration changes the store, and it adds at the end and
under names that led nowhere before. The store that a procedure leaves therefore continues the one
it started from, whatever the procedure asks and whatever a registry answers, and so does the store
after any run of operations. What a continued store could look up it still looks up, with the same
result. -/
namespace NamedFunctions.Store

variable {Obj : Type}

/-- One store continues another: its registrations begin with the other's, and every name keeps the
slot that it had. -/
structure Extends (before after : Store Obj) : Prop where
  registrations : before.registrations <+: after.registrations
  slots : ∀ (name : String) (slot : Nat), before.slots[name]? = some slot → after.slots[name]? = some slot

namespace Extends

variable {before middle after : Store Obj}

theorem refl (store : Store Obj) : store.Extends store :=
  ⟨List.prefix_refl _, fun _ _ h => h⟩

theorem trans (first : before.Extends middle) (last : middle.Extends after) :
    before.Extends after :=
  ⟨first.registrations.trans last.registrations,
    fun name slot h => last.slots name slot (first.slots name slot h)⟩

theorem get? (extended : before.Extends after) {name : String} {found : Registration Obj}
    (h : before.get? name = some found) : after.get? name = some found := by
  obtain ⟨slot, hs, hr⟩ := Option.bind_eq_some_iff.1 h
  obtain ⟨added, ha⟩ := extended.registrations
  have hlt := (List.getElem?_eq_some_iff.1 hr).1
  rw [Store.get?, extended.slots name slot hs, Option.bind_some, ← ha,
    List.getElem?_append_left hlt, hr]

theorem contains (extended : before.Extends after) {name : String}
    (h : before.contains name = true) : after.contains name = true := by
  rw [contains_eq_isSome, Option.isSome_iff_exists] at h ⊢
  obtain ⟨slot, hs⟩ := h
  exact ⟨slot, extended.slots name slot hs⟩

end Extends

/-! ## Procedures -/

theorem extends_append {store : Store Obj} {registration : Registration Obj}
    (h : ∀ name ∈ registration.names, store.contains name = false) :
    store.Extends (store.append registration) := by
  refine ⟨List.prefix_append .., ?_⟩
  intro name slot hs
  have hc : store.contains name = true := by rw [contains_eq_isSome, hs, Option.isSome_some]
  have hm : name ∉ registration.names := by
    intro hm
    rw [h name hm] at hc
    cases hc
  rw [append, getElem?_foldl_insert, if_neg hm, hs]

theorem extends_of_register {store next : Store Obj} {registration : Registration Obj}
    (h : store.register registration = .ok next) : store.Extends next := by
  obtain ⟨hnames, rfl⟩ := register_eq_ok.1 h
  exact extends_append fun name hm => (hnames name hm).2

/-- Registrations that are accepted one after another share no name, neither with the store that
they began with nor with each other. -/
theorem names_disjoint_of_foldlM {store last : Store Obj} {registrations : List (Registration Obj)}
    (h : registrations.foldlM Store.register store = .ok last) :
    (∀ registration ∈ registrations, ∀ name ∈ registration.names, store.contains name = false) ∧
      registrations.Pairwise fun first second => ∀ name ∈ first.names, name ∉ second.names := by
  induction registrations generalizing store with
  | nil => simp
  | cons registration rest ih =>
    rw [List.foldlM_cons] at h
    cases hr : store.register registration with
    | error e =>
      rw [hr] at h
      cases h
    | ok next =>
      rw [hr] at h
      obtain ⟨hfree, hdisjoint⟩ := ih h
      obtain ⟨hnames, rfl⟩ := register_eq_ok.1 hr
      have hall : ∀ other ∈ rest, ∀ name ∈ other.names,
          name ∉ registration.names ∧ store.contains name = false := by
        intro other ho name hm
        simpa using hfree other ho name hm
      constructor
      · intro other ho name hm
        rcases List.mem_cons.1 ho with rfl | ho
        · exact (hnames name hm).2
        · exact (hall other ho name hm).2
      · refine List.pairwise_cons.2 ⟨?_, hdisjoint⟩
        intro other ho name hm hn
        exact (hall other ho name hn).1 hm

/-- Whatever a procedure does, its store only grows. -/
theorem extends_run {α : Type} (procedure : Procedure Obj α) (store : Store Obj) :
    store.Extends (procedure.run store).store := by
  induction procedure generalizing store with
  | done => exact .refl store
  | read _ ih => exact ih store store
  | register registration _ ih =>
    cases h : store.register registration with
    | ok next =>
      simp only [Procedure.run, h]
      exact (extends_of_register h).trans (ih (.ok ()) next)
    | error e =>
      simp only [Procedure.run, h]
      exact ih (.error e) store
  | note _ _ ih => exact ih store
  | enter _ _ _ ih => exact ih none store
  | leave _ _ _ _ ih => exact ih store

theorem afterAll_append [Described Obj] (store : Store Obj)
    (earlier later : List (List (Layer Obj) × Operation Obj)) :
    store.afterAll (earlier ++ later) = (store.afterAll earlier).afterAll later :=
  List.foldl_append

theorem afterAll_cons [Described Obj] (store : Store Obj) (layers : List (Layer Obj))
    (operation : Operation Obj) (rest : List (List (Layer Obj) × Operation Obj)) :
    store.afterAll ((layers, operation) :: rest) =
      ((operation.perform layers).run store).store.afterAll rest := rfl

/-- The run lemma: no operation of a run, at any level, takes anything away. -/
theorem extends_afterAll [Described Obj] (store : Store Obj)
    (operations : List (List (Layer Obj) × Operation Obj)) :
    store.Extends (store.afterAll operations) := by
  induction operations generalizing store with
  | nil => exact .refl store
  | cons first rest ih =>
    obtain ⟨layers, operation⟩ := first
    exact (extends_run (operation.perform layers) store).trans (ih _)

/-! ## Lookups -/

theorem getAll_eq_ok {store : Store Obj} {names : List String} {stages : List (Registration Obj)} :
    store.getAll names = .ok stages ↔ names.map store.get? = stages.map some := by
  induction names generalizing stages with
  | nil => cases stages <;> simp [getAll]
  | cons name rest ih =>
    cases hg : store.get? name with
    | none => cases stages <;> simp [getAll, hg]
    | some registration =>
      rw [getAll, hg]
      cases stages with
      | nil => cases store.getAll rest <;> simp [Except.map]
      | cons stage stages =>
        cases ha : store.getAll rest with
        | ok found =>
          have hf := ih.1 ha
          simp [Except.map, hg, hf, List.map_inj_right]
        | error e =>
          have hn : rest.map store.get? ≠ stages.map some := fun he => by
            rw [ih.2 he] at ha
            cases ha
          simp [Except.map, hn]

/-- The steps of a lookup one after another, each with its own way to find nothing. -/
theorem lookup_eq (store : Store Obj) (kind : Option Kind) (definition : String)
    (outputTypes : List String) :
    store.lookup kind definition outputTypes =
      (store.getAll (Definition.stages definition)).bind fun stages =>
        match Pipeline.misplaced? true stages with
        | some stage => .error (.misplaced stage)
        | none =>
          match Pipeline.ofStages? (Definition.canonical definition) stages outputTypes with
          | none => .error .empty
          | some pipeline =>
            if kind.all (· == pipeline.kind) then .ok pipeline
            else .error (.otherKind pipeline.kind) := by
  unfold lookup
  cases store.getAll (Definition.stages definition) with
  | error => rfl
  | ok stages =>
    simp only [bind, Except.bind]
    cases Pipeline.misplaced? true stages with
    | some stage => rfl
    | none => rfl

theorem lookup_eq_ok {store : Store Obj} {kind : Option Kind} {definition : String}
    {outputTypes : List String} {pipeline : Pipeline Obj} :
    store.lookup kind definition outputTypes = .ok pipeline ↔
      ∃ stages, store.getAll (Definition.stages definition) = .ok stages ∧
        Pipeline.misplaced? true stages = none ∧
        Pipeline.ofStages? (Definition.canonical definition) stages outputTypes = some pipeline ∧
        kind.all (· == pipeline.kind) = true := by
  rw [lookup_eq]
  cases ha : store.getAll (Definition.stages definition) with
  | error => simp [Except.bind]
  | ok stages =>
    simp only [Except.bind, Except.ok.injEq, exists_eq_left']
    cases Pipeline.misplaced? true stages with
    | some stage => simp
    | none =>
      cases Pipeline.ofStages? (Definition.canonical definition) stages outputTypes with
      | none => simp
      | some found =>
        simp only [Option.some.injEq, true_and]
        split
        · next hk =>
          constructor
          · intro h
            cases h
            exact ⟨rfl, hk⟩
          · rintro ⟨rfl, -⟩
            rfl
        · next hk =>
          constructor
          · intro h
            cases h
          · rintro ⟨rfl, h⟩
            exact absurd h hk

namespace Extends

variable {before after : Store Obj}

theorem getAll (extended : before.Extends after) {names : List String}
    {stages : List (Registration Obj)} (h : before.getAll names = .ok stages) :
    after.getAll names = .ok stages := by
  rw [getAll_eq_ok] at h ⊢
  rw [← h]
  apply List.map_congr_left
  intro name hm
  have hs : before.get? name ∈ stages.map some := h ▸ List.mem_map_of_mem hm
  obtain ⟨found, -, hf⟩ := List.mem_map.1 hs
  rw [← hf]
  exact extended.get? hf.symm

/-- What a store can look up, its continuations look up with the same result. -/
theorem lookup (extended : before.Extends after) {kind : Option Kind} {definition : String}
    {outputTypes : List String} {pipeline : Pipeline Obj}
    (h : before.lookup kind definition outputTypes = .ok pipeline) :
    after.lookup kind definition outputTypes = .ok pipeline := by
  obtain ⟨stages, hs, rest⟩ := lookup_eq_ok.1 h
  exact lookup_eq_ok.2 ⟨stages, extended.getAll hs, rest⟩

end Extends

end NamedFunctions.Store
