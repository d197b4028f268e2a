import NamedFunctions.Proofs.Candidates
import NamedFunctions.Proofs.LayeredLookup
import NamedFunctions.Proofs.StoreIndex

/-! # Only missing names are sought

A lookup asks the registry for components under names that the store lacks at that moment, under no
other names and under each at most once: it asks whether there is one of the name, and then fetches
it either by name or by qualifier. So a lookup of names that the store has all along asks nothing. -/
namespace NamedFunctions

open Definition

variable {Obj : Type}

/-! ## What is sought in a run -/

namespace Procedure

variable {α β : Type}

/-- The trace of a run, each note with the store that it was made on. -/
def witnessed : Procedure Obj α → Store Obj → List (Store Obj × Note)
  | done _, _ => []
  | read next, store => (next store).witnessed store
  | register r next, store =>
    match store.register r with
    | .ok store => (next (.ok ())).witnessed store
    | .error e => (next (.error e)).witnessed store
  | note n next, store => (store, n) :: next.witnessed store
  | enter _ _ next, store => (next none).witnessed store
  | leave _ _ _ next, store => next.witnessed store

theorem map_snd_witnessed (p : Procedure Obj α) (store : Store Obj) :
    (p.witnessed store).map Prod.snd = (p.run store).trace := by
  induction p generalizing store with
  | done => rfl
  | read _ ih => exact ih store store
  | register r _ ih =>
    simp only [witnessed, run]
    cases store.register r with
    | ok next => exact ih (.ok ()) next
    | error e => exact ih (.error e) store
  | note n _ ih => exact congrArg (n :: ·) (ih store)
  | enter _ _ _ ih => exact ih none store
  | leave _ _ _ _ ih => exact ih store

theorem witnessed_bind (p : Procedure Obj α) (f : α → Procedure Obj β) (store : Store Obj) :
    (p >>= f).witnessed store =
      p.witnessed store ++ (f (p.run store).value).witnessed (p.run store).store := by
  show (p.bind f).witnessed store = _
  induction p generalizing store with
  | done => rfl
  | read _ ih => exact ih store store
  | register r _ ih =>
    simp only [bind, witnessed, run]
    cases store.register r with
    | ok next => exact ih (.ok ()) next
    | error e => exact ih (.error e) store
  | note n _ ih => exact congrArg ((store, n) :: ·) (ih store)
  | enter _ _ _ ih => exact ih none store
  | leave _ _ _ _ ih => exact ih store

/-- The queries of a run that seek components, each with the store that it was asked on. -/
def sought (p : Procedure Obj α) (store : Store Obj) : List (Store Obj × Query) :=
  (p.witnessed store).filterMap fun entry => entry.2.seeking?.map (entry.1, ·)

theorem map_snd_sought (p : Procedure Obj α) (store : Store Obj) :
    (p.sought store).map Prod.snd = (p.run store).trace.filterMap Note.seeking? := by
  rw [sought, ← map_snd_witnessed, List.map_filterMap, List.filterMap_map]
  congr 1
  funext entry
  exact (Option.map_map ..).trans (Option.map_id' ..)

theorem sought_bind (p : Procedure Obj α) (f : α → Procedure Obj β) (store : Store Obj) :
    (p >>= f).sought store =
      p.sought store ++ (f (p.run store).value).sought (p.run store).store := by
  rw [sought, witnessed_bind, List.filterMap_append]
  rfl

@[simp] theorem sought_done (a : α) (store : Store Obj) : (done a).sought store = [] := rfl

@[simp] theorem sought_submit (r : Registration Obj) (store : Store Obj) :
    (submit r).sought store = [] := by
  simp only [submit, sought, witnessed]
  cases store.register r <;> rfl

theorem sought_inFlight (depth : Nat) (name : String) (resolve : Procedure Obj Resolution)
    (store : Store Obj) : (inFlight depth name resolve).sought store = resolve.sought store := by
  show (resolve >>= fun outcome => leave depth name outcome (done outcome)).sought store = _
  rw [sought_bind]
  exact List.append_nil _

theorem sought_noteAll (notes : List Note) (p : Procedure Obj α) (store : Store Obj) :
    (noteAll notes p).sought store =
      (notes.filterMap Note.seeking?).map (store, ·) ++ p.sought store := by
  induction notes with
  | nil => rfl
  | cons first rest ih =>
    rw [sought] at ih ⊢
    show List.filterMap _ ((store, first) :: (noteAll rest p).witnessed store) = _
    rw [List.filterMap_cons, ih, List.filterMap_cons]
    cases first.seeking? <;> rfl

end Procedure

namespace Catalog

variable (kind : Option Kind) (definition : String) (outputTypes : List String) (store : Store Obj)

theorem asked_notMem_lookup_base (depth : Nat) (query : Query) :
    Note.asked depth query ∉ ((base.lookup kind definition outputTypes).run store).trace := by
  show Note.asked depth query ∉ ((lookupStored kind definition outputTypes).run store).trace
  rw [lookupStored, Procedure.run_bind, Procedure.run_observe]
  cases store.lookup kind definition outputTypes with
  | ok pipeline => simp
  | error miss => cases miss <;> simp

theorem sought_lookup_base : (base.lookup kind definition outputTypes).sought store = [] := by
  rw [← List.map_eq_nil_iff (f := Prod.snd), Procedure.map_snd_sought, List.filterMap_eq_nil_iff]
  intro note hm
  cases note with
  | reported event => rfl
  | asked depth query =>
    exact (asked_notMem_lookup_base kind definition outputTypes store depth query hm).elim

end Catalog

namespace Layer

variable [Described Obj] (layer : Layer Obj)

/-! ## The names that have their turn -/

theorem sought_discover (name : String) (store : Store Obj) :
    (layer.discover .base name).sought store = (layer.seeks name).map (store, ·) := by
  cases h : layer.candidate? name with
  | none =>
    obtain ⟨notes, hs, he⟩ := layer.discover_of_none name .base h
    rw [he, Procedure.sought_noteAll, hs, Procedure.sought_done, List.append_nil]
  | some found =>
    obtain ⟨registration, source⟩ := found
    obtain ⟨notes, hs, he⟩ := layer.discover_of_some name .base h
    rw [he, Procedure.sought_noteAll, hs, Procedure.sought_bind]
    show _ ++ ((Procedure.submit registration).sought store ++ _) = _
    rw [Procedure.sought_submit, List.nil_append]
    cases ((Catalog.base.register registration).run store).value with
    | ok => exact List.append_nil _
    | error => exact List.append_nil _

theorem sought_resolve (name : String) (store : Store Obj) :
    (layer.resolve .base name).sought store =
      if store.contains name then [] else (layer.seeks name).map (store, ·) := by
  unfold resolve
  rw [Procedure.sought_inFlight, Procedure.sought_bind]
  show [] ++ Procedure.sought (if store.contains name = true then _ else _) store = _
  rw [List.nil_append]
  split
  · rfl
  · exact layer.sought_discover name store

/-- The queries for names that have their turn, each name on a store. -/
def seeksAt (turns : List (Store Obj × String)) : List (Store Obj × Query) :=
  turns.flatMap fun turn => (layer.seeks turn.2).map (turn.1, ·)

/-- Names have their turns in order, and each only while the store lacks it. -/
theorem sought_resolveMissing (known : NameSet) (wanted : List String) (store : Store Obj) :
    ∃ turns : List (Store Obj × String), (turns.map Prod.snd).Sublist wanted ∧
      (∀ turn ∈ turns, turn.1.contains turn.2 = false) ∧
      (layer.resolveMissing .base known wanted).sought store = layer.seeksAt turns := by
  induction wanted generalizing store with
  | nil => exact ⟨[], List.Sublist.refl _, by simp, rfl⟩
  | cons name rest ih =>
    rw [resolveMissing_cons]
    split
    · obtain ⟨turns, hsub, hmissing, hsought⟩ := ih store
      refine ⟨turns, hsub.cons name, hmissing, ?_⟩
      rw [Procedure.sought_noteAll, hsought]
      rfl
    · rw [Procedure.sought_bind, sought_resolve]
      obtain ⟨turns, hsub, hmissing, hsought⟩ := ih ((layer.resolve .base name).run store).store
      rw [hsought]
      split
      · exact ⟨turns, hsub.cons name, hmissing, List.nil_append _⟩
      · next hc =>
        exact ⟨(store, name) :: turns, hsub.cons_cons name,
          List.forall_mem_cons.2 ⟨by simpa using hc, hmissing⟩, rfl⟩

variable (kind : Option Kind) (definition : Option String) (outputTypes : List String)
  (store : Store Obj)

theorem sought_lookup :
    ∃ turns : List (Store Obj × String),
      (turns.map Prod.snd).Sublist (names (layer.effective definition)) ∧
        (∀ turn ∈ turns, turn.1.contains turn.2 = false) ∧
        (layer.lookup .base kind definition outputTypes).sought store = layer.seeksAt turns := by
  rw [lookup]
  generalize layer.effective definition = raw
  by_cases hn : names raw = []
  · rw [if_pos hn]
    exact ⟨[], List.nil_sublist _, by simp, rfl⟩
  · rw [if_neg hn, Procedure.sought_bind, Catalog.sought_lookup_base, List.nil_append,
      (Catalog.run_lookup_base ..).2]
    cases ((Catalog.base.lookup kind (canonical raw) outputTypes).run store).value with
    | some found => exact ⟨[], List.nil_sublist _, by simp, rfl⟩
    | none =>
      obtain ⟨turns, hsub, hmissing, hsought⟩ :=
        layer.sought_resolveMissing (store.names none) (names raw) store
      have hnames : (Catalog.base.names none).run store = ⟨store.names none, store, []⟩ := rfl
      refine ⟨turns, hsub, hmissing, ?_⟩
      simp only [Procedure.sought_bind, Catalog.sought_lookup_base, List.append_nil, hnames, hsought]
      rfl

/-! ## Names that the store has -/

theorem run_resolveMissing_of_known {below : Catalog Obj} {known : NameSet} {wanted : List String}
    (h : ∀ name ∈ wanted, known.contains name = true) (store : Store Obj) :
    (layer.resolveMissing below known wanted).run store =
      ⟨(), store, wanted.map fun name => .reported (.alreadyPresent name)⟩ := by
  induction wanted with
  | nil => rfl
  | cons name rest ih =>
    obtain ⟨hname, hrest⟩ := List.forall_mem_cons.1 h
    rw [resolveMissing_cons, if_pos hname, Procedure.run_noteAll, ih hrest]
    rfl

theorem run_lookup_of_contained
    (h : ∀ name ∈ stages (layer.effective definition), store.contains name = true) :
    ((layer.lookup .base kind definition outputTypes).run store).store = store ∧
      ∀ depth query, Note.asked depth query ∉
        ((layer.lookup .base kind definition outputTypes).run store).trace := by
  by_cases hn : names (layer.effective definition) = []
  · rw [lookup, if_pos hn]
    exact ⟨rfl, by simp⟩
  · have hknown : ∀ name ∈ names (layer.effective definition),
        (store.names none).contains name = true := by
      intro name hm
      rw [Store.contains_names_none]
      exact h name (mem_names.1 hm)
    cases hl : store.lookup kind (layer.effective definition) outputTypes with
    | ok found => simp [layer.run_lookup_of_ok hl]
    | error miss =>
      rw [layer.run_lookup_of_error hl hn, layer.run_resolveMissing_of_known hknown]
      simp [Catalog.asked_notMem_lookup_base]

/-! ## Access to the registry -/

/-- A lookup seeks components for distinct names of its definition, in the order in which they
first occur, each once and only while the store lacks it. When the store has all the names,
nothing is asked and the answer is the store's own. -/
theorem lookup_seeks_missing (layer : Layer Obj) (kind : Option Kind) (definition : Option String)
    (outputTypes : List String) (store : Store Obj) :
    let procedure := layer.lookup .base kind definition outputTypes
    let wanted := layer.effective definition
    (∃ turns : List (Store Obj × String),
        (turns.map Prod.snd).Nodup ∧ (turns.map Prod.snd).Sublist (names wanted) ∧
        (∀ turn ∈ turns, turn.1.contains turn.2 = false) ∧
        procedure.sought store = layer.seeksAt turns ∧
        (procedure.run store).trace.filterMap Note.seeking? =
          turns.flatMap fun turn => layer.seeks turn.2) ∧
      ((∀ name ∈ stages wanted, store.contains name = true) →
        (procedure.run store).value =
            ((Catalog.base.lookup kind wanted outputTypes).run store).value ∧
          (procedure.run store).store = store ∧
          ∀ depth query, Note.asked depth query ∉ (procedure.run store).trace) := by
  intro procedure wanted
  constructor
  · obtain ⟨turns, hsub, hmissing, hsought⟩ :=
      layer.sought_lookup kind definition outputTypes store
    refine ⟨turns, (nodup_names _).sublist hsub, hsub, hmissing, hsought, ?_⟩
    rw [← Procedure.map_snd_sought, hsought, seeksAt, List.map_flatMap]
    simp [Function.comp_def]
  · intro h
    obtain ⟨hstore, hasked⟩ := layer.run_lookup_of_contained kind definition outputTypes store h
    have hvalue := layer.answers_lookup Catalog.faithful_base kind definition outputTypes store
    rw [Outcome.Answers, hstore] at hvalue
    exact ⟨hvalue.trans (Catalog.run_lookup_base ..).1.symm, hstore, hasked⟩

/-- The component under the first name brings the second along, which therefore never has a turn,
although the registry has a component for it as well. A lookup of the two, of a kind that they are
not of, then finds nothing and still asks nothing. -/
theorem lookup_seeks_missing_alias :
    let upper : Target Scripted.Object := .object (.function 0 ⟨.transform, "Upper", .upper, none, {}⟩)
    let both : Registration Scripted.Object := { primary := "a", aliases := ["b"], target := upper }
    let layer : Layer Scripted.Object :=
      ⟨(Declarations.ofList [.component "a" (.registration both), .component "b" (.bare upper)]).registry,
        {}⟩
    let first := (layer.lookup .base none (some "a | b | a") []).run .empty
    let again := (layer.lookup .base (some .producer) (some "b, a") []).run first.store
    first.trace.filterMap Note.seeking? = [.contains "a", .fetch "a"] ∧
      (∀ name ∈ stages (layer.effective (some "b, a")), first.store.contains name = true) ∧
      again.value = none ∧ again.store = first.store ∧
      ∀ depth query, Note.asked depth query ∉ again.trace := by
  intro upper both layer first again
  have hpresent : ∀ name ∈ stages (layer.effective (some "b, a")), first.store.contains name = true := by
    decide
  obtain ⟨-, hstore, hasked⟩ :=
    (layer.lookup_seeks_missing (some .producer) (some "b, a") [] first.store).2 hpresent
  have hfirst : first.trace.filterMap Note.seeking? = [.contains "a", .fetch "a"] := by decide
  have hagain : again.value = none := Option.isNone_iff_eq_none.1 (by decide)
  exact ⟨hfirst, hpresent, hagain, hstore, hasked⟩

end Layer

end NamedFunctions
