import NamedFunctions.Proofs.Candidates
import NamedFunctions.Proofs.LayeredLookup
import NamedFunctions.Proofs.StoreIndex

/-! # Settled names

A lookup does for every name of its definition all that can ever be done for it, and leaves the name
settled: the store has it, or the registry offers nothing for it, or what the registry offers is
refused. A refusal lasts, since it is for a name that is blank or taken and the store only grows. A
component that is registered under other names than the one it was sought by is found again by every
lookup, but its own names are taken from the first time on. So a further lookup of settled names
changes nothing. -/
namespace NamedFunctions

open Definition

variable {Obj : Type}

/-! ## Refusals -/

namespace Store

/-- Some name of the registration is blank or taken. -/
def Refuses (store : Store Obj) (registration : Registration Obj) : Prop :=
  ∃ name ∈ registration.names, Text.isBlankText name = true ∨ store.contains name = true

theorem offer_of_refuses {store : Store Obj} {registration : Registration Obj}
    (h : store.Refuses registration) : store.offer registration = store := by
  unfold offer
  split
  · next hr =>
    obtain ⟨name, hm, hname⟩ := h
    obtain ⟨hblank, htaken⟩ := (register_eq_ok.1 hr).1 name hm
    simp [hblank, htaken] at hname
  · rfl

/-- A refusal lasts, however the store grows. -/
theorem Refuses.extends {before after : Store Obj} {registration : Registration Obj}
    (h : before.Refuses registration) (extended : before.Extends after) :
    after.Refuses registration := by
  obtain ⟨name, hm, hname⟩ := h
  exact ⟨name, hm, hname.imp id extended.contains⟩

/-- What has been offered once is refused from then on. -/
theorem refuses_offer (store : Store Obj) (registration : Registration Obj) :
    (store.offer registration).Refuses registration := by
  by_cases h : store.Refuses registration
  · rwa [offer_of_refuses h]
  · have hfree : ∀ name ∈ registration.names,
        Text.isBlankText name = false ∧ store.contains name = false := by
      intro name hm
      exact ⟨Bool.eq_false_iff.2 fun hb => h ⟨name, hm, .inl hb⟩,
        Bool.eq_false_iff.2 fun hc => h ⟨name, hm, .inr hc⟩⟩
    have hm : registration.primary ∈ registration.names := List.mem_cons_self ..
    rw [offer, register_eq_ok.2 ⟨hfree, rfl⟩]
    exact ⟨registration.primary, hm, .inr (by simp [hm])⟩

end Store

theorem Procedure.store_run_bind {α β : Type} (p : Procedure Obj α) (f : α → Procedure Obj β)
    (store : Store Obj) :
    ((p >>= f).run store).store = ((f (p.run store).value).run (p.run store).store).store := by
  rw [run_bind]

theorem Procedure.store_run_noteAll {α : Type} (notes : List Note) (p : Procedure Obj α)
    (store : Store Obj) : ((noteAll notes p).run store).store = (p.run store).store := by
  rw [run_noteAll]

theorem Procedure.store_run_submit (registration : Registration Obj) (store : Store Obj) :
    ((submit registration).run store).store = store.offer registration := by
  rw [run_submit, Store.offer]
  cases store.register registration <;> rfl

namespace Layer

variable [Described Obj] (layer : Layer Obj)

/-! ## Resolving a settled name -/

/-- Resolving the name can change nothing. -/
def Settled (store : Store Obj) (name : String) : Prop :=
  store.contains name = true ∨
    ∀ registration source, layer.candidate? name = some (registration, source) →
      store.Refuses registration

variable {layer}

theorem Settled.extends {before after : Store Obj} {name : String}
    (h : layer.Settled before name) (extended : before.Extends after) : layer.Settled after name := by
  rcases h with h | h
  · exact .inl (extended.contains h)
  · exact .inr fun registration source hc => (h registration source hc).extends extended

variable (layer)

theorem store_run_discover (name : String) (store : Store Obj) :
    ((layer.discover .base name).run store).store =
      (layer.candidate? name).elim store fun found => store.offer found.1 := by
  cases h : layer.candidate? name with
  | none =>
    obtain ⟨notes, -, he⟩ := layer.discover_of_none name .base h
    rw [he, Procedure.store_run_noteAll]
    rfl
  | some found =>
    obtain ⟨registration, source⟩ := found
    obtain ⟨notes, -, he⟩ := layer.discover_of_some name .base h
    have hsubmit : ((Catalog.base.register registration).run store).store =
        store.offer registration := Procedure.store_run_submit registration store
    rw [he, Procedure.store_run_noteAll, Procedure.store_run_bind, hsubmit]
    cases ((Catalog.base.register registration).run store).value <;> rfl

theorem store_run_resolve (name : String) (store : Store Obj) :
    ((layer.resolve .base name).run store).store =
      if store.contains name then store else ((layer.discover .base name).run store).store := by
  unfold resolve
  have hcontains : (Catalog.base.contains name).run store = ⟨store.contains name, store, []⟩ := rfl
  rw [Procedure.run_inFlight, Procedure.store_run_bind, hcontains]
  dsimp only
  split <;> rfl

theorem settled_resolve (name : String) (store : Store Obj) :
    layer.Settled ((layer.resolve .base name).run store).store name := by
  rw [store_run_resolve]
  split
  · next hc => exact .inl hc
  · rw [store_run_discover]
    refine .inr fun registration source hc => ?_
    rw [hc]
    exact store.refuses_offer registration

theorem store_run_resolve_of_settled {name : String} {store : Store Obj}
    (h : layer.Settled store name) : ((layer.resolve .base name).run store).store = store := by
  rw [store_run_resolve, store_run_discover]
  split
  · rfl
  · next hc =>
    cases hf : layer.candidate? name with
    | none => rfl
    | some found => exact Store.offer_of_refuses ((h.resolve_left hc) _ _ hf)

theorem settled_resolveMissing {known : NameSet} {wanted : List String} {store : Store Obj}
    (hknown : ∀ name, known.contains name = true → store.contains name = true) :
    ∀ name ∈ wanted,
      layer.Settled ((layer.resolveMissing .base known wanted).run store).store name := by
  induction wanted generalizing store with
  | nil => simp
  | cons first rest ih =>
    rw [resolveMissing_cons]
    split
    · next hf =>
      rw [Procedure.store_run_noteAll]
      refine List.forall_mem_cons.2 ⟨.inl ?_, ih hknown⟩
      exact (Store.extends_run _ store).contains (hknown first hf)
    · rw [Procedure.store_run_bind]
      have hgrown := Store.extends_run (layer.resolve .base first) store
      refine List.forall_mem_cons.2 ⟨?_, ih fun name hn => hgrown.contains (hknown name hn)⟩
      exact (layer.settled_resolve first store).extends (Store.extends_run _ _)

theorem store_run_resolveMissing_of_settled {known : NameSet} {wanted : List String}
    {store : Store Obj} (h : ∀ name ∈ wanted, layer.Settled store name) :
    ((layer.resolveMissing .base known wanted).run store).store = store := by
  induction wanted with
  | nil => rfl
  | cons first rest ih =>
    obtain ⟨hfirst, hrest⟩ := List.forall_mem_cons.1 h
    rw [resolveMissing_cons]
    split
    · rw [Procedure.store_run_noteAll]
      exact ih hrest
    · rw [Procedure.store_run_bind, layer.store_run_resolve_of_settled hfirst]
      exact ih hrest

/-! ## Lookups of settled names -/

variable (kind : Option Kind) (definition : Option String) (outputTypes : List String)
  (store : Store Obj)

/-- After a lookup every name of its definition is settled, whether it was found at once or not. -/
theorem settled_lookup : ∀ name ∈ names (layer.effective definition),
    layer.Settled ((layer.lookup .base kind definition outputTypes).run store).store name := by
  by_cases hn : names (layer.effective definition) = []
  · simp [hn]
  · cases hl : store.lookup kind (layer.effective definition) outputTypes with
    | ok found =>
      rw [layer.run_lookup_of_ok hl]
      exact fun name hm => .inl (Store.contains_of_lookup hl (mem_names.1 hm))
    | error miss =>
      rw [layer.run_lookup_of_error hl hn]
      dsimp only
      exact layer.settled_resolveMissing fun name hc => by rwa [Store.contains_names_none] at hc

variable {store}

theorem store_run_lookup_of_settled
    (h : ∀ name ∈ names (layer.effective definition), layer.Settled store name) :
    ((layer.lookup .base kind definition outputTypes).run store).store = store := by
  by_cases hn : names (layer.effective definition) = []
  · rw [lookup, if_pos hn]
    rfl
  · cases hl : store.lookup kind (layer.effective definition) outputTypes with
    | ok found => rw [layer.run_lookup_of_ok hl]
    | error miss =>
      rw [layer.run_lookup_of_error hl hn]
      dsimp only
      exact layer.store_run_resolveMissing_of_settled h

variable (store)

/-- After a lookup and any further operations, a lookup of the same names, or of some of them,
leaves the store as it is. The very same lookup, repeated at once, also gives the same answer. -/
theorem lookup_closes (layer : Layer Obj) (kind kindThen : Option Kind)
    (definition definitionThen : Option String) (outputTypes outputTypesThen : List String)
    (store : Store Obj) (later : List (List (Layer Obj) × Operation Obj))
    (h : ∀ name ∈ names (layer.effective definitionThen), name ∈ names (layer.effective definition)) :
    let first := (layer.lookup .base kind definition outputTypes).run store
    let reached := first.store.afterAll later
    let again := (layer.lookup .base kind definition outputTypes).run first.store
    ((layer.lookup .base kindThen definitionThen outputTypesThen).run reached).store = reached ∧
      again.store = first.store ∧ again.value = first.value := by
  intro first reached again
  have hsettled := layer.settled_lookup kind definition outputTypes store
  have hagain : again.store = first.store :=
    layer.store_run_lookup_of_settled kind definition outputTypes hsettled
  refine ⟨?_, hagain, ?_⟩
  · apply layer.store_run_lookup_of_settled
    intro name hm
    exact (hsettled name (h name hm)).extends (first.store.extends_afterAll later)
  · -- both answers are what the store finds in the one state that both calls leave
    have hfirst : first.Answers kind (layer.effective definition) outputTypes :=
      layer.answers_lookup Catalog.faithful_base kind definition outputTypes store
    have hlast : again.Answers kind (layer.effective definition) outputTypes :=
      layer.answers_lookup Catalog.faithful_base kind definition outputTypes first.store
    rw [Outcome.Answers] at hfirst hlast
    rw [hlast, hagain, hfirst]

/-- The component under `x` is registered as `a`, so that `x` itself is never known and is discovered
by both lookups. The second time `a` is taken. -/
theorem lookup_closes_elsewhere :
    let upper : Target Scripted.Object := .object (.function 0 ⟨.transform, "Upper", .upper, none, {}⟩)
    let registry :=
      (Declarations.ofList [.component "x" (.registration { primary := "a", target := upper })]).registry
    let layer : Layer Scripted.Object := ⟨registry, {}⟩
    let first := (layer.lookup .base none (some "x | y") []).run .empty
    let later : List (List (Layer Scripted.Object) × Operation Scripted.Object) :=
      [([], .register { primary := "y", target := upper })]
    let reached := first.store.afterAll later
    let again := (layer.lookup .base none (some "x | y") []).run first.store
    (∀ name ∈ names (layer.effective (some "y, x")), name ∈ names (layer.effective (some "x | y"))) ∧
      first.store.contains "a" = true ∧ first.store.contains "x" = false ∧ reached.size = 2 ∧
      ((layer.lookup .base (some .producer) (some "y, x") ["text"]).run reached).store = reached ∧
      again.value = first.value := by
  intro upper registry layer first later reached again
  have hnames : ∀ name ∈ names (layer.effective (some "y, x")),
      name ∈ names (layer.effective (some "x | y")) := by decide
  obtain ⟨hreached, -, hagain⟩ := layer.lookup_closes none (some .producer) (some "x | y")
    (some "y, x") [] ["text"] .empty later hnames
  exact ⟨hnames, by decide, by decide, by decide, hreached, hagain⟩

end Layer

end NamedFunctions
