import NamedFunctions.Proofs.RegisteredNames

/-! # The order of discovery

Lookups discover names in the order in which they come to be mentioned, skip what is known by then,
and may end early. None of this shows in the end as long as the registry hands out bare components
only: each is registered under the one name that it was sought by, so no discovery gets in the way of
another. What a name leads to after any lookups is therefore a function of the store before, of the
registry, and of whether the name was mentioned. -/
namespace NamedFunctions

open Definition

variable {Obj : Type}

/-- What a lookup is asked for. -/
structure Request where
  kind : Option Kind := none
  definition : Option String := none
  outputTypes : List String := []

/-! ## Names and what they lead to -/

namespace Store.WellFormed

variable {store : Store Obj}

theorem contains_eq_isSome_get? (h : store.WellFormed) (name : String) :
    store.contains name = (store.get? name).isSome := by
  cases hg : store.get? name with
  | some registration => exact contains_of_get? hg
  | none =>
    rw [Option.isSome_none, ← Bool.not_eq_true]
    intro hc
    rw [contains_eq_isSome, Option.isSome_iff_exists] at hc
    obtain ⟨slot, hs⟩ := hc
    obtain ⟨registration, hr, -⟩ := h.slot_lists name slot hs
    rw [Store.get?, hs, Option.bind_some, hr] at hg
    cases hg

theorem get?_append (h : store.WellFormed) (registration : Registration Obj) (name : String) :
    (store.append registration).get? name =
      if name ∈ registration.names then some registration else store.get? name := by
  split
  · next hm => exact store.get?_append_of_mem hm
  · next hm =>
    cases hg : store.get? name with
    | some found => exact get?_append_of_eq_some hm hg
    | none =>
      have hc := h.contains_eq_isSome_get? name
      rw [hg, contains_eq_isSome, Option.isSome_none, Option.isSome_eq_false_iff,
        Option.isNone_iff_eq_none] at hc
      rw [Store.get?, getElem?_slots_append, if_neg hm, hc, Option.bind_none]

end Store.WellFormed

/-- The component that is declared, if the declaration is of one. -/
def Declaration.component? : Declaration Obj → Option (Component Obj)
  | .component _ declared | .defined _ declared _ | .factory _ declared _ => some declared
  | .definition .. | .aliased .. | .qualifier .. => none

namespace Declarations

theorem getElem?_components_add {declarations : Declarations Obj} {declaration : Declaration Obj}
    {name : String} {component : Component Obj}
    (h : (declarations.add declaration).components[name]? = some component) :
    declaration.component? = some component ∨ declarations.components[name]? = some component := by
  have hinsert {key : String} {declared : Component Obj}
      (hi : (declarations.components.insert key declared)[name]? = some component) :
      some declared = some component ∨ declarations.components[name]? = some component := by
    rw [Std.TreeMap.getElem?_insert] at hi
    split at hi
    · exact .inl hi
    · exact .inr hi
  cases declaration with
  | component => exact hinsert h
  | defined => exact hinsert h
  | factory => exact hinsert h
  | definition => exact .inr h
  | aliased => exact .inr h
  | qualifier => exact .inr h

theorem exists_of_getElem?_components {list : List (Declaration Obj)} {name : String}
    {component : Component Obj} (h : (ofList list).components[name]? = some component) :
    ∃ declaration ∈ list, declaration.component? = some component := by
  induction list using List.reverseRecOn with
  | nil => simp at h
  | append_singleton earlier last ih =>
    rw [ofList_concat] at h
    rcases getElem?_components_add h with hlast | hearlier
    · exact ⟨last, by simp, hlast⟩
    · obtain ⟨declaration, hm, hd⟩ := ih hearlier
      exact ⟨declaration, List.mem_append_left _ hm, hd⟩

end Declarations

namespace Layer

variable [Described Obj] (layer : Layer Obj)

/-- The registry hands out no component that is a registration already. -/
def OffersBare : Prop :=
  ∀ name component, layer.component? name = some component → ∃ target, component = .bare target

/-- What is registered for a name when it is discovered. -/
def offered? (name : String) : Option (Registration Obj) :=
  (layer.candidate? name).map Prod.fst

variable {layer}

theorem OffersBare.names_offered (h : layer.OffersBare) {name : String}
    {registration : Registration Obj} (ho : layer.offered? name = some registration) :
    registration.names = [name] := by
  obtain ⟨⟨found, source⟩, hc, rfl⟩ := Option.map_eq_some_iff.1 ho
  rcases layer.names_of_candidate? hc with hnames | hready
  · exact hnames
  · obtain ⟨target, ht⟩ := h name _ hready
    cases ht

/-- A registry in which bare components are declared hands out nothing else, neither by name or alias
nor by qualifier. -/
theorem offersBare_of_declarations {list : List (Declaration Obj)} (settings : Settings)
    (h : ∀ declaration ∈ list, ∀ component, declaration.component? = some component →
      ∃ target, component = .bare target) :
    (⟨(Declarations.ofList list).registry, settings⟩ : Layer Obj).OffersBare := by
  have hfetch : ∀ name component, (Declarations.ofList list).fetch name = some component →
      ∃ target, component = .bare target := by
    intro name component hf
    obtain ⟨declaration, hm, hd⟩ := Declarations.exists_of_getElem?_components hf
    exact h declaration hm component hd
  intro name component hc
  unfold component? at hc
  split at hc
  · exact hfetch name component hc
  · have hq : ((Declarations.ofList list).qualified name).toOption.join = some component := hc
    unfold Declarations.qualified at hq
    split at hq
    · cases hq
    · next single _ => exact hfetch single component hq
    · cases hq

/-! ## A store in which names were discovered -/

variable (layer)

/-- The store has what the base store had, and what is offered for the names that were wanted. -/
structure Discovered (base : Store Obj) (wanted : List String) (store : Store Obj) : Prop where
  wellFormed : store.WellFormed
  get?_eq : ∀ name, store.get? name =
    (base.get? name).or (if name ∈ wanted then layer.offered? name else none)

namespace Discovered

variable {layer} {base store : Store Obj} {wanted : List String}

theorem start (h : base.WellFormed) : layer.Discovered base [] base where
  wellFormed := h
  get?_eq name := by simp

theorem want (h : layer.Discovered base wanted store) {name : String}
    (hn : store.contains name = true ∨ layer.offered? name = none) :
    layer.Discovered base (wanted ++ [name]) store where
  wellFormed := h.wellFormed
  get?_eq other := by
    rw [h.get?_eq other]
    by_cases hw : other ∈ wanted
    · simp [hw]
    · by_cases he : other = name
      · subst he
        rcases hn with hc | ho
        · -- the name is not wanted before, so the base store knows it
          rw [h.wellFormed.contains_eq_isSome_get?, h.get?_eq, if_neg hw, Option.or_none,
            Option.isSome_iff_exists] at hc
          obtain ⟨registration, hr⟩ := hc
          simp [hr]
        · simp [ho]
      · simp [hw, he]

theorem append (h : layer.Discovered base wanted store) {name : String}
    {registration : Registration Obj} (hb : Text.isBlankText name = false)
    (hc : store.contains name = false) (ho : layer.offered? name = some registration)
    (hnames : registration.names = [name]) :
    layer.Discovered base (wanted ++ [name]) (store.append registration) where
  wellFormed := h.wellFormed.append fun own hown => by
    rw [hnames, List.mem_singleton] at hown
    subst hown
    exact ⟨hb, hc⟩
  get?_eq other := by
    rw [h.wellFormed.get?_append, hnames]
    by_cases he : other = name
    · subst he
      have hbase : base.get? other = none := by
        rw [h.wellFormed.contains_eq_isSome_get?, h.get?_eq] at hc
        cases hg : base.get? other with
        | none => rfl
        | some found =>
          rw [hg] at hc
          cases hc
      simp [hbase, ho]
    · rw [h.get?_eq other]
      simp [he]

/-- What becomes of the names is settled by the store before and the names wanted. -/
theorem get?_unique (h : layer.Discovered base wanted store) {wanted' : List String}
    {store' : Store Obj} (h' : layer.Discovered base wanted' store')
    (same : ∀ name, name ∈ wanted ↔ name ∈ wanted') (name : String) :
    store.get? name = store'.get? name := by
  rw [h.get?_eq, h'.get?_eq]
  simp only [same]

theorem resolve (h : layer.Discovered base wanted store) (bare : layer.OffersBare) {name : String}
    (hb : Text.isBlankText name = false) :
    layer.Discovered base (wanted ++ [name]) ((layer.resolve .base name).run store).store := by
  rw [store_run_resolve]
  split
  · next hc => exact h.want (.inl hc)
  · next hc =>
    rw [store_run_discover]
    cases hf : layer.candidate? name with
    | none => exact h.want (.inr (by rw [offered?, hf, Option.map_none]))
    | some found =>
      have ho : layer.offered? name = some found.1 := by rw [offered?, hf, Option.map_some]
      have hnames := bare.names_offered ho
      have hc' : store.contains name = false := Bool.eq_false_iff.2 hc
      have hr : store.register found.1 = .ok (store.append found.1) := by
        refine Store.register_eq_ok.2 ⟨?_, rfl⟩
        intro own hown
        rw [hnames, List.mem_singleton] at hown
        subst hown
        exact ⟨hb, hc'⟩
      rw [Option.elim_some, Store.offer, hr]
      exact h.append hb hc' ho hnames

theorem wantAll (h : layer.Discovered base wanted store) {more : List String}
    (hc : ∀ name ∈ more, store.contains name = true) :
    layer.Discovered base (wanted ++ more) store := by
  induction more generalizing wanted with
  | nil => rwa [List.append_nil]
  | cons name rest ih =>
    obtain ⟨hname, hrest⟩ := List.forall_mem_cons.1 hc
    rw [List.append_cons]
    exact ih (h.want (.inl hname)) hrest

theorem resolveMissing (h : layer.Discovered base wanted store) (bare : layer.OffersBare)
    {known : NameSet} {more : List String}
    (hknown : ∀ name, known.contains name = true → store.contains name = true)
    (hb : ∀ name ∈ more, Text.isBlankText name = false) :
    layer.Discovered base (wanted ++ more)
      ((layer.resolveMissing .base known more).run store).store := by
  -- by induction on the names that are gone through: one known from the start is known still
  induction more generalizing wanted store with
  | nil => rwa [List.append_nil]
  | cons name rest ih =>
    obtain ⟨hname, hrest⟩ := List.forall_mem_cons.1 hb
    rw [resolveMissing_cons, List.append_cons]
    split
    · next hk =>
      rw [Procedure.store_run_noteAll]
      exact ih (h.want (.inl (hknown name hk))) hknown hrest
    · rw [Procedure.store_run_bind]
      have hgrown := Store.extends_run (layer.resolve .base name) store
      exact ih (h.resolve bare hname) (fun n hn => hgrown.contains (hknown n hn)) hrest

/-- The step: a lookup wants the names of its definition, whether it is served at once, ends with an
empty definition or goes through the names. -/
theorem lookup (h : layer.Discovered base wanted store) (bare : layer.OffersBare)
    (request : Request) :
    layer.Discovered base (wanted ++ names (layer.effective request.definition))
      ((layer.lookup .base request.kind request.definition request.outputTypes).run store).store := by
  by_cases hn : names (layer.effective request.definition) = []
  · rw [hn, List.append_nil, Layer.lookup, if_pos hn]
    exact h
  · cases hl : store.lookup request.kind (layer.effective request.definition) request.outputTypes with
    | ok found =>
      rw [layer.run_lookup_of_ok hl]
      exact h.wantAll fun name hm => Store.contains_of_lookup hl (mem_names.1 hm)
    | error miss =>
      rw [layer.run_lookup_of_error hl hn]
      refine h.resolveMissing bare ?_ fun name hm => isBlankText_of_mem_names hm
      intro name hc
      rwa [Store.contains_names_none] at hc

end Discovered

/-! ## Runs of lookups -/

/-- The store after some lookups, one after another. -/
def afterLookups (store : Store Obj) (requests : List Request) : Store Obj :=
  requests.foldl (fun store request =>
    ((layer.lookup .base request.kind request.definition request.outputTypes).run store).store) store

omit [Described Obj] in
/-- The names that the definitions of some lookups mention. -/
def mentioned (requests : List Request) : List String :=
  requests.flatMap fun request => names (layer.effective request.definition)

variable {layer}

/-- The run: after any lookups the mentioned names are discovered, and no others. -/
theorem Discovered.afterLookups {base store : Store Obj} {wanted : List String}
    (h : layer.Discovered base wanted store) (bare : layer.OffersBare) (requests : List Request) :
    layer.Discovered base (wanted ++ layer.mentioned requests)
      (layer.afterLookups store requests) := by
  induction requests generalizing wanted store with
  | nil => rwa [mentioned, List.flatMap_nil, List.append_nil]
  | cons request rest ih =>
    rw [mentioned, List.flatMap_cons, ← List.append_assoc]
    exact ih (h.lookup bare request)

/-- Two runs of lookups that mention the same names leave the same names in the store, with the
same targets under the same signatures. Kinds, output types, order and repetitions do not matter.
-/
theorem lookups_commute (layer : Layer Obj) (bare : layer.OffersBare)
    (earlier : List (Registration Obj)) (first second : List Request)
    (same : ∀ name, name ∈ layer.mentioned first ↔ name ∈ layer.mentioned second) :
    let base := (Store.empty : Store Obj).offerAll earlier
    let one := layer.afterLookups base first
    let other := layer.afterLookups base second
    (∀ (kind : Option Kind) (name : String), name ∈ one.names kind ↔ name ∈ other.names kind) ∧
      ∀ name, one.get? name = other.get? name := by
  intro base one other
  have hstart : layer.Discovered base [] base := .start (Store.WellFormed.empty.offerAll earlier)
  have hone : layer.Discovered base (layer.mentioned first) one := hstart.afterLookups bare first
  have hother : layer.Discovered base (layer.mentioned second) other :=
    hstart.afterLookups bare second
  have hget := hone.get?_unique hother same
  refine ⟨?_, hget⟩
  intro kind name
  rw [hone.wellFormed.mem_names, hother.wellFormed.mem_names, hget]

/-- A name under which there is nothing, an object with one method, and a function that is registered
once under its name and once under its alias, which is the default definition. -/
theorem lookups_commute_shout :
    let upper : Target Scripted.Object :=
      .object (.function 0 ⟨.transform, "Upper", .upper, none, {}⟩)
    let shouter : Target Scripted.Object :=
      .object (.custom 1
        { name := "Shouter", methods := [⟨"shout", ⟨.any, .any⟩, { isPublic := true }⟩] }
        none [("shout", .upper)])
    let list : List (Declaration Scripted.Object) :=
      [.component "upper" (.bare upper), .aliased "upper" "louder",
        .component "shout" (.bare shouter)]
    let layer : Layer Scripted.Object := ⟨(Declarations.ofList list).registry, ⟨some "louder"⟩⟩
    let first : List Request :=
      [⟨some .producer, some "shout | nowhere, upper", []⟩, ⟨none, none, ["text"]⟩]
    let second : List Request :=
      [⟨none, some "louder,upper|louder", []⟩, ⟨none, some "nowhere", []⟩,
        ⟨some .transform, some "shout|shout", []⟩]
    let one := layer.afterLookups .empty first
    let other := layer.afterLookups .empty second
    layer.OffersBare ∧
      (∀ name, name ∈ layer.mentioned first ↔ name ∈ layer.mentioned second) ∧
      one.registrations.map Registration.primary = ["shout", "upper", "louder"] ∧
      other.registrations.map Registration.primary = ["louder", "upper", "shout"] ∧
      ∀ name, one.get? name = other.get? name := by
  intro upper shouter list layer first second one other
  have bare : layer.OffersBare := by
    apply offersBare_of_declarations
    intro declaration hm component hd
    simp only [list, List.mem_cons, List.not_mem_nil, or_false] at hm
    rcases hm with rfl | rfl | rfl
    · exact ⟨upper, (Option.some.inj hd).symm⟩
    · cases hd
    · exact ⟨shouter, (Option.some.inj hd).symm⟩
  have hfirst : layer.mentioned first = ["shout", "nowhere", "upper", "louder"] := by decide
  have hsecond : layer.mentioned second = ["louder", "upper", "nowhere", "shout"] := by decide
  have hperm : List.Perm ["shout", "nowhere", "upper", "louder"]
    ["louder", "upper", "nowhere", "shout"] := by decide
  have same : ∀ name, name ∈ layer.mentioned first ↔ name ∈ layer.mentioned second := by
    intro name
    rw [hfirst, hsecond, hperm.mem_iff]
  exact ⟨bare, same, by decide, by decide, (layer.lookups_commute bare [] first second same).2⟩

end Layer

end NamedFunctions
