import NamedFunctions.Proofs.ResolutionOutcomes
import NamedFunctions.Proofs.TransparentLayer
import NamedFunctions.Proofs.WholeRegistrations

/-! # Names that are known below

A layer resolves a name only if the catalog below does not contain it. The store contains what is
registered, but a layer contains whatever its registry has a component for, whether or not anything
can be made of that component. So of all layers in a stack the lowest one that knows a name decides:
if it cannot register the name, no layer above it tries, and each of them takes the name for
present. -/
namespace NamedFunctions

open Definition

variable {Obj : Type}

/-! ## What a stack knows -/

/-- The registry has a component of the name, or lists the name among those of natively callable
components. Either keeps the layers above from discovering it. -/
def Layer.Knows (layer : Layer Obj) (name : String) : Prop :=
  layer.registry (.contains name) = true ∨ ∃ kind, name ∈ layer.registry (.capable kind)

/-- The store contains the name, or one of the layers above it knows it. -/
def Catalog.KnownIn (layers : List (Layer Obj)) (name : String) (store : Store Obj) : Prop :=
  store.contains name = true ∨ ∃ layer ∈ layers, layer.Knows name

theorem Layer.mem_run_addCapable (layer : Layer Obj) (below : Catalog Obj) (names : NameSet)
    (kinds : List Kind) (name : String) (store : Store Obj) :
    name ∈ ((layer.addCapable below names kinds).run store).value ↔
      name ∈ names ∨ ∃ kind ∈ kinds, name ∈ layer.registry (.capable kind) := by
  induction kinds generalizing names with
  | nil => simp [addCapable]
  | cons kind rest ih =>
    simp only [addCapable, ask, Procedure.run_bind, Procedure.run_consult, Registry.value_ask, ih,
      NameSet.mem_union, List.exists_mem_cons_iff, or_assoc]

theorem Layer.value_run_contains_atop [Described Obj] (layer : Layer Obj) (below : Catalog Obj)
    (name : String) (store : Store Obj) :
    (((layer.atop below).contains name).run store).value =
      (((below.contains name).run store).value || layer.registry (.contains name)) := by
  simp only [atop, Procedure.run_bind]
  cases ((below.contains name).run store).value with
  | true => rfl
  | false => simp [ask]

namespace Catalog

variable [Described Obj] (layers : List (Layer Obj)) (name : String)

theorem inert_contains_ofLayers : ((ofLayers layers).contains name).Inert := by
  induction layers with
  | nil => exact .observe _
  | cons layer layers ih => exact layer.inert_contains_atop ih

theorem inert_names_ofLayers : ((ofLayers layers).names none).Inert := by
  induction layers with
  | nil => exact .observe _
  | cons layer layers ih => exact layer.inert_names_atop ih

theorem value_run_contains_ofLayers (store : Store Obj) :
    (((ofLayers layers).contains name).run store).value = true ↔
      store.contains name = true ∨ ∃ layer ∈ layers, layer.registry (.contains name) = true := by
  induction layers with
  | nil => simp [base]
  | cons layer layers ih =>
    rw [ofLayers_cons, Layer.value_run_contains_atop, Bool.or_eq_true, ih, List.exists_mem_cons_iff,
      or_assoc]
    exact or_congr_right or_comm

theorem mem_run_names_ofLayers (store : Store Obj) :
    name ∈ (((ofLayers layers).names none).run store).value ↔
      store.contains name = true ∨
        ∃ layer ∈ layers, ∃ kind, name ∈ layer.registry (.capable kind) := by
  induction layers with
  | nil =>
    have hrun : ((base.names none).run store).value = store.names none := rfl
    rw [ofLayers_nil, hrun, ← Std.TreeSet.contains_iff_mem, Store.contains_names_none]
    simp
  | cons layer layers ih =>
    simp only [ofLayers_cons, Layer.atop, Procedure.run_bind, Layer.mem_run_addCapable, ih,
      List.exists_mem_cons_iff, Option.elim_none, Kind.mem_all, true_and, or_assoc]
    exact or_congr_right or_comm

omit [Described Obj] in
variable {layers name} in
theorem KnownIn.extends {store after : Store Obj} (h : KnownIn layers name store)
    (extended : store.Extends after) : KnownIn layers name after :=
  h.imp_left extended.contains

theorem knownIn_iff (store : Store Obj) :
    KnownIn layers name store ↔
      (((ofLayers layers).names none).run store).value.contains name = true ∨
        (((ofLayers layers).contains name).run store).value = true := by
  rw [Std.TreeSet.contains_iff_mem, mem_run_names_ofLayers, value_run_contains_ofLayers,
    ← or_or_distrib_left, KnownIn]
  simp only [Layer.Knows, and_or_left, exists_or]
  exact or_congr_right or_comm

end Catalog

namespace Layer

variable [Described Obj] (layer : Layer Obj) (layers : List (Layer Obj)) (name : String)

/-! ## Resolving over a stack -/

theorem alike_discover_ofLayers :
    (layer.discover (.ofLayers layers) name).Alike (layer.discover .base name) := by
  intro store
  cases hc : layer.candidate? name with
  | none =>
    obtain ⟨notes, -, he⟩ := layer.discover_of_none name (.ofLayers layers) hc
    obtain ⟨notesToo, -, heToo⟩ := layer.discover_of_none name .base hc
    simp only [he, heToo, Procedure.run_noteAll, and_self]
  | some found =>
    obtain ⟨registration, source⟩ := found
    obtain ⟨notes, -, he⟩ := layer.discover_of_some name (.ofLayers layers) hc
    obtain ⟨notesToo, -, heToo⟩ := layer.discover_of_some name .base hc
    rw [he, heToo, Catalog.register_ofLayers]
    simp only [Procedure.run_noteAll, and_self, Catalog.base]

theorem value_run_discover_ne_present (store : Store Obj) :
    ((layer.discover .base name).run store).value ≠ .present := by
  rw [value_run_discover]
  cases layer.candidate? name with
  | none =>
    dsimp only
    split <;> simp
  | some found =>
    dsimp only
    cases store.register found.1 <;> simp

theorem run_resolve_ofLayers (store : Store Obj) :
    let known := (((Catalog.ofLayers layers).contains name).run store).value
    let outcome := (layer.resolve (.ofLayers layers) name).run store
    outcome.value =
        (if known then .present else ((layer.discover .base name).run store).value) ∧
      outcome.store = if known then store else ((layer.discover .base name).run store).store := by
  intro known outcome
  have hinert := Catalog.inert_contains_ofLayers layers name store
  obtain ⟨hvalue, hstore⟩ := layer.alike_discover_ofLayers layers name store
  simp only [outcome, known, resolve, Procedure.run_inFlight, Procedure.run_bind, hinert]
  split
  · exact ⟨rfl, rfl⟩
  · exact ⟨hvalue, hstore⟩

theorem value_run_resolve_eq_present (store : Store Obj) :
    ((layer.resolve (.ofLayers layers) name).run store).value = .present ↔
      store.contains name = true ∨
        ∃ other ∈ layers, other.registry (.contains name) = true := by
  rw [(layer.run_resolve_ofLayers layers name store).1,
    ← Catalog.value_run_contains_ofLayers layers name store]
  split
  · next hknown => exact iff_of_true rfl hknown
  · next hunknown =>
    exact iff_of_false (layer.value_run_discover_ne_present name store) hunknown

theorem store_run_resolve_of_present {store : Store Obj}
    (h : ((layer.resolve (.ofLayers layers) name).run store).value = .present) :
    ((layer.resolve (.ofLayers layers) name).run store).store = store := by
  obtain ⟨hvalue, hstore⟩ := layer.run_resolve_ofLayers layers name store
  rw [hstore]
  split
  · rfl
  · next hunknown =>
    rw [hvalue, if_neg hunknown] at h
    exact (layer.value_run_discover_ne_present name store h).elim

end Layer

/-! ## Looking a single name up in a stack -/

section Lookup

variable [Described Obj] {layers : List (Layer Obj)} {name : String} {store : Store Obj}

/-- The store that a lookup of the name in the stack leaves. -/
def Catalog.afterLookup (layers : List (Layer Obj)) (name : String) (store : Store Obj) : Store Obj :=
  (((ofLayers layers).lookup none name []).run store).store

open Catalog (afterLookup KnownIn)

theorem Catalog.extends_afterLookup (layers : List (Layer Obj)) (name : String) (store : Store Obj) :
    store.Extends (afterLookup layers name store) :=
  Store.extends_run _ store

theorem Catalog.contains_of_value_run_lookup (hname : stages name = [name]) {found : Pipeline Obj}
    (h : (((ofLayers layers).lookup none name []).run store).value = some found) :
    (afterLookup layers name store).contains name = true := by
  have hfaithful := faithful_ofLayers layers none name [] store (isBlankText_of_stages_eq hname)
  exact Store.contains_of_lookup (hfaithful.lookup_eq_ok h) (by simp [hname])

theorem Layer.lookup_stage (layer : Layer Obj) (below : Catalog Obj) (hname : stages name = [name]) :
    layer.lookup below none (some name) [] = (do
      if let some found ← below.lookup none name [] then return some found
      let known ← below.names none
      layer.resolveMissing below known [name]
      below.lookup none name []) := by
  rewrite [lookup, layer.effective_some (isBlankText_of_stages_eq hname), names_of_stages_eq hname,
    canonical_of_stages_eq hname, if_neg (List.cons_ne_nil _ _)]
  rfl

/-- What the next layer does after the stack below it has been asked: nothing if the name is known by
then, and else it offers its own candidate. -/
theorem Layer.store_run_resolveMissing_stage (layer : Layer Obj) (first : Store Obj) :
    let below := Catalog.ofLayers layers
    let known := ((below.names none).run first).value
    (KnownIn layers name first →
        ((layer.resolveMissing below known [name]).run first).store = first) ∧
      (¬KnownIn layers name first →
        ((layer.resolveMissing below known [name]).run first).store =
          (layer.candidate? name).elim first fun found => first.offer found.1) := by
  intro below known
  have hstore : ((layer.resolveMissing below known [name]).run first).store =
      if known.contains name then first else ((layer.resolve below name).run first).store := by
    rw [resolveMissing_cons]
    split
    · rw [Procedure.store_run_noteAll]
      rfl
    · rw [Procedure.store_run_bind]
      rfl
  have hresolve := (layer.run_resolve_ofLayers layers name first).2
  rw [hstore, hresolve, store_run_discover, Catalog.knownIn_iff]
  constructor
  · rintro (hlisted | hcontained)
    · rw [if_pos hlisted]
    · rw [if_pos hcontained, ite_self]
  · intro hunknown
    obtain ⟨hlisted, hcontained⟩ := not_or.1 hunknown
    rw [if_neg hlisted, if_neg hcontained]

theorem Catalog.afterLookup_cons (layer : Layer Obj) (hname : stages name = [name])
    (store : Store Obj) :
    let first := afterLookup layers name store
    let known := (((ofLayers layers).names none).run first).value
    let resolved := ((layer.resolveMissing (ofLayers layers) known [name]).run first).store
    (first.contains name = true ∧ afterLookup (layer :: layers) name store = first) ∨
      afterLookup (layer :: layers) name store = afterLookup layers name resolved := by
  intro first known resolved
  have hinert (s : Store Obj) : (((ofLayers layers).names none).run s).store = s :=
    inert_names_ofLayers layers s
  have hcons : afterLookup (layer :: layers) name store =
      ((layer.lookup (ofLayers layers) none (some name) []).run store).store := by
    rw [afterLookup, ofLayers_cons, layer.lookup_atop]
  rw [hcons, layer.lookup_stage _ hname, Procedure.store_run_bind]
  cases hv : (((ofLayers layers).lookup none name []).run store).value with
  | some found => exact .inl ⟨contains_of_value_run_lookup hname hv, rfl⟩
  | none =>
    right
    simp only [Procedure.store_run_bind, hinert]
    rfl

theorem Catalog.extends_afterLookup_cons (layer : Layer Obj) (hname : stages name = [name]) :
    (afterLookup layers name store).Extends (afterLookup (layer :: layers) name store) := by
  rcases afterLookup_cons layer hname store with ⟨-, hcons⟩ | hcons
  · rw [hcons]
    exact .refl _
  · rw [hcons]
    exact (Store.extends_run _ _).trans (Store.extends_run _ _)

/-- A lookup does for the name all that the stack can ever do: after it, however the store grows,
another one changes nothing. -/
def Catalog.LookupCloses (layers : List (Layer Obj)) (name : String) : Prop :=
  ∀ store after : Store Obj, (afterLookup layers name store).Extends after →
    afterLookup layers name after = after

theorem Catalog.LookupCloses.of_known (closes : LookupCloses layers name) (layer : Layer Obj)
    (hname : stages name = [name]) (h : KnownIn layers name (afterLookup layers name store)) :
    afterLookup (layer :: layers) name store = afterLookup layers name store := by
  have hresolved := (layer.store_run_resolveMissing_stage _).1 h
  rcases afterLookup_cons layer hname store with ⟨-, hcons⟩ | hcons
  · exact hcons
  · rw [hcons, hresolved, closes store _ (.refl _)]

theorem Catalog.LookupCloses.of_unknown (closes : LookupCloses layers name) (layer : Layer Obj)
    (hname : stages name = [name]) (h : ¬KnownIn layers name (afterLookup layers name store)) :
    afterLookup (layer :: layers) name store =
      (layer.candidate? name).elim (afterLookup layers name store) fun found =>
        (afterLookup layers name store).offer found.1 := by
  have hresolved := (layer.store_run_resolveMissing_stage _).2 h
  rcases afterLookup_cons layer hname store with ⟨hfirst, -⟩ | hcons
  · exact (h (.inl hfirst)).elim
  · rw [hcons, closes store _ (Store.extends_run _ _), hresolved]

theorem Catalog.lookupCloses (hname : stages name = [name]) : LookupCloses layers name := by
  -- by induction on the layers: what a layer has offered once is refused ever after
  induction layers with
  | nil => exact fun _ after _ => (run_lookup_base none name [] after).2
  | cons layer layers ih =>
    intro store after extended
    have hfirst := (extends_afterLookup_cons layer hname).trans extended
    have hbelow : afterLookup layers name after = after := ih store after hfirst
    by_cases hknown : KnownIn layers name after
    · rw [ih.of_known layer hname (by rwa [hbelow]), hbelow]
    · rw [ih.of_unknown layer hname (by rwa [hbelow]), hbelow]
      cases hc : layer.candidate? name with
      | none => rfl
      | some found =>
        have hunknown := fun h : KnownIn layers name _ => hknown (h.extends hfirst)
        rw [ih.of_unknown layer hname hunknown, hc] at extended
        exact Store.offer_of_refuses ((Store.refuses_offer _ found.1).extends extended)

theorem Catalog.isSome_run_lookup_iff (well : store.WellFormed) (hname : stages name = [name]) :
    (((ofLayers layers).lookup none name []).run store).value.isSome = true ↔
      (afterLookup layers name store).contains name = true := by
  constructor
  · intro h
    obtain ⟨found, hfound⟩ := Option.isSome_iff_exists.1 h
    exact contains_of_value_run_lookup hname hfound
  · intro h
    have hafter : (afterLookup layers name store).WellFormed := well.run _
    rw [hafter.contains_eq_isSome_get?, Option.isSome_iff_exists] at h
    obtain ⟨registration, hget⟩ := h
    have hanswer := faithful_ofLayers layers none name [] store (isBlankText_of_stages_eq hname)
    have hlookup := Store.lookup_single hname hget []
    rw [afterLookup] at hlookup
    rw [hanswer, hlookup]
    rfl

/-! ## The layer that decides -/

/-- Of the layers of a stack the layer is the lowest that knows the name; `lower` is the stack below
it. -/
structure Layer.DecidesOn (layer : Layer Obj) (name : String) (layers lower : List (Layer Obj)) :
    Prop where
  knows : layer.Knows name
  suffix : layer :: lower <:+ layers
  unknown : ∀ other ∈ lower, ¬other.Knows name

/-- What the registry yields for the name can be registered in the store, and be known by the name
then. -/
def Layer.Serves (layer : Layer Obj) (name : String) (store : Store Obj) : Prop :=
  ∃ component registration, layer.Yields name component ∧
    layer.Builds name component registration ∧ name ∈ registration.names ∧
    ∀ own ∈ registration.names, Text.isBlankText own = false ∧ store.contains own = false

omit [Described Obj] in
theorem Layer.exists_decidesOn (h : ∃ layer ∈ layers, layer.Knows name) :
    ∃ layer : Layer Obj, ∃ lower, layer.DecidesOn name layers lower := by
  induction layers with
  | nil => simp at h
  | cons first rest ih =>
    by_cases hrest : ∃ layer ∈ rest, layer.Knows name
    · obtain ⟨layer, lower, hdecides⟩ := ih hrest
      exact ⟨layer, lower, hdecides.knows, hdecides.suffix.trans (List.suffix_cons ..),
        hdecides.unknown⟩
    · have hfirst := (List.exists_mem_cons_iff ..).1 h |>.resolve_right hrest
      exact ⟨first, rest, hfirst, List.suffix_refl _, fun other hm ho => hrest ⟨other, hm, ho⟩⟩

theorem Layer.DecidesOn.afterLookup_eq {layer : Layer Obj} {lower : List (Layer Obj)}
    (decides : layer.DecidesOn name layers lower) (hname : stages name = [name])
    (store : Store Obj) : afterLookup layers name store = afterLookup (layer :: lower) name store := by
  obtain ⟨upper, rfl⟩ := decides.suffix
  induction upper with
  | nil => rfl
  | cons top rest ih =>
    have hbelow := ih ⟨decides.knows, List.suffix_append .., decides.unknown⟩
    rw [List.cons_append, ← hbelow]
    exact (Catalog.lookupCloses hname).of_known top hname
      (.inr ⟨layer, by simp, decides.knows⟩)

theorem Layer.serves_iff {layer : Layer Obj} :
    layer.Serves name store ↔
      ∃ registration source, layer.candidate? name = some (registration, source) ∧
        name ∈ registration.names ∧
          ∀ own ∈ registration.names, Text.isBlankText own = false ∧ store.contains own = false := by
  constructor
  · rintro ⟨component, registration, yields, builds, hlisted, hfree⟩
    obtain ⟨source, hc⟩ := exists_candidate?_iff.2 ⟨component, yields, builds⟩
    exact ⟨registration, source, hc, hlisted, hfree⟩
  · rintro ⟨registration, source, hc, hlisted, hfree⟩
    obtain ⟨component, yields, builds⟩ := exists_candidate?_iff.1 ⟨source, hc⟩
    exact ⟨component, registration, yields, builds, hlisted, hfree⟩

theorem Layer.serves_of_usable {layer : Layer Obj} {target : Target Obj}
    (yields : layer.Yields name (.bare target)) (usable : target.classOf.IsUsable)
    (hblank : Text.isBlankText name = false) (hfree : store.contains name = false) :
    layer.Serves name store := by
  obtain ⟨registration, source, hc, hnames⟩ :=
    layer.exists_candidate?_of_bare (yields_iff.1 yields) (ObjectClass.isUsable_iff.1 usable)
  refine serves_iff.2 ⟨registration, source, hc, ?_⟩
  rw [hnames]
  simp [hblank, hfree]

omit [Described Obj] in
theorem Store.contains_offer_iff {registration : Registration Obj} :
    (store.offer registration).contains name = true ↔
      store.contains name = true ∨ name ∈ registration.names ∧
        ∀ own ∈ registration.names, Text.isBlankText own = false ∧ store.contains own = false := by
  rw [offer]
  cases hr : store.register registration with
  | ok next =>
    obtain ⟨hfree, rfl⟩ := register_eq_ok.1 hr
    simp only [contains_append, Bool.or_eq_true, decide_eq_true_eq]
    exact or_comm.trans (or_congr_right (and_iff_left hfree).symm)
  | error e =>
    have hrefused : ¬∀ own ∈ registration.names,
        Text.isBlankText own = false ∧ store.contains own = false := by
      intro hfree
      rw [register_eq_ok.2 ⟨hfree, rfl⟩] at hr
      cases hr
    exact (or_iff_left fun h => hrefused h.2).symm

/-- The layer that decides serves the name if the stack below it has made the name known, or if the
layer can register it itself. -/
theorem Layer.DecidesOn.contains_afterLookup_iff {layer : Layer Obj} {lower : List (Layer Obj)}
    (decides : layer.DecidesOn name layers lower) (hname : stages name = [name])
    (store : Store Obj) :
    (afterLookup layers name store).contains name = true ↔
      (afterLookup lower name store).contains name = true ∨
        layer.Serves name (afterLookup lower name store) := by
  rw [decides.afterLookup_eq hname, serves_iff]
  by_cases hlower : (afterLookup lower name store).contains name = true
  · rw [(Catalog.lookupCloses hname).of_known layer hname (.inl hlower)]
    exact iff_of_true hlower (.inl hlower)
  · have hunknown : ¬KnownIn lower name (afterLookup lower name store) := by
      rintro (h | ⟨other, hm, ho⟩)
      · exact hlower h
      · exact decides.unknown other hm ho
    rw [(Catalog.lookupCloses hname).of_unknown layer hname hunknown]
    cases layer.candidate? name with
    | none => simp
    | some found =>
      obtain ⟨registration, source⟩ := found
      rw [Option.elim_some, Store.contains_offer_iff]
      simp

/-- A layer above one that knows the name finds as much as is found below it. -/
theorem Layer.isSome_run_lookup_of_known (top : Layer Obj) (well : store.WellFormed)
    (hname : stages name = [name])
    (h : KnownIn layers name store) :
    ((top.lookup (.ofLayers layers) none (some name) []).run store).value.isSome =
      (((Catalog.ofLayers layers).lookup none name []).run store).value.isSome := by
  have hknown := h.extends (Catalog.extends_afterLookup layers name store)
  have hstore := (Catalog.lookupCloses hname).of_known top hname hknown
  rw [← top.lookup_atop, ← Catalog.ofLayers_cons, Bool.eq_iff_iff,
    Catalog.isSome_run_lookup_iff well hname, Catalog.isSome_run_lookup_iff well hname, hstore]

end Lookup

/-- A layer finds a name present just when the store or a registry below knows it, and then does
nothing. Whether the name is found below is for the lowest layer that knows it to decide, and the
layer above finds no more. -/
theorem Layer.resolve_present_iff_known [Described Obj]
    (operations : List (List (Layer Obj) × Operation Obj)) (top : Layer Obj)
    (layers : List (Layer Obj)) (name : String) (hname : stages name = [name]) :
    let store := (Store.empty : Store Obj).afterAll operations
    let below := Catalog.ofLayers layers
    let outcome := (top.resolve below name).run store
    let found := ((below.lookup none name []).run outcome.store).value.isSome
    (outcome.value = .present ↔ store.contains name = true ∨
        ∃ layer ∈ layers, layer.registry (.contains name) = true) ∧
      (outcome.value = .present →
        outcome.store = store ∧
        ((top.lookup below none (some name) []).run outcome.store).value.isSome = found ∧
        (store.contains name = true → found = true) ∧
        (store.contains name = false → ∃ layer : Layer Obj, ∃ lower,
          layer.DecidesOn name layers lower) ∧
        ∀ (layer : Layer Obj) (lower : List (Layer Obj)), layer.DecidesOn name layers lower →
          let reached := (((Catalog.ofLayers lower).lookup none name []).run store).store
          (found = true ↔ reached.contains name = true ∨ layer.Serves name reached) ∧
            ∀ target : Target Obj,
              layer.Yields name (.bare target) → target.classOf.IsUsable → found = true) := by
  intro store below outcome found
  have hwell : store.WellFormed := Store.WellFormed.empty.afterAll operations
  have hpresent := top.value_run_resolve_eq_present layers name store
  refine ⟨hpresent, fun h => ?_⟩
  have hstore : outcome.store = store := top.store_run_resolve_of_present layers name h
  have hfound : found = true ↔ (Catalog.afterLookup layers name store).contains name = true := by
    rw [← Catalog.isSome_run_lookup_iff hwell hname, ← hstore]
  have hknown : Catalog.KnownIn layers name store :=
    (hpresent.1 h).imp_right fun ⟨layer, hm, hc⟩ => ⟨layer, hm, .inl hc⟩
  refine ⟨hstore, ?_, fun hcontains => ?_, fun habsent => ?_, fun layer lower decides => ?_⟩
  · rw [hstore, top.isSome_run_lookup_of_known hwell hname hknown]
    exact congrArg (fun s => ((below.lookup none name []).run s).value.isSome) hstore.symm
  · exact hfound.2 ((Catalog.extends_afterLookup layers name store).contains hcontains)
  · exact Layer.exists_decidesOn (hknown.resolve_left (by simp [habsent]))
  · have hiff := hfound.trans (decides.contains_afterLookup_iff hname store)
    refine ⟨hiff, fun target yields usable => hiff.2 ?_⟩
    have hblank : Text.isBlankText name = false := isBlankText_of_stages_eq hname
    by_cases hreached : (Catalog.afterLookup lower name store).contains name = true
    · exact .inl hreached
    · exact .inr (Layer.serves_of_usable yields usable hblank (Bool.eq_false_iff.2 hreached))

/-- The middle layer has a component `x` of which nothing can be made, but the lowest leads to one by
its qualifier; over the middle layer alone, `loud` is served by a method. -/
theorem Layer.resolve_present_iff_known_three :
    let upper : Target Scripted.Object :=
      .object (.function 0 ⟨.transform, "Upper", .upper, none, {}⟩)
    let inert : Target Scripted.Object := .object (.custom 1 { name := "Inert" } none [])
    let shout : Method := ⟨"shout", ⟨.named "String", .any⟩, { isPublic := true }⟩
    let shouter : Target Scripted.Object :=
      .object (.custom 2 { name := "Shouter", methods := [shout] } none [("shout", .upper)])
    let lowest : Layer Scripted.Object :=
      ⟨(Declarations.ofList [.component "y" (.bare upper), .qualifier "y" "x"]).registry, {}⟩
    let middle : Layer Scripted.Object := ⟨(Declarations.ofList
      [.component "x" (.bare inert), .component "loud" (.bare shouter)]).registry, {}⟩
    let top : Layer Scripted.Object :=
      ⟨(Declarations.ofList [.component "x" (.bare upper)]).registry, {}⟩
    let resolve (layers : List (Layer Scripted.Object)) (name : String) :=
      (top.resolve (.ofLayers layers) name).run .empty
    let found (layers : List (Layer Scripted.Object)) (name : String) :=
      (((Catalog.ofLayers layers).lookup none name []).run (resolve layers name).store).value.isSome
    (stages "x" = ["x"] ∧ (resolve [middle, lowest] "x").value = .present ∧
        middle.DecidesOn "x" [middle, lowest] [lowest] ∧ found [middle, lowest] "x" = true) ∧
      stages "loud" = ["loud"] ∧ (resolve [middle] "loud").value = .present ∧
        middle.DecidesOn "loud" [middle] [] ∧ middle.Yields "loud" (.bare shouter) ∧
        shouter.classOf.IsUsable ∧ found [middle] "loud" = true := by
  intro upper inert shout shouter lowest middle top resolve found
  have hx : stages "x" = ["x"] := by decide
  have hloud : stages "loud" = ["loud"] := by decide
  have hpresent : (resolve [middle, lowest] "x").value = .present := by decide
  have hpresentToo : (resolve [middle] "loud").value = .present := by decide
  have hunlisted (kind : Kind) : "x" ∉ lowest.registry (.capable kind) := by
    rw [← Std.TreeSet.contains_iff_mem]
    cases kind <;> decide
  have hunknown : ¬lowest.Knows "x" := by
    rintro (hc | ⟨kind, hm⟩)
    · exact absurd hc (by decide)
    · exact hunlisted kind hm
  have hdecides : middle.DecidesOn "x" [middle, lowest] [lowest] :=
    ⟨.inl (by decide), List.suffix_refl _, List.forall_mem_singleton.2 hunknown⟩
  have hdecidesToo : middle.DecidesOn "loud" [middle] [] :=
    ⟨.inl (by decide), List.suffix_refl _, by simp⟩
  have hyields : middle.Yields "loud" (.bare shouter) := by
    refine yields_iff.2 ?_
    unfold middle inert shouter shout
    rfl
  have husable : shouter.classOf.IsUsable :=
    ObjectClass.isUsable_iff.2 (.inr ⟨shout, by decide⟩)
  obtain ⟨-, -, -, -, hmiddle⟩ :=
    (top.resolve_present_iff_known [] [middle, lowest] "x" hx).2 hpresent
  obtain ⟨-, -, -, -, hmiddleToo⟩ :=
    (top.resolve_present_iff_known [] [middle] "loud" hloud).2 hpresentToo
  exact ⟨⟨hx, hpresent, hdecides, (hmiddle _ _ hdecides).1.2 (.inl (by decide))⟩, hloud,
    hpresentToo, hdecidesToo, hyields, husable,
    (hmiddleToo _ _ hdecidesToo).2 shouter hyields husable⟩

/-- A present name need not be found: the layer below has a component of it that cannot be called, and
the one above does not get to offer its own, which can. -/
theorem Layer.present_not_found :
    let upper : Target Scripted.Object :=
      .object (.function 0 ⟨.transform, "Upper", .upper, none, {}⟩)
    let inert : Target Scripted.Object := .object (.custom 1 { name := "Inert" } none [])
    let lower : Layer Scripted.Object :=
      ⟨(Declarations.ofList [.component "x" (.bare inert)]).registry, {}⟩
    let top : Layer Scripted.Object :=
      ⟨(Declarations.ofList [.component "x" (.bare upper)]).registry, {}⟩
    let outcome := (top.resolve (.ofLayers [lower]) "x").run .empty
    stages "x" = ["x"] ∧ outcome.value = .present ∧
      (((Catalog.ofLayers [lower]).lookup none "x" []).run outcome.store).value.isSome = false ∧
      ((top.lookup (.ofLayers [lower]) none (some "x") []).run outcome.store).value.isSome = false ∧
      ((top.resolve .base "x").run .empty).value = .registered .unresolved := by
  decide

end NamedFunctions
