import NamedFunctions.Proofs.SettledNames
import NamedFunctions.Registry.Declared
import NamedFunctions.Scripted

/-! # Transparent layers

A layer whose registry holds nothing adds nothing to the catalog below it, although it does more
work: a lookup that the catalog below cannot serve is made twice there, and in between every name
that is not known is sought once more, in vain. The first lookup below has discovered and registered
what it could. What keeps the second from registering again is that the first has settled all names
of the definition, those too whose components were registered under other names or refused. -/
namespace NamedFunctions

open Definition

variable {Obj α β : Type}

/-! ## Procedures that only look -/

namespace Procedure

/-- The procedure leaves every store as it is. -/
def Inert (p : Procedure Obj α) : Prop :=
  ∀ store, (p.run store).store = store

/-- A caller gets the same answer from both, and the same is stored. They may ask and report
differently on the way. -/
def Alike (p q : Procedure Obj α) : Prop :=
  ∀ store, (p.run store).value = (q.run store).value ∧ (p.run store).store = (q.run store).store

theorem Inert.done (a : α) : (done a : Procedure Obj α).Inert :=
  fun _ => rfl

theorem Inert.observe (f : Store Obj → α) : (observe f).Inert :=
  fun _ => rfl

theorem Inert.noteAll (notes : List Note) {p : Procedure Obj α} (h : p.Inert) :
    (noteAll notes p).Inert := by
  intro store
  rw [store_run_noteAll, h]

theorem Inert.bind {p : Procedure Obj α} {f : α → Procedure Obj β} (first : p.Inert)
    (rest : ∀ a, (f a).Inert) : (p >>= f).Inert := by
  intro store
  rw [store_run_bind, rest, first]

theorem Alike.refl (p : Procedure Obj α) : p.Alike p :=
  fun _ => ⟨rfl, rfl⟩

end Procedure

open Procedure (Inert Alike)

namespace Layer

variable (layer : Layer Obj) (below : Catalog Obj)

theorem inert_ask (query : Query) : (layer.ask below query).Inert := by
  intro store
  rw [ask, Procedure.run_consult]

theorem inert_addCapable (names : NameSet) (kinds : List Kind) :
    (layer.addCapable below names kinds).Inert := by
  induction kinds generalizing names with
  | nil => exact .done names
  | cons kind rest ih => exact .bind (layer.inert_ask below _) fun more => ih _

variable {below} [Described Obj]

theorem inert_names_atop {kind : Option Kind} (h : (below.names kind).Inert) :
    ((layer.atop below).names kind).Inert :=
  .bind h fun _ => layer.inert_addCapable below _ _

theorem inert_contains_atop {name : String} (h : (below.contains name).Inert) :
    ((layer.atop below).contains name).Inert := by
  refine .bind h fun known => ?_
  cases known with
  | true => exact .done true
  | false => exact layer.inert_ask below (.contains name)

/-- A lookup is about the stages of its definition. -/
theorem lookup_canonical {definition : String} (hn : stages definition ≠ []) (kind : Option Kind)
    (outputTypes : List String) :
    layer.lookup below kind (some (canonical definition)) outputTypes =
      layer.lookup below kind (some definition) outputTypes := by
  have hb := isBlankText_of_stages_ne_nil hn
  have hbc := isBlankText_canonical hn
  rw [lookup, lookup, layer.effective_some hb, layer.effective_some hbc, canonical_canonical]
  have hne : names definition ≠ [] := by rwa [ne_eq, names_eq_nil]
  rw [names_canonical, if_neg hne, if_neg hne]

end Layer

/-! ## Registries that hold nothing -/

theorem NameSet.union_of_isEmpty {a b : NameSet} (h : b.isEmpty = true) : a.union b = a := by
  have hnone : b.toList = [] := List.isEmpty_iff.1 (Std.TreeSet.isEmpty_toList.trans h)
  rw [union, hnone, Std.TreeSet.insertMany_nil]

/-- The registry has no components, no qualifiers and no names with a capability. It may still know
aliases and definitions. -/
structure Registry.HoldsNothing (registry : Registry Obj) : Prop where
  contains : ∀ name, registry (.contains name) = false
  qualified : ∀ qualifier, registry (.qualified qualifier) = .ok none
  capable : ∀ kind, (registry (.capable kind)).isEmpty = true

/-- Declarations of aliases and definitions alone put nothing into a registry. -/
theorem Declarations.holdsNothing [Described Obj] {declarations : Declarations Obj}
    (hc : declarations.components.isEmpty = true) (hq : declarations.qualifiers.isEmpty = true) :
    declarations.registry.HoldsNothing where
  contains name := by
    show (declarations.components[declarations.canonical name]?).isSome = false
    rw [Std.TreeMap.getElem?_of_isEmpty hc, Option.isSome_none]
  qualified qualifier := by
    show declarations.qualified qualifier = .ok none
    rw [qualified, Std.TreeMap.getD_of_isEmpty hq]
  capable kind := by
    show (declarations.capable kind).isEmpty = true
    have hnone : declarations.components.toList = [] :=
      List.isEmpty_iff.1 (Std.TreeMap.isEmpty_toList.trans hc)
    rw [capable, hnone]
    rfl

namespace Layer

variable [Described Obj] {layer : Layer Obj} {below : Catalog Obj}

theorem candidate?_of_holdsNothing (nothing : layer.registry.HoldsNothing) (name : String) :
    layer.candidate? name = none := by
  rw [candidate?, component?, nothing.contains, nothing.qualified]
  rfl

theorem inert_resolve_of_holdsNothing (nothing : layer.registry.HoldsNothing) {name : String}
    (h : (below.contains name).Inert) : (layer.resolve below name).Inert := by
  obtain ⟨notes, -, hdiscover⟩ :=
    layer.discover_of_none name below (candidate?_of_holdsNothing nothing name)
  intro store
  rw [resolve, Procedure.run_inFlight, hdiscover]
  refine Inert.bind h (fun known => ?_) store
  split
  · exact .done _
  · exact .noteAll notes (.done _)

theorem inert_resolveMissing_of_holdsNothing (nothing : layer.registry.HoldsNothing)
    (h : ∀ name, (below.contains name).Inert) (known : NameSet) (wanted : List String) :
    (layer.resolveMissing below known wanted).Inert := by
  induction wanted with
  | nil => exact .done ()
  | cons first rest ih =>
    rw [resolveMissing_cons]
    split
    · exact .noteAll _ ih
    · exact .bind (inert_resolve_of_holdsNothing nothing (h first)) fun _ => ih

/-! ## What an idle layer adds -/

variable (below)

omit [Described Obj] in
theorem run_countCapable_of_holdsNothing (nothing : layer.registry.HoldsNothing)
    (kinds : List Kind) (store : Store Obj) :
    ((layer.countCapable below kinds).run store).value = 0 ∧
      ((layer.countCapable below kinds).run store).store = store := by
  induction kinds with
  | nil => exact ⟨rfl, rfl⟩
  | cons kind rest ih =>
    have hsize : (layer.registry (.capable kind)).size = 0 :=
      eq_of_beq (Std.TreeSet.isEmpty_eq_size_eq_zero.symm.trans (nothing.capable kind))
    simp only [countCapable, ask, Procedure.run_bind, Procedure.run_consult, Registry.value_ask,
      hsize, ih, Procedure.pure_eq_done, Procedure.run_done, Nat.add_zero, and_self]

omit [Described Obj] in
theorem value_run_addCapable_of_holdsNothing (nothing : layer.registry.HoldsNothing) (names : NameSet)
    (kinds : List Kind) (store : Store Obj) :
    ((layer.addCapable below names kinds).run store).value = names := by
  induction kinds with
  | nil => rfl
  | cons kind rest ih =>
    have hunion : names.union (layer.registry (.capable kind)) = names :=
      NameSet.union_of_isEmpty (nothing.capable kind)
    simp only [addCapable, ask, Procedure.run_bind, Procedure.run_consult, Registry.value_ask,
      hunion, ih]

theorem alike_size_atop (nothing : layer.registry.HoldsNothing) :
    (layer.atop below).size.Alike below.size := by
  intro store
  obtain ⟨hvalue, hstore⟩ := run_countCapable_of_holdsNothing below nothing Kind.all store
  simp only [atop, Procedure.run_bind, hvalue, hstore, Procedure.pure_eq_done, Procedure.run_done,
    Nat.add_zero, and_self]

theorem alike_names_atop (nothing : layer.registry.HoldsNothing) (kind : Option Kind) :
    ((layer.atop below).names kind).Alike (below.names kind) := by
  intro store
  simp only [atop, Procedure.run_bind, value_run_addCapable_of_holdsNothing below nothing,
    layer.inert_addCapable below _ _ _, and_self]

theorem alike_contains_atop (nothing : layer.registry.HoldsNothing) (name : String) :
    ((layer.atop below).contains name).Alike (below.contains name) := by
  intro store
  simp only [atop, Procedure.run_bind]
  cases ((below.contains name).run store).value with
  | true => exact ⟨rfl, rfl⟩
  | false => simp [ask, nothing.contains]

/-! ## Lookups through an idle layer -/

variable (inner : Layer Obj)

/-- A lookup that fails below is repeated there, and finds all of its names settled. -/
theorem store_run_lookup_of_holdsNothing (nothing : layer.registry.HoldsNothing)
    {definition : String} (hb : Text.isBlankText definition = false) (kind : Option Kind)
    (outputTypes : List String) (store : Store Obj) :
    ((layer.lookup (inner.atop .base) kind (some definition) outputTypes).run store).store =
      ((inner.lookup .base kind (some definition) outputTypes).run store).store := by
  rw [lookup, layer.effective_some hb]
  by_cases hn : stages definition = []
  · rw [if_pos (names_eq_nil.2 hn), lookup, inner.effective_some hb, if_pos (names_eq_nil.2 hn)]
  · have hbelow : (inner.atop .base).lookup kind (canonical definition) outputTypes =
        inner.lookup .base kind (some definition) outputTypes := by
      rw [inner.lookup_atop, inner.lookup_canonical hn]
    rw [if_neg (by rwa [names_eq_nil]), hbelow, Procedure.store_run_bind]
    cases ((inner.lookup .base kind (some definition) outputTypes).run store).value with
    | some found => simp only [Procedure.pure_eq_done, Procedure.run_done]
    | none =>
      have hknown : ((inner.atop .base).names none).Inert := inner.inert_names_atop (.observe _)
      have hcontains : ∀ name, ((inner.atop .base).contains name).Inert := fun _ =>
        inner.inert_contains_atop (.observe _)
      simp only [Procedure.store_run_bind]
      rw [inert_resolveMissing_of_holdsNothing nothing hcontains, hknown]
      exact inner.store_run_lookup_of_settled kind (some definition) outputTypes
        (inner.settled_lookup kind (some definition) outputTypes store)

theorem alike_lookup_atop (nothing : layer.registry.HoldsNothing)
    {definition : String} (hb : Text.isBlankText definition = false) (kind : Option Kind)
    (outputTypes : List String) :
    ((layer.atop (inner.atop .base)).lookup kind definition outputTypes).Alike
      ((inner.atop .base).lookup kind definition outputTypes) := by
  intro store
  have hstore := store_run_lookup_of_holdsNothing inner nothing hb kind outputTypes store
  rw [← lookup_atop, ← lookup_atop] at hstore
  -- both answer what the store finds in the one state that they leave
  have houter := Catalog.faithful_ofLayers [layer, inner] kind definition outputTypes store hb
  have hinner := Catalog.faithful_ofLayers [inner] kind definition outputTypes store hb
  simp only [Catalog.ofLayers_cons, Catalog.ofLayers_nil, Outcome.Answers] at houter hinner
  refine ⟨?_, hstore⟩
  rw [houter, hinner, hstore]

/-- A layer whose registry holds nothing answers and stores what the layer below does, in lookups
of definitions that are not blank and in all other operations, whatever its settings are. -/
theorem transparent_of_holdsNothing (outer inner : Layer Obj)
    (nothing : outer.registry.HoldsNothing) :
    let lower := inner.atop .base
    let upper := outer.atop lower
    (∀ (kind : Option Kind) (definition : String) (outputTypes : List String),
      Text.isBlankText definition = false →
        (upper.lookup kind definition outputTypes).Alike
          (lower.lookup kind definition outputTypes)) ∧
      upper.size.Alike lower.size ∧
      (∀ kind, (upper.names kind).Alike (lower.names kind)) ∧
      (∀ name, (upper.contains name).Alike (lower.contains name)) ∧
      ∀ registration, (upper.register registration).Alike (lower.register registration) := by
  intro lower upper
  refine ⟨fun kind definition outputTypes hb => ?_, alike_size_atop lower nothing,
    alike_names_atop lower nothing, alike_contains_atop lower nothing, fun _ => .refl _⟩
  exact alike_lookup_atop inner nothing hb kind outputTypes

/-- The component under `x` is registered as `a`, so that both lookups below the upper layer discover
`x`, and neither makes it known. The upper layer knows an alias and a definition, which lead to no
component. -/
theorem transparent_of_holdsNothing_elsewhere :
    let target : Target Scripted.Object :=
      .object (.function 0 ⟨.transform, "Upper", .upper, none, {}⟩)
    let components := (Declarations.ofList [
      .component "x" (.registration { primary := "a", target }),
      .component "y" (.bare target)]).registry
    let described := (Declarations.ofList [.aliased "z" "x", .definition "x" none]).registry
    let inner : Layer Scripted.Object := ⟨components, { definition := some "y" }⟩
    let outer : Layer Scripted.Object := ⟨described, {}⟩
    let lower := inner.atop .base
    let upper := outer.atop lower
    let below := (lower.lookup none "x | y" ["text"]).run .empty
    let above := (upper.lookup none "x | y" ["text"]).run .empty
    outer.registry.HoldsNothing ∧ Text.isBlankText "x | y" = false ∧
      below.value.isNone = true ∧ below.store.contains "a" = true ∧
      below.store.contains "x" = false ∧ below.store.contains "y" = true ∧
      above.value = below.value ∧ above.store = below.store := by
  intro target components described inner outer lower upper below above
  have nothing : outer.registry.HoldsNothing := Declarations.holdsNothing (by decide) (by decide)
  have hb : Text.isBlankText "x | y" = false := by decide
  exact ⟨nothing, hb, by decide, by decide, by decide, by decide,
    (transparent_of_holdsNothing outer inner nothing).1 none "x | y" ["text"] hb .empty⟩

end Layer

end NamedFunctions
