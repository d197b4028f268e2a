import NamedFunctions.Proofs.AliasTables
import NamedFunctions.Proofs.KnownBelow

/-! # Names that a registry advertises

A declared registry lists the names of its natively callable components as they were declared, but
hands a component out under the name that a name leads to. The two part where an alias has the name of
a component: the component is still listed, and what is found under its name is what the alias leads
to. So an advertised name is fetched as advertised exactly if it is no alias or leads to a name that is
advertised as well, and a layer contains what it lists unless it lists an alias that leads to nothing. -/
namespace NamedFunctions

variable {Obj : Type}

/-- The registry contains the name and hands out a bare component for it that has the capability. -/
structure Registry.HandsOut [Described Obj] (registry : Registry Obj) (kind : Kind) (name : String) :
    Prop where
  contains : registry (.contains name) = true
  fetch : ∃ target, registry (.fetch name) = some (.bare target) ∧
    target.classOf.capabilities.has kind = true

namespace Declarations

variable {list : List (Declaration Obj)} {name : String}

/-- A property of a name that is carried over to what the name was last declared an alias for is one
of what it leads to. -/
theorem forall_lastAliased_iff {p : String → Prop} (h : p name) :
    (∀ owner, LastAliased list owner name → p owner) ↔ p ((ofList list).canonical name) := by
  constructor
  · intro howners
    by_cases haliased : name ∈ declaredAliases list
    · exact howners _ (lastAliased_canonical haliased)
    · rwa [canonical_of_notMem haliased]
  · intro hcanonical owner howner
    rwa [howner.canonical] at hcanonical

variable [Described Obj]

theorem mem_capable {kind : Kind} :
    name ∈ (ofList list).capable kind ↔ ∃ target, lastComponent list name = some (.bare target) ∧
      target.classOf.capabilities.has kind = true := by
  have hlisted : name ∈ (ofList list).capable kind ↔
      ∃ component, lastComponent list name = some component ∧ isCapable kind component = true := by
    simp [capable, ← (getElem?_entries list name).1, Std.TreeMap.mem_toList_iff_getElem?_eq_some]
  rw [hlisted]
  constructor
  · rintro ⟨component, hcomponent, hcapable⟩
    cases component with
    | bare target => exact ⟨target, hcomponent, hcapable⟩
    | registration => cases hcapable
  · rintro ⟨target, hcomponent, hcapable⟩
    exact ⟨.bare target, hcomponent, hcapable⟩

theorem handsOut_iff (list : List (Declaration Obj)) (kind : Kind) (name : String) :
    (ofList list).registry.HandsOut kind name ↔
      (ofList list).canonical name ∈ (ofList list).capable kind := by
  obtain ⟨hfetch, hcontains, -, -⟩ := answers_canonical list name
  rw [mem_capable, ← hfetch]
  refine ⟨Registry.HandsOut.fetch, fun h => ⟨?_, h⟩⟩
  obtain ⟨target, htarget, -⟩ := h
  rw [hcontains, ← hfetch, htarget]
  rfl

theorem value_run_contains_atop_iff (list : List (Declaration Obj)) (settings : Settings)
    (store : Store Obj) (name : String) :
    ((((⟨(ofList list).registry, settings⟩ : Layer Obj).atop .base).contains name).run store).value =
        true ↔
      store.contains name = true ∨
        (lastComponent list ((ofList list).canonical name)).isSome = true := by
  refine (Catalog.value_run_contains_ofLayers [⟨(ofList list).registry, settings⟩] name store).trans ?_
  simp only [List.mem_singleton, exists_eq_left, (answers_canonical list name).contains]

theorem mem_run_names_atop_iff (list : List (Declaration Obj)) (settings : Settings)
    (store : Store Obj) (name : String) :
    name ∈ ((((⟨(ofList list).registry, settings⟩ : Layer Obj).atop .base).names none).run store).value ↔
      store.contains name = true ∨ ∃ kind, name ∈ (ofList list).capable kind := by
  refine (Catalog.mem_run_names_ofLayers [⟨(ofList list).registry, settings⟩] name store).trans ?_
  simp only [List.mem_singleton, exists_eq_left]
  rfl

/-- An advertised name is fetched as advertised unless it is an alias of a name that is not. A
layer contains a name that it lists under the like condition, or if the store has it. -/
theorem advertised_handed_out_iff (list : List (Declaration Obj)) :
    let registry := (ofList list).registry
    (∀ kind name, name ∈ registry (.capable kind) →
        (registry.HandsOut kind name ↔
          ∀ owner, LastAliased list owner name → owner ∈ registry (.capable kind))) ∧
      ∀ (settings : Settings) (store : Store Obj) (name : String),
        name ∈ ((((⟨registry, settings⟩ : Layer Obj).atop .base).names none).run store).value →
        (((((⟨registry, settings⟩ : Layer Obj).atop .base).contains name).run store).value = true ↔
          store.contains name = true ∨
            ∀ owner, LastAliased list owner name → (lastComponent list owner).isSome = true) := by
  intro registry
  refine ⟨fun kind name hm => ?_, fun settings store name hm => ?_⟩
  · rw [forall_lastAliased_iff (p := (· ∈ registry (.capable kind))) hm]
    exact handsOut_iff list kind name
  · rw [value_run_contains_atop_iff]
    rcases (mem_run_names_atop_iff list settings store name).1 hm with hstored | ⟨kind, hcapable⟩
    · exact iff_of_true (.inl hstored) (.inl hstored)
    · obtain ⟨target, htarget, -⟩ := mem_capable.1 hcapable
      have hsome : (lastComponent list name).isSome = true := by rw [htarget, Option.isSome_some]
      rw [forall_lastAliased_iff (p := fun owner => (lastComponent list owner).isSome = true) hsome]

/-- The name of one component is an alias of another's; a third has no alias. -/
theorem advertised_handed_out_iff_shared :
    let upper : Component Scripted.Object :=
      .bare (.object (.function 0 ⟨.transform, "Upper", .upper, none, {}⟩))
    let list : List (Declaration Scripted.Object) :=
      [.component "a" upper, .aliased "b" "a", .component "b" upper, .component "c" upper]
    let registry := (ofList list).registry
    let catalog := (⟨registry, {}⟩ : Layer Scripted.Object).atop .base
    ("a" ∈ registry (.capable .transform) ∧ LastAliased list "b" "a" ∧
        registry.HandsOut .transform "a") ∧
      "c" ∈ ((catalog.names none).run .empty).value ∧
        ((catalog.contains "c").run .empty).value = true := by
  intro upper list registry catalog
  have ha : "a" ∈ registry (.capable .transform) := by decide
  have hb : "b" ∈ registry (.capable .transform) := by decide
  have hc : "c" ∈ ((catalog.names none).run .empty).value := by decide
  have hlast : LastAliased list "b" "a" :=
    ⟨list.take 1, [.component "b" upper, .component "c" upper], rfl, by simp⟩
  have hnone : ∀ owner, .aliased owner "c" ∉ list := by simp [list]
  obtain ⟨hhanded, hcontained⟩ := advertised_handed_out_iff list
  refine ⟨⟨ha, hlast, (hhanded .transform "a" ha).2 fun owner howner => ?_⟩, hc,
    (hcontained {} .empty "c" hc).2 (.inr fun owner howner => (hnone owner howner.mem).elim)⟩
  obtain rfl := hlast.unique howner
  exact hb

/-- A component's name that is declared as an alias of a name without a component is listed by the
registry and by a layer over it, and contained in neither. -/
theorem advertised_not_contained :
    let upper : Component Scripted.Object :=
      .bare (.object (.function 0 ⟨.transform, "Upper", .upper, none, {}⟩))
    let list : List (Declaration Scripted.Object) := [.component "a" upper, .aliased "b" "a"]
    let registry := (ofList list).registry
    let catalog := (⟨registry, {}⟩ : Layer Scripted.Object).atop .base
    ("a" ∈ registry (.capable .transform) ∧ registry (.contains "a") = false ∧
        (registry (.fetch "a")).isNone = true) ∧
      "a" ∈ ((catalog.names none).run .empty).value ∧
        ((catalog.contains "a").run .empty).value = false := by
  decide

end Declarations

end NamedFunctions
