import NamedFunctions.Proofs.AliasResolution

/-! # Routing objects in alias groups

A routing object takes the signature that is declared on its definition, but only under the very name
of the definition. Under the other names of its group it is treated as any object is: a factory that
says what it produces is heard before the definition, and so is a class that fixes its input. The one
definition of a group therefore speaks for a routing object under each of the names just if nothing
that is heard before it says otherwise. -/
namespace NamedFunctions

open Discovery

variable {Obj : Type} [Described Obj]

namespace Declarations

/-! ## Groups with one definition -/

/-- One member of the group has a definition, and no other has. -/
structure DefinedOnlyUnder (list : List (Declaration Obj)) (head definition : String) : Prop where
  mem : definition ∈ aliasGroup list head
  defined : (ofList list).registry (.hasDefinition definition) = true
  only : ∀ name ∈ aliasGroup list head,
    (ofList list).registry (.hasDefinition name) = true → name = definition

variable {list : List (Declaration Obj)} {head definition name : String}

namespace DefinedOnlyUnder

theorem atMostOnce (h : DefinedOnlyUnder list head definition) : DefinedAtMostOnce list head := by
  intro name hn other ho hname hother
  rw [h.only name hn hname, h.only other ho hother]

theorem declared_eq_none (h : DefinedOnlyUnder list head definition)
    (hn : name ∈ aliasGroup list head) (hne : name ≠ definition) :
    (ofList list).registry (.declared name) = none := by
  have hundefined : name ∉ (ofList list).definitions := by
    intro hm
    exact hne (h.only name hn (Std.TreeMap.contains_iff_mem.2 hm))
  show ((ofList list).definitions[name]?).join = none
  rw [Std.TreeMap.getElem?_eq_none hundefined, Option.join_none]

theorem extrasOf_ne_nil (h : DefinedOnlyUnder list head definition)
    (hn : name ∈ aliasGroup list head) (hne : name ≠ definition) : extrasOf list head ≠ [] := by
  intro hextras
  have hmem := h.mem
  rw [aliasGroup, hextras, List.mem_singleton] at hn hmem
  exact hne (hn.trans hmem.symm)

end DefinedOnlyUnder

namespace PlainAliases

omit [Described Obj] in
theorem exists_mem_ne (h : PlainAliases list) (hextras : extrasOf list head ≠ [])
    (definition : String) : ∃ name ∈ aliasGroup list head, name ≠ definition := by
  -- no name is an alias of itself
  obtain ⟨extra, he⟩ := List.exists_mem_of_ne_nil _ hextras
  have hpair := mem_extrasOf.1 he
  have hapart : extra ≠ head := h.apart (head, extra) hpair (head, extra) hpair
  by_cases hhead : head = definition
  · exact ⟨extra, List.mem_cons_of_mem _ he, hhead ▸ hapart⟩
  · exact ⟨head, List.mem_cons_self, hhead⟩

theorem value_fromFactory (h : PlainAliases list) (hextras : extrasOf list head ≠ [])
    (hn : name ∈ aliasGroup list head) :
    (fromFactory (ofList list).registry name).value =
      (lastFactory list head).join.map ObjectClass.signature := by
  have hbound : (ofList list).registry (.isFactory name) = (lastFactory list head).isSome := by
    show (ofList list).factories.contains ((ofList list).canonical name) = _
    rw [h.canonical_of_mem hextras hn, Std.TreeMap.contains_eq_isSome_getElem?,
      (getElem?_entries list head).2]
  have hproduced : (ofList list).registry (.produced name) = (lastFactory list head).join := by
    show ((ofList list).factories[(ofList list).canonical name]?).join = _
    rw [h.canonical_of_mem hextras hn, (getElem?_entries list head).2]
  rw [Discovery.value_fromFactory, hbound, hproduced]
  cases lastFactory list head <;> rfl

end PlainAliases

/-! ## Discovery for a routing object -/

/-- What discovery comes to for a routing object under a name that is not that of its definition,
where `produced` is what the factory says it produces. -/
def elsewhere (produced : Option ObjectClass) (cls : ObjectClass) (declared : Signature) :
    Discovered :=
  match produced with
  | some product => ⟨product.signature, .factory⟩
  | none =>
    if cls.signature.input.isConcrete then ⟨cls.signature, .ownClass⟩ else ⟨declared, .declared⟩

variable {router : Target Obj} {declared : Signature}

theorem value_discover_router (plain : PlainAliases list)
    (only : DefinedOnlyUnder list head definition)
    (hdeclared : (ofList list).registry (.declared definition) = some declared)
    (routing : router.classOf.flags.routing = true) (hn : name ∈ aliasGroup list head) :
    (discover (ofList list).registry (.bare router) name).value =
      if name = definition then ⟨declared, .routing⟩
      else elsewhere (lastFactory list head).join router.classOf declared := by
  have hrouting : (fromRouting (ofList list).registry (.bare router) name).value =
      (ofList list).registry (.declared name) := by
    rw [fromRouting, if_pos routing, Registry.value_ask]
  rw [value_discover_bare, hrouting]
  split_ifs with hname
  · rw [hname, hdeclared]
  · have hextras := only.extrasOf_ne_nil hn hname
    have hbehind : StandsBehind (ofList list).registry name definition :=
      plain.standsBehind only.atMostOnce hextras hn only.mem only.defined
    have hoverruling : overruling? (ofList list).registry name = some declared :=
      (overruling?_eq_some ..).2 ⟨definition, hbehind, only.defined, hdeclared⟩
    rw [only.declared_eq_none hn hname, plain.value_fromFactory hextras hn]
    unfold elsewhere
    cases (lastFactory list head).join with
    | some product => rfl
    | none =>
      rw [Option.map_none, value_refineByDefinition, hoverruling]
      cases router.classOf.signature.input.isConcrete <;> rfl

/-- Under the name of its definition a routing object has the signature declared there. Under
another member of the group a factory is heard first and then its own class, so all members agree
just when these come to the same, or there are no aliases. -/
theorem discover_router_of_aliasGroup (list : List (Declaration Obj)) (plain : PlainAliases list)
    (head definition : String) (only : DefinedOnlyUnder list head definition) (declared : Signature)
    (hdeclared : (ofList list).registry (.declared definition) = some declared)
    (router : Target Obj) (routing : router.classOf.flags.routing = true) :
    let found (name : String) := (discover (ofList list).registry (.bare router) name).value
    let other := elsewhere (lastFactory list head).join router.classOf declared
    (∀ name ∈ aliasGroup list head,
        found name = if name = definition then ⟨declared, .routing⟩ else other) ∧
      ((∀ name ∈ aliasGroup list head, (found name).signature = declared) ↔
        extrasOf list head = [] ∨ other.signature = declared) := by
  intro found other
  have hfound : ∀ name ∈ aliasGroup list head,
      found name = if name = definition then ⟨declared, .routing⟩ else other :=
    fun name hn => value_discover_router plain only hdeclared routing hn
  refine ⟨hfound, fun hall => ?_, fun heither name hn => ?_⟩
  · by_cases hextras : extrasOf list head = []
    · exact .inl hextras
    · obtain ⟨name, hn, hne⟩ := plain.exists_mem_ne hextras definition
      have hsignature := hall name hn
      rw [hfound name hn, if_neg hne] at hsignature
      exact .inr hsignature
  · rw [hfound name hn]
    split_ifs with hname
    · rfl
    · exact heither.resolve_left (only.extrasOf_ne_nil hn hname)

/-- The definition is that of an alias, the factory does not say what it produces, and the class of the
routing object takes anything: the signature is declared under every name, for two different reasons. -/
theorem discover_router_of_aliasGroup_open :
    let router : Target Scripted.Object :=
      .object (.custom 0
        { name := "Router", flags := { routing := true }, generics := some ⟨.any, .named "Int"⟩ }
        none [])
    let texts : Signature := ⟨.named "String", .named "String"⟩
    let list : List (Declaration Scripted.Object) :=
      [.aliased "router" "route", .factory "router" (.bare router) none, .aliased "router" "r",
        .definition "route" (some texts)]
    let found (name : String) := (discover (ofList list).registry (.bare router) name).value
    PlainAliases list ∧ DefinedOnlyUnder list "router" "route" ∧
      (ofList list).registry (.declared "route") = some texts ∧
      router.classOf.flags.routing = true ∧
      found "route" = ⟨texts, .routing⟩ ∧ found "r" = ⟨texts, .declared⟩ ∧
      ∀ name ∈ aliasGroup list "router", (found name).signature = texts := by
  intro router texts list found
  have plain : PlainAliases list := ⟨by decide, by decide⟩
  have only : DefinedOnlyUnder list "router" "route" := ⟨by decide, by decide, by decide⟩
  have hdeclared : (ofList list).registry (.declared "route") = some texts := by decide
  obtain ⟨hfound, hall⟩ :=
    discover_router_of_aliasGroup list plain "router" "route" only texts hdeclared router rfl
  have hother : elsewhere (lastFactory list "router").join router.classOf texts =
      ⟨texts, .declared⟩ := by decide
  refine ⟨plain, only, hdeclared, rfl, hfound "route" (by decide), ?_, hall.2 (.inr ?_)⟩
  · exact (hfound "r" (by decide)).trans hother
  · rw [hother]

/-- Under an alias of its definition a routing object has the signature of its own class, which fixes
the input, or that of what the factory says it produces. -/
theorem router_under_alias_not_declared :
    let router : Target Scripted.Object :=
      .object (.custom 0
        { name := "Router", flags := { routing := true }, generics := some ⟨.named "Int", .any⟩ }
        none [])
    let texts : Signature := ⟨.named "String", .named "String"⟩
    let list : List (Declaration Scripted.Object) :=
      [.defined "router" (.bare router) (some texts), .aliased "router" "route"]
    let produced := .factory "router" (.bare router) (some { name := "Product" }) :: list
    let found (list : List (Declaration Scripted.Object)) (name : String) :=
      (discover (ofList list).registry (.bare router) name).value
    PlainAliases list ∧ DefinedOnlyUnder list "router" "router" ∧ "route" ∈ aliasGroup list "router" ∧
      (ofList list).registry (.declared "router") = some texts ∧
      router.classOf.flags.routing = true ∧
      found list "router" = ⟨texts, .routing⟩ ∧
      found list "route" = ⟨⟨.named "Int", .any⟩, .ownClass⟩ ∧
      found produced "route" = ⟨.unresolved, .factory⟩ := by
  intro router texts list produced found
  exact ⟨⟨by decide, by decide⟩, ⟨by decide, by decide, by decide⟩, by decide, by decide, rfl,
    by decide, by decide, by decide⟩

end Declarations

end NamedFunctions
