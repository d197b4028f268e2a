import Mathlib.Data.List.Induction
import NamedFunctions.Proofs.DiscoveryPriority

/-! # Alias groups of declared registries

A run of declarations gives a name further names, and keeps two tables of them: one leads from an
alias to the name it was last declared for, the other lists the aliases of a name. Both are read off
the run in closed form. As long as no alias has aliases of its own and none is shared between two
names, the tables agree on groups, a name together with its aliases, and every member of a group
sees the others. Discovery then comes to the same signature by the same rule, whichever member a
candidate is to be registered under, provided that no two members have a definition. -/
namespace NamedFunctions

variable {Obj : Type}

/-- The name and the alias of an alias declaration. -/
def Declaration.alias? : Declaration Obj → Option (String × String)
  | .aliased name extra => some (name, extra)
  | .component .. | .defined .. | .definition .. | .factory .. | .qualifier .. => none

namespace Declarations

/-! ## The two tables -/

/-- The names and aliases that a run declares, in order. -/
def aliasPairs (list : List (Declaration Obj)) : List (String × String) :=
  list.filterMap Declaration.alias?

/-- The aliases that a run declares for a name, in order. -/
def extrasOf (list : List (Declaration Obj)) (name : String) : List String :=
  ((aliasPairs list).filter fun pair => pair.1 = name).map Prod.snd

/-- A name together with its aliases. -/
def aliasGroup (list : List (Declaration Obj)) (head : String) : List String :=
  head :: extrasOf list head

theorem mem_extrasOf {list : List (Declaration Obj)} {name extra : String} :
    extra ∈ extrasOf list name ↔ (name, extra) ∈ aliasPairs list := by
  simp [extrasOf]

theorem aliasPairs_concat (list : List (Declaration Obj)) (last : Declaration Obj) :
    aliasPairs (list ++ [last]) = aliasPairs list ++ last.alias?.toList := by
  rw [aliasPairs, List.filterMap_append]
  cases h : last.alias? <;> simp [aliasPairs, h]

theorem extrasOf_concat (list : List (Declaration Obj)) (last : Declaration Obj) (name : String) :
    extrasOf (list ++ [last]) name =
      extrasOf list name ++ ((last.alias?.toList.filter fun pair => pair.1 = name).map Prod.snd) := by
  rw [extrasOf, aliasPairs_concat, List.filter_append, List.map_append, extrasOf]

/-- What an alias declaration enters in the tables, and that no other declaration enters anything. -/
theorem aliasTables_add (declarations : Declarations Obj) (declaration : Declaration Obj) :
    let after := declarations.add declaration
    match declaration.alias? with
    | none => after.aliasTargets = declarations.aliasTargets ∧
        after.aliasGroups = declarations.aliasGroups
    | some (name, extra) => after.aliasTargets = declarations.aliasTargets.insert extra name ∧
        after.aliasGroups = push declarations.aliasGroups name extra := by
  cases declaration <;> exact ⟨rfl, rfl⟩

theorem getElem?_aliasTargets (list : List (Declaration Obj)) (extra : String) :
    (ofList list).aliasTargets[extra]? =
      ((aliasPairs list).reverse.find? fun pair => pair.2 = extra).map Prod.fst := by
  induction list using List.reverseRecOn with
  | nil => rfl
  | append_singleton earlier last ih =>
    rw [ofList_concat, aliasPairs_concat, List.reverse_append]
    have htables := aliasTables_add (ofList earlier) last
    cases h : last.alias? with
    | none =>
      simp only [h] at htables
      rw [htables.1, ih]
      rfl
    | some pair =>
      obtain ⟨name, latest⟩ := pair
      simp only [h] at htables
      rw [htables.1, Std.TreeMap.getElem?_insert, ih]
      by_cases he : latest = extra
      · simp [he]
      · simp [he]

theorem getElem?_aliasGroups (list : List (Declaration Obj)) (name : String) :
    (ofList list).aliasGroups[name]? =
      if extrasOf list name = [] then none else some (extrasOf list name) := by
  induction list using List.reverseRecOn with
  | nil => rfl
  | append_singleton earlier last ih =>
    rw [ofList_concat, extrasOf_concat]
    have htables := aliasTables_add (ofList earlier) last
    cases h : last.alias? with
    | none =>
      simp only [h] at htables
      rw [htables.2, ih]
      simp
    | some pair =>
      obtain ⟨owner, extra⟩ := pair
      simp only [h] at htables
      rw [htables.2, push, Std.TreeMap.getElem?_insert]
      by_cases he : owner = name
      · subst he
        have hlisted : (ofList earlier).aliasGroups.getD owner [] = extrasOf earlier owner := by
          rw [Std.TreeMap.getD_eq_getD_getElem?, ih]
          split
          · next hnone => rw [hnone, Option.getD_none]
          · rw [Option.getD_some]
        simp [hlisted]
      · simp [he, ih]

theorem aliasesOf_ofList (list : List (Declaration Obj)) (name : String) :
    (ofList list).aliasesOf name =
      if extrasOf list ((ofList list).canonical name) = [] then []
      else (aliasGroup list ((ofList list).canonical name)).filter (· ≠ name) := by
  rw [aliasesOf, getElem?_aliasGroups]
  by_cases hnone : extrasOf list ((ofList list).canonical name) = []
  · simp [hnone]
  · simp [hnone, aliasGroup]

theorem mem_aliasesOf {list : List (Declaration Obj)} {name other : String} :
    other ∈ (ofList list).aliasesOf name ↔
      other ≠ name ∧ extrasOf list ((ofList list).canonical name) ≠ [] ∧
        other ∈ aliasGroup list ((ofList list).canonical name) := by
  rw [aliasesOf_ofList]
  split
  · next hnone => simp [hnone]
  · next hextras => simp [hextras, and_comm]

/-! ## Groups -/

/-- No string is used both as an alias and as a name that has aliases, and no alias is given to two
names. -/
structure PlainAliases (list : List (Declaration Obj)) : Prop where
  apart : ∀ pair ∈ aliasPairs list, ∀ other ∈ aliasPairs list, pair.2 ≠ other.1
  unshared : ∀ pair ∈ aliasPairs list, ∀ other ∈ aliasPairs list, pair.2 = other.2 →
    pair.1 = other.1

namespace PlainAliases

variable {list : List (Declaration Obj)} {head name other : String}

theorem canonical_of_alias (h : PlainAliases list) (hm : (head, name) ∈ aliasPairs list) :
    (ofList list).canonical name = head := by
  rw [canonical, Std.TreeMap.getD_eq_getD_getElem?, getElem?_aliasTargets]
  cases hfind : (aliasPairs list).reverse.find? fun pair => pair.2 = name with
  | none => simpa using List.find?_eq_none.1 hfind (head, name) (List.mem_reverse.2 hm)
  | some found =>
    have hfound := List.mem_reverse.1 (List.mem_of_find?_eq_some hfind)
    have hname : found.2 = name := by simpa using List.find?_some hfind
    exact h.unshared found hfound (head, name) hm hname

theorem canonical_of_head (h : PlainAliases list) (hm : (head, name) ∈ aliasPairs list) :
    (ofList list).canonical head = head := by
  rw [canonical, Std.TreeMap.getD_eq_getD_getElem?, getElem?_aliasTargets]
  cases hfind : (aliasPairs list).reverse.find? fun pair => pair.2 = head with
  | none => rfl
  | some found =>
    have hfound := List.mem_reverse.1 (List.mem_of_find?_eq_some hfind)
    have hhead : found.2 = head := by simpa using List.find?_some hfind
    exact (h.apart found hfound (head, name) hm hhead).elim

theorem canonical_of_mem (h : PlainAliases list) (hextras : extrasOf list head ≠ [])
    (hn : name ∈ aliasGroup list head) : (ofList list).canonical name = head := by
  rcases List.mem_cons.1 hn with rfl | hn
  · obtain ⟨extra, he⟩ := List.exists_mem_of_ne_nil _ hextras
    exact h.canonical_of_head (mem_extrasOf.1 he)
  · exact h.canonical_of_alias (mem_extrasOf.1 hn)

theorem mem_aliasesOf_iff (h : PlainAliases list) (hextras : extrasOf list head ≠ [])
    (hn : name ∈ aliasGroup list head) :
    other ∈ (ofList list).aliasesOf name ↔ other ≠ name ∧ other ∈ aliasGroup list head := by
  rw [mem_aliasesOf, h.canonical_of_mem hextras hn]
  exact and_congr_right fun _ => and_iff_right hextras

theorem eq_or_mem_aliasesOf_iff (h : PlainAliases list) (hextras : extrasOf list head ≠ [])
    (hn : name ∈ aliasGroup list head) :
    other = name ∨ other ∈ (ofList list).aliasesOf name ↔ other ∈ aliasGroup list head := by
  rw [h.mem_aliasesOf_iff hextras hn]
  by_cases he : other = name
  · simp [he, hn]
  · simp [he]

end PlainAliases

/-! ## Discovery within a group -/

variable [Described Obj]

open Discovery

/-- At most one member of the group has a definition. -/
def DefinedAtMostOnce (list : List (Declaration Obj)) (head : String) : Prop :=
  ∀ name ∈ aliasGroup list head, ∀ other ∈ aliasGroup list head,
    (ofList list).registry (.hasDefinition name) = true →
      (ofList list).registry (.hasDefinition other) = true → name = other

namespace PlainAliases

variable {list : List (Declaration Obj)} {head name other : String}

theorem mem_of_standsBehind {definition : String} (h : PlainAliases list)
    (hextras : extrasOf list head ≠ []) (hn : name ∈ aliasGroup list head)
    (hbehind : StandsBehind (ofList list).registry name definition) :
    definition ∈ aliasGroup list head := by
  cases hbehind with
  | ofAlias hlist hbefore hdefined =>
    have hm : definition ∈ (ofList list).registry (.aliases name) := by simp [hlist]
    exact ((h.mem_aliasesOf_iff hextras hn).1 hm).2
  | ofName => exact hn

/-- The one definition of a group stands behind all its members. -/
theorem standsBehind (h : PlainAliases list) (once : DefinedAtMostOnce list head)
    (hextras : extrasOf list head ≠ []) (hn : name ∈ aliasGroup list head) {definition : String}
    (hm : definition ∈ aliasGroup list head)
    (hdefined : (ofList list).registry (.hasDefinition definition) = true) :
    StandsBehind (ofList list).registry name definition := by
  obtain ⟨behind, hbehind⟩ : ∃ behind, StandsBehind (ofList list).registry name behind :=
    ⟨_, (standsBehind_iff ..).2 rfl⟩
  have hgroup := h.mem_of_standsBehind hextras hn hbehind
  have hsame : behind = definition := by
    cases hbehind with
    | ofAlias _ _ hd => exact once _ hgroup _ hm hd hdefined
    | ofName hnone =>
      -- no alias of the name is defined, so that the defined member is the name itself
      by_contra hne
      have hundefined := hnone definition ((h.mem_aliasesOf_iff hextras hn).2 ⟨Ne.symm hne, hm⟩)
      rw [hdefined] at hundefined
      cases hundefined
  rwa [hsame] at hbehind

theorem overruling?_eq (h : PlainAliases list) (once : DefinedAtMostOnce list head)
    (hextras : extrasOf list head ≠ []) (hn : name ∈ aliasGroup list head)
    (ho : other ∈ aliasGroup list head) :
    overruling? (ofList list).registry name = overruling? (ofList list).registry other := by
  refine Option.ext fun signature => ?_
  have hpasses : ∀ {a b : String}, a ∈ aliasGroup list head → b ∈ aliasGroup list head →
      overruling? (ofList list).registry a = some signature →
      overruling? (ofList list).registry b = some signature := by
    intro a b ha hb hoverruling
    obtain ⟨definition, hbehind, hdefined, hdeclared⟩ := (overruling?_eq_some ..).1 hoverruling
    have hm := h.mem_of_standsBehind hextras ha hbehind
    exact (overruling?_eq_some ..).2
      ⟨definition, h.standsBehind once hextras hb hm hdefined, hdefined, hdeclared⟩
  exact ⟨hpasses hn ho, hpasses ho hn⟩

end PlainAliases

/-- Discovery comes to the same signature from the same source under each member of a group that
has at most one definition, for a registration and for any target that is no routing object. -/
theorem discover_of_aliasGroup (list : List (Declaration Obj)) (plain : PlainAliases list)
    (head : String) (once : DefinedAtMostOnce list head) (candidate : Component Obj)
    (unrouted : ∀ target, candidate = .bare target → target.classOf.flags.routing = false)
    (name other : String) (hn : name ∈ aliasGroup list head) (ho : other ∈ aliasGroup list head) :
    let registry := (ofList list).registry
    (discover registry candidate name).value = (discover registry candidate other).value ∧
      ∀ member, (member = name ∨ member ∈ registry (.aliases name)) ↔
        (member = other ∨ member ∈ registry (.aliases other)) := by
  intro registry
  by_cases hextras : extrasOf list head = []
  · -- the head is alone in its group
    rw [aliasGroup, hextras, List.mem_singleton] at hn ho
    subst hn ho
    exact ⟨rfl, fun _ => Iff.rfl⟩
  · refine ⟨?_, ?_⟩
    · cases candidate with
      | registration r => rfl
      | bare target =>
        have hcanonical : (ofList list).canonical name = (ofList list).canonical other := by
          rw [plain.canonical_of_mem hextras hn, plain.canonical_of_mem hextras ho]
        refine value_discover_bare_congr ?_ ?_ ?_ ?_
        · intro hrouting
          rw [unrouted target rfl] at hrouting
          cases hrouting
        · exact congrArg (ofList list).factories.contains hcanonical
        · exact congrArg (fun key => ((ofList list).factories[key]?).join) hcanonical
        · exact fun _ => plain.overruling?_eq once hextras hn ho
    · intro member
      exact (plain.eq_or_mem_aliasesOf_iff hextras hn).trans
        (plain.eq_or_mem_aliasesOf_iff hextras ho).symm

/-- An alias that is declared twice has the definition; the factory is bound to the head of the group
but does not say what it produces. -/
theorem discover_of_aliasGroup_sum :
    let adder : Target Scripted.Object :=
      .object (.custom 0 { name := "Adder", capabilities := .only .transform } (some .identity) [])
    let ints : Signature := ⟨.named "Int", .named "Int"⟩
    let list : List (Declaration Scripted.Object) :=
      [.aliased "add" "sum", .factory "add" (.bare adder) none, .aliased "add" "plus",
        .definition "plus" (some ints), .aliased "add" "sum", .aliased "other" "else"]
    let registry := (ofList list).registry
    PlainAliases list ∧ DefinedAtMostOnce list "add" ∧
      "sum" ∈ aliasGroup list "add" ∧ "plus" ∈ aliasGroup list "add" ∧
      (discover registry (.bare adder) "plus").value = ⟨ints, .declared⟩ ∧
      (discover registry (.bare adder) "sum").value = ⟨ints, .declared⟩ ∧
      ∀ member, (member = "sum" ∨ member ∈ registry (.aliases "sum")) ↔
        (member = "plus" ∨ member ∈ registry (.aliases "plus")) := by
  intro adder ints list registry
  have plain : PlainAliases list := ⟨by decide, by decide⟩
  have once : DefinedAtMostOnce list "add" := by
    unfold DefinedAtMostOnce
    decide
  have hsum : "sum" ∈ aliasGroup list "add" := by decide
  have hplus : "plus" ∈ aliasGroup list "add" := by decide
  have unrouted : ∀ target, Component.bare adder = .bare target →
      target.classOf.flags.routing = false := by
    intro target h
    cases h
    rfl
  obtain ⟨hsame, hmembers⟩ :=
    discover_of_aliasGroup list plain "add" once (.bare adder) unrouted "sum" "plus" hsum hplus
  have hfound : (discover registry (.bare adder) "plus").value = ⟨ints, .declared⟩ := by decide
  exact ⟨plain, once, hsum, hplus, hfound, hsame.trans hfound, hmembers⟩

end Declarations

end NamedFunctions
