import Mathlib.Data.String.Basic
import Mathlib.Logic.Relation
import NamedFunctions.Proofs.AliasGroups

/-! # What an alias leads to

A registry that is built by declarations answers for an alias with what was declared under the name
that the alias was last declared for. It looks there and no further: if that name is an alias itself,
what its own name has is not what the alias answers with. So an alias answers as its name does if the
name is not an alias, and otherwise only if the same was declared under the name and under the one
that the name leads to. -/
namespace NamedFunctions

variable {Obj : Type}

/-! ## Answers about a name -/

namespace Registry

/-- The registry hands out the component for the name, and knows the name as bound to the factory: to
none, or to one that says what it produces or does not. -/
structure Answers (registry : Registry Obj) (name : String) (component : Option (Component Obj))
    (factory : Option (Option ObjectClass)) : Prop where
  fetch : registry (.fetch name) = component
  contains : registry (.contains name) = component.isSome
  isFactory : registry (.isFactory name) = factory.isSome
  produced : registry (.produced name) = factory.join

/-- The registry answers for both names the same. -/
structure AnswersAlike (registry : Registry Obj) (name other : String) : Prop where
  fetch : registry (.fetch name) = registry (.fetch other)
  contains : registry (.contains name) = registry (.contains other)
  isFactory : registry (.isFactory name) = registry (.isFactory other)
  produced : registry (.produced name) = registry (.produced other)

theorem answersAlike_iff {registry : Registry Obj} {name other : String}
    {component componentToo : Option (Component Obj)}
    {factory factoryToo : Option (Option ObjectClass)} (h : registry.Answers name component factory)
    (hother : registry.Answers other componentToo factoryToo) :
    registry.AnswersAlike name other ↔ component = componentToo ∧ factory = factoryToo := by
  constructor
  · intro alike
    refine ⟨h.fetch.symm.trans (alike.fetch.trans hother.fetch), ?_⟩
    have hbound := h.isFactory.symm.trans (alike.isFactory.trans hother.isFactory)
    have hproduced := h.produced.symm.trans (alike.produced.trans hother.produced)
    cases factory <;> cases factoryToo <;> simp_all
  · rintro ⟨rfl, rfl⟩
    exact ⟨h.fetch.trans hother.fetch.symm, h.contains.trans hother.contains.symm,
      h.isFactory.trans hother.isFactory.symm, h.produced.trans hother.produced.symm⟩

end Registry

/-! ## The tables in closed form -/

/-- The component that is declared under the name. -/
def Declaration.componentFor? (name : String) : Declaration Obj → Option (Component Obj)
  | .component own declared | .defined own declared _ | .factory own declared _ =>
    if own = name then some declared else none
  | .definition .. | .aliased .. | .qualifier .. => none

/-- What the factory that is declared under the name says it produces. -/
def Declaration.factoryFor? (name : String) : Declaration Obj → Option (Option ObjectClass)
  | .factory own _ produced => if own = name then some produced else none
  | .component .. | .defined .. | .definition .. | .aliased .. | .qualifier .. => none

namespace Declarations

/-- The component declared last under the name. -/
def lastComponent (list : List (Declaration Obj)) (name : String) : Option (Component Obj) :=
  list.reverse.findSome? (Declaration.componentFor? name)

/-- The factory declared last under the name. -/
def lastFactory (list : List (Declaration Obj)) (name : String) : Option (Option ObjectClass) :=
  list.reverse.findSome? (Declaration.factoryFor? name)

/-- The alias was last declared for the name. -/
def LastAliased (list : List (Declaration Obj)) (name extra : String) : Prop :=
  ∃ earlier later, list = earlier ++ .aliased name extra :: later ∧
    ∀ owner, .aliased owner extra ∉ later

theorem getElem?_insert_eq {α : Type} (table : Std.TreeMap String α) (key name : String) (entry : α) :
    (table.insert key entry)[name]? = (if key = name then some entry else none).or table[name]? := by
  rw [Std.TreeMap.getElem?_insert]
  by_cases h : key = name
  · simp [h]
  · simp [h]

theorem getElem?_entries_add (declarations : Declarations Obj) (declaration : Declaration Obj)
    (name : String) :
    (declarations.add declaration).components[name]? =
        (declaration.componentFor? name).or declarations.components[name]? ∧
      (declarations.add declaration).factories[name]? =
        (declaration.factoryFor? name).or declarations.factories[name]? := by
  cases declaration with
  | component => exact ⟨getElem?_insert_eq .., rfl⟩
  | defined => exact ⟨getElem?_insert_eq .., rfl⟩
  | factory => exact ⟨getElem?_insert_eq .., getElem?_insert_eq ..⟩
  | definition => exact ⟨rfl, rfl⟩
  | aliased => exact ⟨rfl, rfl⟩
  | qualifier => exact ⟨rfl, rfl⟩

theorem getElem?_entries (list : List (Declaration Obj)) (name : String) :
    (ofList list).components[name]? = lastComponent list name ∧
      (ofList list).factories[name]? = lastFactory list name := by
  induction list using List.reverseRecOn with
  | nil => exact ⟨rfl, rfl⟩
  | append_singleton earlier last ih =>
    obtain ⟨hcomponent, hfactory⟩ := getElem?_entries_add (ofList earlier) last name
    rw [ofList_concat, hcomponent, hfactory, ih.1, ih.2, lastComponent, lastComponent, lastFactory,
      lastFactory, List.reverse_append, List.findSome?_append, List.findSome?_append]
    simp only [List.reverse_singleton, List.findSome?_singleton, and_self]

theorem mem_aliasPairs {list : List (Declaration Obj)} {name extra : String} :
    (name, extra) ∈ aliasPairs list ↔ .aliased name extra ∈ list := by
  rw [aliasPairs, List.mem_filterMap]
  constructor
  · rintro ⟨declaration, hm, halias⟩
    cases declaration with
    | aliased => cases halias; exact hm
    | component | defined | definition | factory | qualifier => cases halias
  · exact fun hm => ⟨_, hm, rfl⟩

theorem find?_aliasPairs_eq_none {list : List (Declaration Obj)} {extra : String} :
    (aliasPairs list).reverse.find? (fun pair => pair.2 = extra) = none ↔
      ∀ owner, .aliased owner extra ∉ list := by
  simp only [List.find?_eq_none, List.mem_reverse, decide_eq_true_eq, ← mem_aliasPairs]
  constructor
  · exact fun h owner hm => h (owner, extra) hm rfl
  · rintro h ⟨owner, other⟩ hm rfl
    exact h owner hm

theorem canonical_of_unaliased {list : List (Declaration Obj)} {name : String}
    (h : ∀ owner, .aliased owner name ∉ list) : (ofList list).canonical name = name := by
  rw [canonical, Std.TreeMap.getD_eq_getD_getElem?, getElem?_aliasTargets,
    find?_aliasPairs_eq_none.2 h]
  rfl

theorem LastAliased.getElem?_aliasTargets {list : List (Declaration Obj)} {name extra : String}
    (last : LastAliased list name extra) : (ofList list).aliasTargets[extra]? = some name := by
  obtain ⟨earlier, later, rfl, hlast⟩ := last
  have hpairs : aliasPairs (earlier ++ .aliased name extra :: later) =
      aliasPairs earlier ++ (name, extra) :: aliasPairs later := by
    simp [aliasPairs, Declaration.alias?]
  rw [Declarations.getElem?_aliasTargets, hpairs]
  simp [List.find?_append, find?_aliasPairs_eq_none.2 hlast]

theorem LastAliased.canonical {list : List (Declaration Obj)} {name extra : String}
    (last : LastAliased list name extra) : (ofList list).canonical extra = name := by
  rw [Declarations.canonical, Std.TreeMap.getD_eq_getD_getElem?, last.getElem?_aliasTargets,
    Option.getD_some]

theorem exists_lastAliased {list : List (Declaration Obj)} {owner extra : String}
    (h : .aliased owner extra ∈ list) : ∃ name, LastAliased list name extra := by
  induction list using List.reverseRecOn with
  | nil => simp at h
  | append_singleton earlier last ih =>
    by_cases hlast : ∃ name, last = .aliased name extra
    · obtain ⟨name, rfl⟩ := hlast
      exact ⟨name, earlier, [], rfl, by simp⟩
    · have hm : .aliased owner extra ∈ earlier := by
        rcases List.mem_append.1 h with hm | hm
        · exact hm
        · exact (hlast ⟨owner, (List.mem_singleton.1 hm).symm⟩).elim
      obtain ⟨name, before, after, rfl, hnone⟩ := ih hm
      refine ⟨name, before, after ++ [last], by simp, fun other ho => ?_⟩
      rcases List.mem_append.1 ho with ho | ho
      · exact hnone other ho
      · exact hlast ⟨other, (List.mem_singleton.1 ho).symm⟩

/-! ## Following an alias -/

variable [Described Obj]

theorem answers_canonical (list : List (Declaration Obj)) (name : String) :
    let target := (ofList list).canonical name
    (ofList list).registry.Answers name (lastComponent list target) (lastFactory list target) := by
  intro target
  obtain ⟨hcomponent, hfactory⟩ := getElem?_entries list target
  rw [← hcomponent, ← hfactory]
  exact ⟨rfl, rfl, Std.TreeMap.contains_eq_isSome_getElem?, rfl⟩

/-- An alias is followed once, to what was declared last under the name it was last declared for.
So is the name itself answered for, unless it is an alias whose own name has something else
declared. -/
theorem alias_leads_to_entry (list : List (Declaration Obj)) (name extra : String)
    (last : LastAliased list name extra) :
    let registry := (ofList list).registry
    registry.Answers extra (lastComponent list name) (lastFactory list name) ∧
      (registry.AnswersAlike extra name ↔ ∀ owner, LastAliased list owner name →
        lastComponent list name = lastComponent list owner ∧
          lastFactory list name = lastFactory list owner) ∧
      ((∀ owner, .aliased owner name ∉ list) → registry.AnswersAlike extra name) := by
  intro registry
  have hextra : registry.Answers extra (lastComponent list name) (lastFactory list name) := by
    have hanswers := answers_canonical list extra
    rwa [last.canonical] at hanswers
  have halike := Registry.answersAlike_iff hextra (answers_canonical list name)
  refine ⟨hextra, halike.trans ⟨fun h owner howner => ?_, fun h => ?_⟩, fun hunaliased => ?_⟩
  · rwa [howner.canonical] at h
  · by_cases haliased : ∃ owner, .aliased owner name ∈ list
    · obtain ⟨owner, hm⟩ := haliased
      obtain ⟨target, htarget⟩ := exists_lastAliased hm
      rw [htarget.canonical]
      exact h target htarget
    · rw [canonical_of_unaliased fun owner hm => haliased ⟨owner, hm⟩]
      exact ⟨rfl, rfl⟩
  · rw [halike, canonical_of_unaliased hunaliased]
    exact ⟨rfl, rfl⟩

/-- `b` was declared for another name first, and for `a` before there was an `a`; `d` is an alias of an
alias that has the same component as the name it leads to. -/
theorem alias_leads_to_entry_early :
    let upper : Component Scripted.Object :=
      .bare (.object (.function 0 ⟨.transform, "Upper", .upper, none, {}⟩))
    let list : List (Declaration Scripted.Object) :=
      [.aliased "z" "b", .aliased "a" "b", .factory "a" upper none, .component "c" upper,
        .component "e" upper, .aliased "e" "c", .aliased "c" "d"]
    let registry := (ofList list).registry
    (LastAliased list "a" "b" ∧ (∀ owner, .aliased owner "a" ∉ list) ∧
        registry.AnswersAlike "b" "a" ∧ registry (.isFactory "b") = true) ∧
      LastAliased list "c" "d" ∧ LastAliased list "e" "c" ∧ registry.AnswersAlike "d" "c" ∧
        registry (.fetch "d") = some upper := by
  intro upper list registry
  have hb : LastAliased list "a" "b" :=
    ⟨[.aliased "z" "b"], [.factory "a" upper none, .component "c" upper, .component "e" upper,
      .aliased "e" "c", .aliased "c" "d"], rfl, by simp⟩
  have hc : LastAliased list "e" "c" := ⟨list.take 5, [.aliased "c" "d"], rfl, by simp⟩
  have hd : LastAliased list "c" "d" := ⟨list.dropLast, [], rfl, by simp⟩
  have ha : ∀ owner, .aliased owner "a" ∉ list := by simp [list]
  obtain ⟨hentry, -, halike⟩ := alias_leads_to_entry list "a" "b" hb
  obtain ⟨hentryToo, halikeToo, -⟩ := alias_leads_to_entry list "c" "d" hd
  refine ⟨⟨hb, ha, halike ha, hentry.isFactory⟩, hd, hc, halikeToo.2 fun owner howner => ?_,
    hentryToo.fetch⟩
  obtain rfl : "e" = owner := hc.canonical.symm.trans howner.canonical
  exact ⟨rfl, rfl⟩

/-- Aliases without a cycle do not all answer as their names do: `b` answers as `a` does, but its alias
`c` leads to nothing. -/
theorem alias_of_alias_not_followed :
    let upper : Component Scripted.Object :=
      .bare (.object (.function 0 ⟨.transform, "Upper", .upper, none, {}⟩))
    let list : List (Declaration Scripted.Object) :=
      [.component "a" upper, .aliased "a" "b", .aliased "b" "c"]
    let registry := (ofList list).registry
    LastAliased list "b" "c" ∧
      (∀ name, ¬Relation.TransGen (fun owner extra => .aliased owner extra ∈ list) name name) ∧
      registry (.contains "b") = true ∧ registry (.fetch "b") = some upper ∧
      registry (.contains "c") = false ∧ registry (.fetch "c") = none := by
  intro upper list registry
  have hascending : ∀ owner extra, .aliased owner extra ∈ list → owner < extra := by
    intro owner extra hm
    have hpair : owner = "a" ∧ extra = "b" ∨ owner = "b" ∧ extra = "c" := by simpa [list] using hm
    rcases hpair with ⟨rfl, rfl⟩ | ⟨rfl, rfl⟩ <;> decide
  have hacyclic (name : String) :
      ¬Relation.TransGen (fun owner extra => .aliased owner extra ∈ list) name name := by
    intro hcycle
    have hless : Relation.TransGen (· < ·) name name := Relation.TransGen.mono hascending _ _ hcycle
    rw [Relation.transGen_eq_self] at hless
    exact lt_irrefl name hless
  have hfetch : registry (.fetch "b") = some upper := by
    unfold registry list upper
    rfl
  exact ⟨⟨list.take 2, [], rfl, by simp⟩, hacyclic, by decide, hfetch, by decide,
    Option.isNone_iff_eq_none.1 (by decide)⟩

end Declarations

end NamedFunctions
