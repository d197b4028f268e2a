import Mathlib.Data.List.Nodup
import NamedFunctions.Proofs.AliasResolution

/-! # The two tables of aliases

An alias declaration is entered twice: one table has the name that an alias leads to, the other lists
the aliases of a name. To declare an alias anew replaces its entry in the first table, while the second
keeps what it has and lists the alias once more. So an alias is always listed for the name that it
leads to, but it also stays listed for every name that it led to before. The tables agree exactly if
no alias is declared twice. That the names of a group lead to one name takes more: the name that an
alias is declared for must not be an alias itself. -/
namespace NamedFunctions

variable {Obj : Type}

namespace Declarations

/-- The aliases listed for a name. -/
def listedFor (declarations : Declarations Obj) (name : String) : List String :=
  declarations.aliasGroups.getD name []

/-- An alias is listed for the name that it leads to, once, and for no other name. -/
structure TablesAgree (declarations : Declarations Obj) : Prop where
  leads_iff : ∀ name extra,
    declarations.aliasTargets[extra]? = some name ↔ extra ∈ declarations.listedFor name
  once : ∀ name extra, extra ∈ declarations.listedFor name →
    (declarations.listedFor name).count extra = 1
  apart : ∀ name other extra, extra ∈ declarations.listedFor name →
    extra ∈ declarations.listedFor other → name = other

/-- The other names of a group lead to where the name itself leads, and each is given once. -/
structure GroupsAgree (declarations : Declarations Obj) : Prop where
  canonical_eq : ∀ name other, other ∈ declarations.aliasesOf name →
    declarations.canonical other = declarations.canonical name
  nodup : ∀ name, (declarations.aliasesOf name).Nodup

/-- The aliases that a run declares, in order, each as often as it is declared. -/
def declaredAliases (list : List (Declaration Obj)) : List String :=
  (aliasPairs list).map Prod.snd

variable {list : List (Declaration Obj)} {name extra : String}

/-! ## What the tables hold -/

theorem listedFor_ofList (list : List (Declaration Obj)) (name : String) :
    (ofList list).listedFor name = extrasOf list name := by
  rw [listedFor, Std.TreeMap.getD_eq_getD_getElem?, getElem?_aliasGroups]
  split
  · next hnone => rw [hnone, Option.getD_none]
  · rw [Option.getD_some]

theorem mem_listedFor : extra ∈ (ofList list).listedFor name ↔ .aliased name extra ∈ list := by
  rw [listedFor_ofList, mem_extrasOf, mem_aliasPairs]

theorem count_listedFor (list : List (Declaration Obj)) (name extra : String) :
    ((ofList list).listedFor name).count extra = (aliasPairs list).count (name, extra) := by
  rw [listedFor_ofList, extrasOf, List.count, List.countP_map, List.countP_filter, List.count]
  congr 1
  funext pair
  rw [Bool.eq_iff_iff]
  simp [Prod.ext_iff, and_comm]

theorem mem_declaredAliases : extra ∈ declaredAliases list ↔ ∃ owner, .aliased owner extra ∈ list := by
  simp [declaredAliases, mem_aliasPairs]

theorem LastAliased.mem (last : LastAliased list name extra) : .aliased name extra ∈ list := by
  obtain ⟨earlier, later, rfl, -⟩ := last
  exact List.mem_append_right _ List.mem_cons_self

theorem LastAliased.unique {other : String} (last : LastAliased list name extra)
    (lastToo : LastAliased list other extra) : name = other :=
  last.canonical.symm.trans lastToo.canonical

theorem lastAliased_canonical (h : name ∈ declaredAliases list) :
    LastAliased list ((ofList list).canonical name) name := by
  obtain ⟨owner, hm⟩ := mem_declaredAliases.1 h
  obtain ⟨target, htarget⟩ := exists_lastAliased hm
  rwa [htarget.canonical]

theorem getElem?_aliasTargets_eq_some :
    (ofList list).aliasTargets[extra]? = some name ↔ LastAliased list name extra := by
  refine ⟨fun h => ?_, LastAliased.getElem?_aliasTargets⟩
  rw [getElem?_aliasTargets] at h
  obtain ⟨⟨owner, latest⟩, hfind, -⟩ := Option.map_eq_some_iff.1 h
  have hlatest : latest = extra := by simpa using List.find?_some hfind
  have hm := mem_aliasPairs.1 (List.mem_reverse.1 (List.mem_of_find?_eq_some hfind))
  obtain ⟨target, htarget⟩ := exists_lastAliased (hlatest ▸ hm)
  have hsame := htarget.getElem?_aliasTargets
  rw [getElem?_aliasTargets, h, Option.some.injEq] at hsame
  exact hsame ▸ htarget

/-- An alias that is listed for a name and leads to another was declared for the other later. -/
theorem listed_not_leading_iff :
    extra ∈ (ofList list).listedFor name ∧ (ofList list).aliasTargets[extra]? ≠ some name ↔
      .aliased name extra ∈ list ∧ ∃ owner, owner ≠ name ∧ LastAliased list owner extra := by
  rw [mem_listedFor, ne_eq, getElem?_aliasTargets_eq_some]
  refine and_congr_right fun hm => ⟨fun hnot => ?_, ?_⟩
  · obtain ⟨owner, howner⟩ := exists_lastAliased hm
    exact ⟨owner, fun he => hnot (he ▸ howner), howner⟩
  · rintro ⟨owner, hne, howner⟩ hlast
    exact hne (howner.unique hlast)

/-! ## When the tables agree -/

theorem eq_of_nodup_declaredAliases (once : (declaredAliases list).Nodup) {other : String}
    (hname : .aliased name extra ∈ list) (hother : .aliased other extra ∈ list) : name = other := by
  have hpair := List.inj_on_of_nodup_map once (mem_aliasPairs.2 hname) (mem_aliasPairs.2 hother) rfl
  exact congrArg Prod.fst hpair

theorem TablesAgree.nodup_declaredAliases (h : (ofList list).TablesAgree) :
    (declaredAliases list).Nodup := by
  have hpairs : (aliasPairs list).Nodup := by
    refine List.nodup_iff_count_le_one.2 fun ⟨owner, latest⟩ => ?_
    rw [← count_listedFor]
    by_cases hm : latest ∈ (ofList list).listedFor owner
    · exact (h.once owner latest hm).le
    · rw [List.count_eq_zero_of_not_mem hm]
      exact Nat.zero_le 1
  refine hpairs.map_on ?_
  rintro ⟨owner, latest⟩ hm ⟨other, same⟩ ho he
  obtain rfl : latest = same := he
  have hlisted := mem_listedFor.2 (mem_aliasPairs.1 hm)
  have hlistedToo := mem_listedFor.2 (mem_aliasPairs.1 ho)
  rw [h.apart owner other latest hlisted hlistedToo]

theorem nodup_extrasOf (once : (declaredAliases list).Nodup) (name : String) :
    (extrasOf list name).Nodup :=
  once.sublist (List.filter_sublist.map Prod.snd)

theorem tablesAgree_iff : (ofList list).TablesAgree ↔ (declaredAliases list).Nodup := by
  refine ⟨TablesAgree.nodup_declaredAliases, fun once => ⟨?_, ?_, ?_⟩⟩
  · intro name extra
    rw [getElem?_aliasTargets_eq_some, mem_listedFor]
    refine ⟨LastAliased.mem, fun hm => ?_⟩
    obtain ⟨owner, howner⟩ := exists_lastAliased hm
    exact eq_of_nodup_declaredAliases once howner.mem hm ▸ howner
  · intro name extra hm
    rw [listedFor_ofList] at hm ⊢
    exact List.count_eq_one_of_mem (nodup_extrasOf once name) hm
  · intro name other extra hm ho
    exact eq_of_nodup_declaredAliases once (mem_listedFor.1 hm) (mem_listedFor.1 ho)

/-! ## When the groups agree -/

/-- The name that an alias is declared for is no alias, unless the alias is declared for itself. -/
def Unchained (list : List (Declaration Obj)) : Prop :=
  ∀ name extra, .aliased name extra ∈ list → extra ≠ name → name ∉ declaredAliases list

theorem canonical_of_notMem (h : name ∉ declaredAliases list) : (ofList list).canonical name = name :=
  canonical_of_unaliased fun owner hm => h (mem_declaredAliases.2 ⟨owner, hm⟩)

theorem aliased_of_canonical_ne (h : (ofList list).canonical name ≠ name) :
    .aliased ((ofList list).canonical name) name ∈ list := by
  by_cases haliased : name ∈ declaredAliases list
  · exact (lastAliased_canonical haliased).mem
  · exact (h (canonical_of_notMem haliased)).elim

theorem TablesAgree.canonical_of_mem (h : (ofList list).TablesAgree)
    (hm : .aliased name extra ∈ list) : (ofList list).canonical extra = name :=
  (getElem?_aliasTargets_eq_some.1 ((h.leads_iff name extra).2 (mem_listedFor.2 hm))).canonical

theorem GroupsAgree.unchained (h : (ofList list).GroupsAgree) (tables : (ofList list).TablesAgree) :
    Unchained list := by
  intro name extra hm hne haliased
  obtain ⟨owner, howner⟩ := mem_declaredAliases.1 haliased
  have hextra := tables.canonical_of_mem hm
  have hlisted : extrasOf list name ≠ [] :=
    List.ne_nil_of_mem (mem_extrasOf.2 (mem_aliasPairs.2 hm))
  have hname : name ∈ (ofList list).aliasesOf extra := by
    rw [mem_aliasesOf, hextra]
    exact ⟨hne.symm, hlisted, List.mem_cons_self⟩
  have howns : owner = name := by
    rw [← tables.canonical_of_mem howner, h.canonical_eq extra name hname, hextra]
  -- an alias of itself stands in its own group twice
  have hself : name ∈ extrasOf list name := mem_extrasOf.2 (mem_aliasPairs.2 (howns ▸ howner))
  have hkept : decide (name ≠ extra) = true := decide_eq_true hne.symm
  have hnodup := h.nodup extra
  rw [aliasesOf_ofList, hextra, if_neg hlisted, aliasGroup, List.filter_cons, if_pos hkept,
    List.nodup_cons] at hnodup
  exact hnodup.1 (List.mem_filter.2 ⟨hself, hkept⟩)

theorem Unchained.groupsAgree (h : Unchained list) (once : (declaredAliases list).Nodup) :
    (ofList list).GroupsAgree where
  canonical_eq name other hm := by
    obtain ⟨hne, -, hgroup⟩ := mem_aliasesOf.1 hm
    rcases List.mem_cons.1 hgroup with rfl | hextra
    · exact canonical_of_notMem (h _ name (aliased_of_canonical_ne hne) hne.symm)
    · exact (tablesAgree_iff.2 once).canonical_of_mem (mem_aliasPairs.1 (mem_extrasOf.1 hextra))
  nodup name := by
    rw [aliasesOf_ofList]
    split
    · exact List.nodup_nil
    · have hextras := nodup_extrasOf once ((ofList list).canonical name)
      by_cases hself : (ofList list).canonical name = name
      · -- the name is the head of its group, which is left out
        rw [aliasGroup, List.filter_cons, if_neg (by simp [hself])]
        exact hextras.filter _
      · have hunaliased := h _ name (aliased_of_canonical_ne hself) (Ne.symm hself)
        have hunlisted : (ofList list).canonical name ∉ extrasOf list ((ofList list).canonical name) :=
          fun hm => hunaliased (mem_declaredAliases.2 ⟨_, mem_aliasPairs.1 (mem_extrasOf.1 hm)⟩)
        exact (List.nodup_cons.2 ⟨hunlisted, hextras⟩).filter _

/-! ## How far the tables drift apart -/

/-- A name lists an alias as often as it was declared for it, and the alias leads to the last of
these names. The tables agree just when no alias was declared twice; the groups do when, besides,
none was declared for another. -/
theorem tables_agree_iff (list : List (Declaration Obj)) :
    let declarations := ofList list
    (∀ name extra, declarations.aliasTargets[extra]? = some name →
        extra ∈ declarations.listedFor name) ∧
      (∀ name extra,
        (declarations.listedFor name).count extra = (aliasPairs list).count (name, extra)) ∧
      (∀ name extra,
        extra ∈ declarations.listedFor name ∧ declarations.aliasTargets[extra]? ≠ some name ↔
          .aliased name extra ∈ list ∧ ∃ owner, owner ≠ name ∧ LastAliased list owner extra) ∧
      (declarations.TablesAgree ↔ (declaredAliases list).Nodup) ∧
      (declarations.TablesAgree ∧ declarations.GroupsAgree ↔
        (declaredAliases list).Nodup ∧ Unchained list) := by
  intro declarations
  refine ⟨fun name extra h => ?_, count_listedFor list, fun _ _ => listed_not_leading_iff,
    tablesAgree_iff, ?_⟩
  · exact mem_listedFor.2 (getElem?_aliasTargets_eq_some.1 h).mem
  · constructor
    · rintro ⟨tables, groups⟩
      exact ⟨tables.nodup_declaredAliases, groups.unchained tables⟩
    · rintro ⟨once, unchained⟩
      exact ⟨tablesAgree_iff.2 once, unchained.groupsAgree once⟩

/-- Two aliases of one name, and a name that is an alias of itself and has no other. -/
theorem tables_agree_iff_self :
    let list : List (Declaration Scripted.Object) :=
      [.aliased "add" "sum", .aliased "self" "self", .aliased "add" "plus"]
    let declarations := ofList list
    (declaredAliases list).Nodup ∧ Unchained list ∧
      declarations.aliasTargets["sum"]? = some "add" ∧ "sum" ∈ declarations.listedFor "add" ∧
      declarations.TablesAgree ∧ declarations.GroupsAgree ∧
      declarations.aliasesOf "plus" = ["add", "sum"] ∧ declarations.aliasesOf "self" = [] := by
  intro list declarations
  have once : (declaredAliases list).Nodup := by decide
  have unchained : Unchained list := by
    intro name extra hm hne
    have hpair : name = "add" ∨ name = "self" ∧ extra = "self" := by
      have hcases := mem_aliasPairs.2 hm
      simp [list, aliasPairs, Declaration.alias?] at hcases
      tauto
    rcases hpair with rfl | ⟨rfl, rfl⟩
    · decide
    · exact (hne rfl).elim
  have hleads : declarations.aliasTargets["sum"]? = some "add" := by decide
  obtain ⟨hlisted, -, -, -, hboth⟩ := tables_agree_iff list
  obtain ⟨tables, groups⟩ := hboth.2 ⟨once, unchained⟩
  exact ⟨once, unchained, hleads, hlisted "add" "sum" hleads, tables, groups, by decide, by decide⟩

/-- An alias that is moved stays in the group that it was in, and its definition stands behind the
head of that group; declared once more, it is in its own group twice. -/
theorem moved_alias_stays_listed :
    let list : List (Declaration Scripted.Object) :=
      [.aliased "a" "x", .aliased "b" "x", .aliased "b" "x", .definition "x" none]
    let declarations := ofList list
    declarations.aliasTargets["x"]? = some "b" ∧ "x" ∈ declarations.listedFor "a" ∧
      declarations.registry (.aliases "a") = ["x"] ∧
      declarations.canonical "x" = "b" ∧ declarations.canonical "a" = "a" ∧
      declarations.registry (.aliases "b") = ["x", "x"] ∧
      (Discovery.definitionName declarations.registry "a").value = "x" := by
  decide

end Declarations

end NamedFunctions
