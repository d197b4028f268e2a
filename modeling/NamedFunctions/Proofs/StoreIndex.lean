import Mathlib.Algebra.GroupWithZero.Nat
import Mathlib.Data.List.Nodup
import NamedFunctions.Store

/-! # The index of a store

A store keeps its registrations in a list and an index from names to slots in that list. The two say
the same in every store that registering builds up: no name is listed twice, and the index has just
the listed names, each with the slot of its registration. So a name leads to the one registration
that lists it, the names of the three kinds part all names among them, and there are as many names
as the registrations list. -/
namespace NamedFunctions

variable {Obj : Type}

/-- A set has as many names as any list of just these names without repeats. -/
theorem NameSet.size_eq_length {names : NameSet} {list : List String} (nodup : list.Nodup)
    (h : ∀ name, name ∈ names ↔ name ∈ list) : names.size = list.length := by
  have hn : names.toList.Nodup := names.distinct_toList.imp fun hc he => hc (by simp [he])
  have hp : names.toList.Perm list := by
    rw [List.perm_ext_iff_of_nodup hn nodup]
    intro name
    rw [Std.TreeSet.mem_toList, h]
  rw [← hp.length_eq, Std.TreeSet.length_toList]

namespace Store

/-- The names that the registrations list, one registration after another. -/
def listed (store : Store Obj) : List String :=
  store.registrations.flatMap Registration.names

structure WellFormed (store : Store Obj) : Prop where
  /-- The index has the listed names and no others. -/
  contains_iff : ∀ name, store.contains name = true ↔ name ∈ store.listed
  /-- An indexed slot exists, and its registration lists the name. -/
  slot_lists : ∀ (name : String) (slot : Nat), store.slots[name]? = some slot →
    ∃ registration, store.registrations[slot]? = some registration ∧ name ∈ registration.names
  /-- No name is listed by two registrations, nor twice by one. -/
  nodup_listed : store.listed.Nodup
  not_blank : ∀ name ∈ store.listed, Text.isBlankText name = false

theorem mem_listed {store : Store Obj} {name : String} :
    name ∈ store.listed ↔ ∃ registration ∈ store.registrations, name ∈ registration.names :=
  List.mem_flatMap

@[simp] theorem listed_append (store : Store Obj) (registration : Registration Obj) :
    (store.append registration).listed = store.listed ++ registration.names := by
  simp [listed]

theorem getElem?_slots_append (store : Store Obj) (registration : Registration Obj) (name : String) :
    (store.append registration).slots[name]? =
      if name ∈ registration.names then some store.size else store.slots[name]? :=
  getElem?_foldl_insert ..

/-- All the names of a store are those that it contains. -/
@[simp] theorem contains_names_none (store : Store Obj) (name : String) :
    (store.names none).contains name = store.contains name := by
  rw [Bool.eq_iff_iff, Std.TreeSet.contains_iff_mem, contains, Std.TreeMap.contains_iff_mem]
  simp [Store.names, admits]

namespace WellFormed

theorem empty : (Store.empty : Store Obj).WellFormed where
  contains_iff name := by
    rw [contains_empty]
    simp [Store.empty, listed]
  slot_lists name slot h := by simp [Store.empty] at h
  nodup_listed := List.nodup_nil
  not_blank name h := by simp [Store.empty, listed] at h

/-- The step: a registration that is accepted joins the list and the index together. -/
theorem append {store : Store Obj} (h : store.WellFormed) {registration : Registration Obj}
    (fresh : ∀ name ∈ registration.names,
      Text.isBlankText name = false ∧ store.contains name = false) :
    (store.append registration).WellFormed where
  contains_iff name := by
    rw [contains_append, Bool.or_eq_true, decide_eq_true_eq, h.contains_iff, listed_append,
      List.mem_append, or_comm]
  slot_lists name slot hs := by
    rw [getElem?_slots_append] at hs
    rw [registrations_append]
    split at hs
    · next hm =>
      cases hs
      exact ⟨registration, List.getElem?_concat_length .., hm⟩
    · obtain ⟨found, hf, hm⟩ := h.slot_lists name slot hs
      have hlt := (List.getElem?_eq_some_iff.1 hf).1
      exact ⟨found, by rw [List.getElem?_append_left hlt, hf], hm⟩
  nodup_listed := by
    rw [listed_append, List.nodup_append]
    refine ⟨h.nodup_listed, registration.nodup_names, ?_⟩
    rintro name hl _ hm rfl
    have hc : store.contains name = true := (h.contains_iff name).2 hl
    rw [(fresh name hm).2] at hc
    cases hc
  not_blank name hm := by
    rw [listed_append, List.mem_append] at hm
    rcases hm with hm | hm
    · exact h.not_blank name hm
    · exact (fresh name hm).1

theorem register {store next : Store Obj} (h : store.WellFormed) {registration : Registration Obj}
    (hr : store.register registration = .ok next) : next.WellFormed := by
  obtain ⟨fresh, rfl⟩ := register_eq_ok.1 hr
  exact h.append fresh

/-! ## What names lead to -/

variable {store : Store Obj}

/-- Two slots whose registrations share a name are one slot. -/
theorem slot_unique (h : store.WellFormed) {i j : Nat} {first second : Registration Obj}
    {name : String} (hi : store.registrations[i]? = some first)
    (hj : store.registrations[j]? = some second) (hf : name ∈ first.names)
    (hs : name ∈ second.names) : i = j := by
  have hd := (List.nodup_flatMap.1 h.nodup_listed).2
  obtain ⟨hil, rfl⟩ := List.getElem?_eq_some_iff.1 hi
  obtain ⟨hjl, rfl⟩ := List.getElem?_eq_some_iff.1 hj
  rcases Nat.lt_trichotomy i j with hlt | rfl | hlt
  · exact absurd hs (List.pairwise_iff_getElem.1 hd i j hil hjl hlt hf)
  · rfl
  · exact absurd hf (List.pairwise_iff_getElem.1 hd j i hjl hil hlt hs)

/-- At most one registration lists a name. -/
theorem length_filter_le_one (h : store.WellFormed) (name : String) :
    (store.registrations.filter fun r => name ∈ r.names).length ≤ 1 := by
  have hd := (List.nodup_flatMap.1 h.nodup_listed).2.filter fun r => decide (name ∈ r.names)
  have hm : ∀ r ∈ store.registrations.filter fun r => name ∈ r.names, name ∈ r.names :=
    fun r hr => of_decide_eq_true (List.mem_filter.1 hr).2
  generalize (store.registrations.filter fun r => name ∈ r.names) = listing at hd hm ⊢
  match listing with
  | [] | [_] => simp
  | first :: second :: rest =>
    have hdisjoint := (List.pairwise_cons.1 hd).1 second (by simp)
    exact (hdisjoint (hm first (by simp)) (hm second (by simp))).elim

/-- The registration under a name is the one that lists it. -/
theorem get?_eq_some (h : store.WellFormed) {name : String} {registration : Registration Obj} :
    store.get? name = some registration ↔
      registration ∈ store.registrations ∧ name ∈ registration.names := by
  constructor
  · intro hg
    obtain ⟨slot, hs, hr⟩ := Option.bind_eq_some_iff.1 hg
    obtain ⟨found, hf, hm⟩ := h.slot_lists name slot hs
    rw [hr, Option.some.injEq] at hf
    exact ⟨List.mem_of_getElem? hr, hf ▸ hm⟩
  · rintro ⟨hr, hm⟩
    have hc := (h.contains_iff name).2 (mem_listed.2 ⟨registration, hr, hm⟩)
    rw [contains_eq_isSome, Option.isSome_iff_exists] at hc
    obtain ⟨slot, hs⟩ := hc
    obtain ⟨found, hf, hfm⟩ := h.slot_lists name slot hs
    obtain ⟨position, hp⟩ := List.mem_iff_getElem?.1 hr
    obtain rfl := h.slot_unique hf hp hfm hm
    rw [Store.get?, hs, Option.bind_some, hp]

theorem mem_names (h : store.WellFormed) {kind : Option Kind} {name : String} :
    name ∈ store.names kind ↔
      ∃ registration, store.get? name = some registration ∧ ∀ k ∈ kind, registration.kind = k := by
  simp only [Store.names, NameSet.mem_ofList, List.mem_map, List.mem_filter, Prod.exists,
    Std.TreeMap.mem_toList_iff_getElem?_eq_some, exists_and_right, exists_eq_right]
  constructor
  · rintro ⟨slot, hs, ha⟩
    obtain ⟨registration, hr, -⟩ := h.slot_lists name slot hs
    refine ⟨registration, by rw [Store.get?, hs, Option.bind_some, hr], ?_⟩
    rintro k rfl
    simpa [admits, hr] using ha
  · rintro ⟨registration, hg, hk⟩
    obtain ⟨slot, hs, hr⟩ := Option.bind_eq_some_iff.1 hg
    refine ⟨slot, hs, ?_⟩
    cases kind with
    | none => rfl
    | some k => simp [admits, hr, hk k rfl]

theorem mem_names_none (h : store.WellFormed) {name : String} :
    name ∈ store.names none ↔ name ∈ store.listed := by
  simp only [h.mem_names, h.get?_eq_some, mem_listed, Option.mem_def]
  grind

theorem size_names (h : store.WellFormed) :
    (store.names none).size = (store.registrations.map fun r => r.names.length).sum := by
  rw [NameSet.size_eq_length h.nodup_listed fun _ => h.mem_names_none, listed, List.length_flatMap]

end WellFormed

/-! ## Runs of registrations -/

/-- A registration that is refused leaves the store as it is. -/
def offer (store : Store Obj) (registration : Registration Obj) : Store Obj :=
  match store.register registration with
  | .ok next => next
  | .error _ => store

def offerAll (store : Store Obj) (registrations : List (Registration Obj)) : Store Obj :=
  registrations.foldl offer store

/-- Those of a run of registrations that are accepted, in the order of the run. -/
def accepted (store : Store Obj) : List (Registration Obj) → List (Registration Obj)
  | [] => []
  | registration :: rest =>
    match store.register registration with
    | .ok next => registration :: next.accepted rest
    | .error _ => store.accepted rest

theorem registrations_offerAll (store : Store Obj) (registrations : List (Registration Obj)) :
    (store.offerAll registrations).registrations =
      store.registrations ++ store.accepted registrations := by
  induction registrations generalizing store with
  | nil => simp [offerAll, accepted]
  | cons registration rest ih =>
    show ((store.offer registration).offerAll rest).registrations = _
    rw [ih, accepted, offer]
    cases h : store.register registration with
    | ok next =>
      obtain ⟨-, rfl⟩ := register_eq_ok.1 h
      simp
    | error => rfl

theorem WellFormed.offer {store : Store Obj} (h : store.WellFormed)
    (registration : Registration Obj) : (store.offer registration).WellFormed := by
  rw [Store.offer]
  split
  · next hr => exact h.register hr
  · exact h

/-- The run: every store built up from a well-formed one is well formed. -/
theorem WellFormed.offerAll {store : Store Obj} (h : store.WellFormed)
    (registrations : List (Registration Obj)) : (store.offerAll registrations).WellFormed := by
  induction registrations generalizing store with
  | nil => exact h
  | cons registration rest ih => exact ih (h.offer registration)

/-- The store is well formed and holds what was accepted, in order. A name leads to the one
registration that lists it; every name is of one kind and of no other; and the names are as many
as are listed. -/
theorem index_agrees_offerAll (registrations : List (Registration Obj)) :
    let store := (Store.empty : Store Obj).offerAll registrations
    store.WellFormed ∧
      store.registrations = Store.empty.accepted registrations ∧
      (∀ (name : String) (registration : Registration Obj),
        store.get? name = some registration ↔
          registration ∈ store.registrations ∧ name ∈ registration.names) ∧
      (∀ name : String, name ∈ store.names none ↔ ∃ kind, name ∈ store.names (some kind)) ∧
      (∀ (name : String) (kind other : Kind),
        name ∈ store.names (some kind) → name ∈ store.names (some other) → kind = other) ∧
      (store.names none).size = (store.registrations.map fun r => r.names.length).sum := by
  intro store
  have h : store.WellFormed := WellFormed.empty.offerAll registrations
  refine ⟨h, ?_, fun _ _ => h.get?_eq_some, ?_, ?_, h.size_names⟩
  · exact registrations_offerAll Store.empty registrations
  · intro name
    simp only [h.mem_names, Option.mem_def]
    constructor
    · rintro ⟨registration, hg, -⟩
      exact ⟨registration.kind, registration, hg, by simp⟩
    · rintro ⟨kind, registration, hg, -⟩
      exact ⟨registration, hg, by simp⟩
  · intro name kind other hk ho
    obtain ⟨first, hf, hfk⟩ := h.mem_names.1 hk
    obtain ⟨second, hs, hsk⟩ := h.mem_names.1 ho
    obtain rfl : first = second := Option.some.inj (hf.symm.trans hs)
    rw [← hfk kind rfl, hsk other rfl]

/-- The second registration is refused for its alias and takes neither name, so that its first name
is free for the third. -/
theorem index_agrees_offerAll_alias :
    let first : Registration Unit := { primary := "a", aliases := ["b"], target := .object () }
    let refused : Registration Unit := { primary := "c", aliases := ["b"], target := .object () }
    let third : Registration Unit :=
      { primary := "c", target := .object (), signature := ⟨.void, .any⟩ }
    let store := Store.empty.offerAll [first, refused, third]
    store.registrations = [first, third] ∧
      store.get? "c" = some third ∧
      (store.names none).size = 3 ∧
      "c" ∈ store.names (some .producer) ∧
      ∀ kind, "c" ∈ store.names (some kind) → kind = .producer :=
  ⟨by rfl, ((index_agrees_offerAll _).2.2.1 "c" _).2 ⟨by decide, by decide⟩,
    (index_agrees_offerAll _).2.2.2.2.2.trans (by rfl), by decide,
    fun kind hk => (index_agrees_offerAll _).2.2.2.2.1 "c" kind .producer hk (by decide)⟩

end Store

end NamedFunctions
