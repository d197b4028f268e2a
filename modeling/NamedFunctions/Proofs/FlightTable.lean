import NamedFunctions.Concurrent.Flight

/-! # The table of flights

Every slot is made under one key, its owner. As long as a slot has no outcome or somebody has its
lock, it is the one in the map under its owner, and the map has no other slots. Each of the four
sections of a call keeps this, provided that an outcome is stored and a slot closed by whoever has
the lock. What one caller does changes no outcome that is there, and nothing about the slots that
others have locked. -/
namespace NamedFunctions.Flight

variable {Key Out : Type}

theorem owner_joined {owners joined : List Key} {slot : Nat} {key : Key}
    (h : owners[slot]? = some key) (hj : owners <+: joined) : joined[slot]? = some key := by
  obtain ⟨hlt, he⟩ := List.getElem?_eq_some_iff.1 h
  rw [List.prefix_iff_getElem?.1 hj slot hlt, he]

namespace Table

def holder? (table : Table Key Out) (slot : Nat) : Option Nat :=
  table.slots[slot]?.bind Slot.holder

def outcome? (table : Table Key Out) (slot : Nat) : Option Out :=
  table.slots[slot]?.bind Slot.outcome

theorem lt_length_of_holder? {table : Table Key Out} {slot caller : Nat}
    (h : table.holder? slot = some caller) : slot < table.slots.length := by
  obtain ⟨found, hf, -⟩ := Option.bind_eq_some_iff.1 h
  exact (List.getElem?_eq_some_iff.1 hf).1

theorem lt_length_of_outcome? {table : Table Key Out} {slot : Nat}
    (h : table.outcome? slot ≠ none) : slot < table.slots.length := by
  obtain ⟨out, ho⟩ := Option.ne_none_iff_exists'.1 h
  obtain ⟨found, hf, -⟩ := Option.bind_eq_some_iff.1 ho
  exact (List.getElem?_eq_some_iff.1 hf).1

theorem ne_of_holder? {table : Table Key Out} {slot position caller other : Nat}
    (h : table.holder? slot = some caller) (hp : table.holder? position = some other)
    (hne : other ≠ caller) : slot ≠ position := by
  rintro rfl
  exact hne (Option.some.inj (hp.symm.trans h))

/-! ## What the sections do to a slot -/

@[simp] theorem length_modifySlot (table : Table Key Out) (slot : Nat) (f : Slot Out → Slot Out) :
    (table.modifySlot slot f).slots.length = table.slots.length :=
  List.length_modify ..

theorem getElem?_modifySlot (table : Table Key Out) (slot : Nat) (f : Slot Out → Slot Out)
    (other : Nat) :
    (table.modifySlot slot f).slots[other]? =
      if slot = other then table.slots[other]?.map f else table.slots[other]? := by
  rw [modifySlot, List.getElem?_modify]
  split
  · rfl
  · exact Option.map_id' ..

@[simp] theorem outcome?_setHolder (table : Table Key Out) (slot : Nat) (holder : Option Nat)
    (other : Nat) :
    (table.modifySlot slot ({ · with holder })).outcome? other = table.outcome? other := by
  rw [outcome?, outcome?, getElem?_modifySlot]
  split
  · cases table.slots[other]? <;> rfl
  · rfl

theorem holder?_setHolder (table : Table Key Out) {slot : Nat} (h : slot < table.slots.length)
    (holder : Option Nat) (other : Nat) :
    (table.modifySlot slot ({ · with holder })).holder? other =
      if slot = other then holder else table.holder? other := by
  rw [holder?, holder?, getElem?_modifySlot]
  split
  · next he =>
    subst he
    rw [List.getElem?_eq_getElem h]
    rfl
  · rfl

@[simp] theorem holder?_finish (table : Table Key Out) (slot : Nat) (outcome : Out) (other : Nat) :
    (table.finish slot outcome).holder? other = table.holder? other := by
  rw [holder?, holder?, finish, getElem?_modifySlot]
  split
  · cases table.slots[other]? <;> rfl
  · rfl

theorem outcome?_finish (table : Table Key Out) {slot : Nat} (h : slot < table.slots.length)
    (outcome : Out) (other : Nat) :
    (table.finish slot outcome).outcome? other =
      if slot = other then some outcome else table.outcome? other := by
  rw [outcome?, outcome?, finish, getElem?_modifySlot]
  split
  · next he =>
    subst he
    rw [List.getElem?_eq_getElem h]
    rfl
  · rfl

theorem acquire_eq_some {table next : Table Key Out} {slot caller : Nat} {answer : Option Out}
    (h : table.acquire slot caller = some (answer, next)) :
    slot < table.slots.length ∧ table.holder? slot = none ∧ table.outcome? slot = answer ∧
      (answer = none → next = table.modifySlot slot ({ · with holder := some caller })) ∧
      (answer ≠ none → next = table) := by
  obtain ⟨found, hf, h⟩ := Option.bind_eq_some_iff.1 h
  have hlt := (List.getElem?_eq_some_iff.1 hf).1
  split at h
  · cases h
  · next hh =>
    rw [Option.not_isSome_iff_eq_none] at hh
    rw [holder?, outcome?, hf, Option.bind_some, Option.bind_some]
    cases ho : found.outcome with
    | some outcome =>
      rw [ho] at h
      cases h
      exact ⟨hlt, hh, rfl, by simp, fun _ => rfl⟩
    | none =>
      rw [ho] at h
      cases h
      exact ⟨hlt, hh, rfl, fun _ => rfl, by simp⟩

theorem forall_mem_modifySlot {p : Slot Out → Prop} {table : Table Key Out} {slot : Nat}
    {f : Slot Out → Slot Out} (h : ∀ s ∈ table.slots, p s)
    (hf : ∀ s, table.slots[slot]? = some s → p s → p (f s)) :
    ∀ s ∈ (table.modifySlot slot f).slots, p s := by
  intro s hs
  obtain ⟨i, hi⟩ := List.mem_iff_getElem?.1 hs
  rw [getElem?_modifySlot] at hi
  split at hi
  · next he =>
    subst he
    obtain ⟨before, hb, rfl⟩ := Option.map_eq_some_iff.1 hi
    exact hf before hb (h before (List.mem_of_getElem? hb))
  · exact h s (List.mem_of_getElem? hi)

variable [DecidableEq Key]

@[simp] theorem slotOf?_modifySlot (table : Table Key Out) (slot : Nat) (f : Slot Out → Slot Out)
    (key : Key) : (table.modifySlot slot f).slotOf? key = table.slotOf? key := rfl

theorem join_of_some {table : Table Key Out} {key : Key} {slot : Nat}
    (h : table.slotOf? key = some slot) : table.join key = (slot, table) := by
  rw [join, h]

theorem join_of_none {table : Table Key Out} {key : Key} (h : table.slotOf? key = none) :
    table.join key = (table.slots.length,
      { slots := table.slots ++ [{}], published := (key, table.slots.length) :: table.published }) := by
  rw [join, h]

theorem lookup_filter_ne (entries : List (Key × Nat)) (key other : Key) :
    (entries.filter (·.1 ≠ key)).lookup other = if other = key then none else entries.lookup other := by
  induction entries with
  | nil => simp
  | cons entry rest ih =>
    obtain ⟨first, slot⟩ := entry
    by_cases hf : first = key
    · rw [List.filter_cons_of_neg (by simpa using hf), ih, List.lookup_cons]
      split
      · rfl
      · next ho =>
        have hne : (other == first) = false := by
          rw [hf]
          simpa using ho
        rw [hne]
    · rw [List.filter_cons_of_pos (by simpa using hf), List.lookup_cons, List.lookup_cons, ih]
      by_cases ho : other = first
      · subst ho
        simp [hf]
      · have hne : (other == first) = false := by simpa using ho
        rw [hne]

theorem slotOf?_join (table : Table Key Out) (key other : Key) :
    (table.join key).2.slotOf? other =
      if other = key then some (table.join key).1 else table.slotOf? other := by
  cases hk : table.slotOf? key with
  | some slot =>
    rw [join_of_some hk]
    split
    · next ho => rw [ho, hk]
    · rfl
  | none =>
    rw [join_of_none hk, slotOf?, List.lookup_cons]
    by_cases ho : other = key
    · rw [if_pos ho, beq_iff_eq.2 ho]
    · rw [if_neg ho, beq_eq_false_iff_ne.2 ho]
      rfl

@[simp] theorem outcome?_join (table : Table Key Out) (key : Key) (slot : Nat) :
    (table.join key).2.outcome? slot = table.outcome? slot := by
  cases hk : table.slotOf? key with
  | some => rw [join_of_some hk]
  | none =>
    rw [join_of_none hk, outcome?, outcome?]
    rcases Nat.lt_trichotomy slot table.slots.length with hlt | rfl | hlt
    · rw [List.getElem?_append_left hlt]
    · simp
    · rw [List.getElem?_eq_none (by simp; omega), List.getElem?_eq_none (by omega)]

@[simp] theorem holder?_join (table : Table Key Out) (key : Key) (slot : Nat) :
    (table.join key).2.holder? slot = table.holder? slot := by
  cases hk : table.slotOf? key with
  | some => rw [join_of_some hk]
  | none =>
    rw [join_of_none hk, holder?, holder?]
    rcases Nat.lt_trichotomy slot table.slots.length with hlt | rfl | hlt
    · rw [List.getElem?_append_left hlt]
    · simp
    · rw [List.getElem?_eq_none (by simp; omega), List.getElem?_eq_none (by omega)]

theorem slots_close (table : Table Key Out) (key : Key) (slot : Nat) :
    (table.close key slot).slots = (table.modifySlot slot ({ · with holder := none })).slots := by
  unfold close
  split <;> rfl

theorem slotOf?_close {table : Table Key Out} {key : Key} {slot : Nat}
    (h : table.slotOf? key = some slot) (other : Key) :
    (table.close key slot).slotOf? other = if other = key then none else table.slotOf? other := by
  rw [close, if_pos h]
  exact lookup_filter_ne table.published key other

@[simp] theorem outcome?_close (table : Table Key Out) (key : Key) (slot other : Nat) :
    (table.close key slot).outcome? other = table.outcome? other := by
  rw [outcome?, slots_close]
  exact outcome?_setHolder table slot none other

theorem holder?_close (table : Table Key Out) (key : Key) {slot : Nat}
    (h : slot < table.slots.length) (other : Nat) :
    (table.close key slot).holder? other = if slot = other then none else table.holder? other := by
  rw [holder?, slots_close]
  exact holder?_setHolder table h none other

/-! ## The map and the slots -/

/-- The slots with their owners, in the order in which they were made. -/
structure Sound (table : Table Key Out) (owners : List Key) : Prop where
  length_eq : owners.length = table.slots.length
  /-- In the map is a slot as long as it has no outcome or is locked. -/
  slotOf?_iff : ∀ (key : Key) (slot : Nat), table.slotOf? key = some slot ↔
    owners[slot]? = some key ∧ (table.outcome? slot = none ∨ table.holder? slot ≠ none)
  completions : ∀ slot ∈ table.slots, slot.completions = if slot.outcome.isSome then 1 else 0

namespace Sound

variable {table next : Table Key Out} {owners : List Key} {key : Key} {slot caller : Nat}

theorem empty : ({} : Table Key Out).Sound [] where
  length_eq := rfl
  slotOf?_iff key slot := by simp [slotOf?]
  completions slot h := by cases h

theorem slotOf?_of_holder? (h : table.Sound owners) (ho : owners[slot]? = some key)
    (hh : table.holder? slot = some caller) : table.slotOf? key = some slot := by
  rw [h.slotOf?_iff]
  exact ⟨ho, .inr (by simp [hh])⟩

theorem join (h : table.Sound owners) (key : Key) :
    ∃ joined, (table.join key).2.Sound joined ∧ owners <+: joined ∧
      joined[(table.join key).1]? = some key := by
  cases hk : table.slotOf? key with
  | some slot =>
    rw [join_of_some hk]
    exact ⟨owners, h, List.prefix_refl _, ((h.slotOf?_iff key slot).1 hk).1⟩
  | none =>
    have hget : ∀ (slot : Nat) (other : Key), (owners ++ [key])[slot]? = some other ↔
        owners[slot]? = some other ∨ slot = table.slots.length ∧ key = other := by
      intro slot other
      rw [← h.length_eq]
      grind
    have hfirst : (table.join key).1 = table.slots.length := by rw [join_of_none hk]
    refine ⟨owners ++ [key], ⟨?_, ?_, ?_⟩, List.prefix_append .., ?_⟩
    · rw [join_of_none hk]
      simp [h.length_eq]
    · intro other slot
      rw [slotOf?_join, outcome?_join, holder?_join, hget, hfirst]
      by_cases ho : other = key
      · subst ho
        have hnew : table.outcome? table.slots.length = none := by simp [outcome?]
        have hold := h.slotOf?_iff other slot
        rw [hk] at hold
        rw [if_pos rfl]
        grind
      · rw [if_neg ho, h.slotOf?_iff]
        grind
    · rw [join_of_none hk]
      intro slot hm
      rcases List.mem_append.1 hm with hm | hm
      · exact h.completions slot hm
      · obtain rfl := List.mem_singleton.1 hm
        rfl
    · rw [hfirst, hget]
      exact .inr ⟨rfl, rfl⟩

theorem acquire (h : table.Sound owners) {answer : Option Out}
    (ha : table.acquire slot caller = some (answer, next)) : next.Sound owners := by
  obtain ⟨hlt, -, ho, hnone, hsome⟩ := acquire_eq_some ha
  cases answer with
  | some outcome =>
    rw [hsome (by simp)]
    exact h
  | none =>
    rw [hnone rfl]
    refine ⟨by rw [length_modifySlot, h.length_eq], ?_, ?_⟩
    · intro key other
      rw [slotOf?_modifySlot, outcome?_setHolder, holder?_setHolder table hlt, h.slotOf?_iff]
      split
      · next he => simp [← he, ho]
      · rfl
    · exact forall_mem_modifySlot h.completions fun _ _ hs => hs

theorem finish (h : table.Sound owners) (hh : table.holder? slot = some caller)
    (ho : table.outcome? slot = none) (outcome : Out) : (table.finish slot outcome).Sound owners := by
  have hlt := lt_length_of_holder? hh
  refine ⟨by rw [Table.finish, length_modifySlot, h.length_eq], ?_, ?_⟩
  · intro key other
    rw [Table.finish, slotOf?_modifySlot, ← Table.finish, outcome?_finish table hlt, holder?_finish,
      h.slotOf?_iff]
    split
    · next he => simp [← he, hh]
    · rfl
  · refine forall_mem_modifySlot h.completions ?_
    intro found hf hs
    rw [outcome?, hf, Option.bind_some] at ho
    simp [hs, ho]

/-- The slot that is closed was the one in the map under its owner, so no other is taken out. -/
theorem close (h : table.Sound owners) (hk : owners[slot]? = some key)
    (hh : table.holder? slot = some caller) (ho : table.outcome? slot ≠ none) :
    (table.close key slot).Sound owners := by
  have hlt := lt_length_of_holder? hh
  have hpublished := h.slotOf?_of_holder? hk hh
  refine ⟨by rw [slots_close, length_modifySlot, h.length_eq], ?_, ?_⟩
  · intro other position
    rw [slotOf?_close hpublished, outcome?_close, holder?_close table key hlt]
    have hold := h.slotOf?_iff other position
    by_cases he : slot = position
    · subst he
      rw [hk]
      grind
    · by_cases hother : other = key
      · subst hother
        rw [hpublished, Option.some.injEq] at hold
        rw [if_pos rfl, if_neg he, ← hold]
        simp [he]
      · rw [if_neg hother, if_neg he]
        exact hold
  · rw [slots_close]
    exact forall_mem_modifySlot h.completions fun _ _ hs => hs

end Sound

/-! ## What others rely on -/

/-- One caller has left alone whatever matters to the others. -/
structure Frame (before after : Table Key Out) (caller : Nat) : Prop where
  outcome : ∀ (slot : Nat) (out : Out), before.outcome? slot = some out →
    after.outcome? slot = some out
  locked : ∀ slot other, other ≠ caller → before.holder? slot = some other →
    after.holder? slot = some other ∧ after.outcome? slot = before.outcome? slot

namespace Frame

variable {table next : Table Key Out} {slot caller : Nat}

omit [DecidableEq Key] in
theorem refl (table : Table Key Out) (caller : Nat) : table.Frame table caller where
  outcome _ _ h := h
  locked _ _ _ h := ⟨h, rfl⟩

theorem join (table : Table Key Out) (key : Key) (caller : Nat) :
    table.Frame (table.join key).2 caller where
  outcome other out h := by rwa [outcome?_join]
  locked other holder _ h := by
    rw [holder?_join, outcome?_join]
    exact ⟨h, rfl⟩

omit [DecidableEq Key] in
theorem acquire {answer : Option Out} (h : table.acquire slot caller = some (answer, next)) :
    table.Frame next caller := by
  obtain ⟨hlt, hfree, -, hnone, hsome⟩ := acquire_eq_some h
  cases answer with
  | some outcome =>
    rw [hsome (by simp)]
    exact ⟨fun _ _ h => h, fun _ _ _ h => ⟨h, rfl⟩⟩
  | none =>
    rw [hnone rfl]
    refine ⟨fun other out ho => by rwa [outcome?_setHolder], ?_⟩
    intro other holder _ hh
    have hne : slot ≠ other := by
      rintro rfl
      rw [hfree] at hh
      cases hh
    rw [outcome?_setHolder, holder?_setHolder table hlt, if_neg hne]
    exact ⟨hh, rfl⟩

omit [DecidableEq Key] in
theorem finish (h : table.holder? slot = some caller) (ho : table.outcome? slot = none)
    (outcome : Out) : table.Frame (table.finish slot outcome) caller := by
  have hlt := lt_length_of_holder? h
  constructor
  · intro other out hout
    have hne : slot ≠ other := by
      rintro rfl
      rw [ho] at hout
      cases hout
    rw [outcome?_finish table hlt, if_neg hne, hout]
  · intro other holder hholder hh
    rw [outcome?_finish table hlt, if_neg (ne_of_holder? h hh hholder), holder?_finish]
    exact ⟨hh, rfl⟩

theorem close (h : table.holder? slot = some caller) (key : Key) :
    table.Frame (table.close key slot) caller := by
  have hlt := lt_length_of_holder? h
  refine ⟨fun other out ho => by rwa [outcome?_close], ?_⟩
  intro other holder hholder hh
  rw [outcome?_close, holder?_close table key hlt, if_neg (ne_of_holder? h hh hholder)]
  exact ⟨hh, rfl⟩

end Frame

end Table

end NamedFunctions.Flight
