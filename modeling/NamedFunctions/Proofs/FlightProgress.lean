import NamedFunctions.Proofs.FlightExclusion

/-! # Progress of flights

Nobody waits in vain. A slot without an outcome is attended: some caller waits for its lock or is
resolving its key. And whoever has the lock of a slot is resolving or closing it, which nobody can
keep it from, since the map is never held while a lock is awaited. So every call that has not
returned can take its next step, or the one whose lock it waits for can. When no call is under way,
there is no caller left for a slot in the map, and the map is empty. -/
namespace NamedFunctions.Flight

variable {Key Out : Type}

/-! ## What a phase says about slots -/

namespace Phase

/-- The slot that a call has joined. -/
def slot? : Phase Out → Option Nat
  | outside => none
  | waiting slot | resolving slot | closing slot _ | returned slot _ => some slot

/-- The slot that a call resolves, or will resolve unless another call does so first. -/
def pending? : Phase Out → Option Nat
  | waiting slot | resolving slot => some slot
  | outside | closing .. | returned .. => none

/-- The slot whose lock a call has. -/
def locked? : Phase Out → Option Nat
  | resolving slot | closing slot _ => some slot
  | outside | waiting _ | returned .. => none

def isReturned : Phase Out → Bool
  | returned .. => true
  | outside | waiting _ | resolving _ | closing .. => false

/-- The call has begun and has not returned yet. -/
def isUnderWay : Phase Out → Bool
  | waiting _ | resolving _ | closing .. => true
  | outside | returned .. => false

variable {phase : Phase Out} {slot : Nat}

theorem slot?_of_locked? (h : phase.locked? = some slot) : phase.slot? = some slot := by
  cases phase with
  | resolving | closing => exact h
  | outside | waiting | returned => cases h

theorem isUnderWay_of_pending? (h : phase.pending? = some slot) : phase.isUnderWay = true := by
  cases phase with
  | waiting | resolving => rfl
  | outside | closing | returned => cases h

theorem isUnderWay_of_locked? (h : phase.locked? = some slot) : phase.isUnderWay = true := by
  cases phase with
  | resolving | closing => rfl
  | outside | waiting | returned => cases h

end Phase

/-! ## Attended slots -/

structure Attended (state : State Key Out) : Prop where
  /-- A slot without an outcome has a caller that will see to one. -/
  pending : ∀ slot, slot < state.table.slots.length → state.table.outcome? slot = none →
    ∃ call ∈ state.calls, call.phase.pending? = some slot
  /-- Whoever has a lock is at work on the slot. -/
  locked : ∀ slot i, state.table.holder? slot = some i →
    ∃ call, state.calls[i]? = some call ∧ call.phase.locked? = some slot

namespace Attended

variable {owners : List Key} {state next : State Key Out} {i j : Nat} {call : Call Key Out}
  {slot other : Nat}

theorem start (keys : List Key) : Attended (.start keys : State Key Out) where
  pending slot h := by simp [State.start] at h
  locked slot i h := by simp [State.start, Table.holder?] at h

theorem ne_of_holder? (h : Attended state) (hc : state.calls[i]? = some call)
    (hl : call.phase.locked? = none) (hh : state.table.holder? slot = some j) : i ≠ j := by
  rintro rfl
  obtain ⟨holder, hi, hlocked⟩ := h.locked slot i hh
  rw [hc, Option.some.injEq] at hi
  rw [← hi, hl] at hlocked
  cases hlocked

theorem eq_of_holder? (h : Attended state) (hc : state.calls[i]? = some call)
    (hl : call.phase.locked? = some slot) (hh : state.table.holder? other = some i) :
    slot = other := by
  obtain ⟨holder, hi, hlocked⟩ := h.locked other i hh
  rw [hc, Option.some.injEq] at hi
  rw [← hi, hl, Option.some.injEq] at hlocked
  exact hlocked

/-- It is enough to look at the slots without an outcome and at the locks, where the call that takes
the step may leave a slot only if it was not the one to see to it. -/
theorem advance (h : Attended state) {table : Table Key Out} {phase : Phase Out}
    (hc : state.calls[i]? = some call)
    (hpending : ∀ slot, slot < table.slots.length → table.outcome? slot = none →
      phase.pending? = some slot ∨ slot < state.table.slots.length ∧
        state.table.outcome? slot = none ∧ call.phase.pending? ≠ some slot)
    (hlocked : ∀ slot j, table.holder? slot = some j →
      i = j ∧ phase.locked? = some slot ∨ i ≠ j ∧ state.table.holder? slot = some j) :
    Attended ({ state with table }.setPhase i phase) := by
  have hself : ({ state with table }.setPhase i phase).calls[i]? = some { call with phase } := by
    rw [State.getElem?_setPhase, if_pos rfl, hc, Option.map_some]
  have hothers : ∀ j, i ≠ j →
      ({ state with table }.setPhase i phase).calls[j]? = state.calls[j]? := by
    intro j hij
    rw [State.getElem?_setPhase, if_neg hij]
  constructor
  · intro slot hlt ho
    rcases hpending slot hlt ho with hp | ⟨hlt, ho, hne⟩
    · exact ⟨_, List.mem_of_getElem? hself, hp⟩
    · obtain ⟨attending, hm, hp⟩ := h.pending slot hlt ho
      obtain ⟨j, hj⟩ := List.mem_iff_getElem?.1 hm
      have hij : i ≠ j := by
        rintro rfl
        rw [hc, Option.some.injEq] at hj
        exact hne (hj ▸ hp)
      exact ⟨attending, List.mem_of_getElem? ((hothers j hij).trans hj), hp⟩
  · intro slot j hh
    rcases hlocked slot j hh with ⟨rfl, hl⟩ | ⟨hij, hj⟩
    · exact ⟨_, hself, hl⟩
    · rw [hothers j hij]
      exact h.locked slot j hj

variable [DecidableEq Key]

/-! ### The sections of a call -/

theorem join (h : Attended state) (hc : state.calls[i]? = some call) (hp : call.phase = .outside) :
    Attended ({ state with table := (state.table.join call.key).2 }.setPhase i
      (.waiting (state.table.join call.key).1)) := by
  refine h.advance hc ?_ ?_
  · intro slot hlt ho
    rw [Table.outcome?_join] at ho
    cases hk : state.table.slotOf? call.key with
    | some found =>
      rw [Table.join_of_some hk] at hlt
      exact .inr ⟨hlt, ho, by simp [hp, Phase.pending?]⟩
    | none =>
      rw [Table.join_of_none hk] at hlt ⊢
      rw [List.length_append, List.length_singleton] at hlt
      rcases Nat.lt_succ_iff_lt_or_eq.1 hlt with hold | rfl
      · exact .inr ⟨hold, ho, by simp [hp, Phase.pending?]⟩
      · exact .inl rfl
  · intro slot j hh
    rw [Table.holder?_join] at hh
    exact .inr ⟨h.ne_of_holder? hc (by rw [hp, Phase.locked?]) hh, hh⟩

omit [DecidableEq Key] in
theorem acquire (h : Attended state) {slot : Nat} {answer : Option Out} {table : Table Key Out}
    (hc : state.calls[i]? = some call) (hp : call.phase = .waiting slot)
    (ha : state.table.acquire slot i = some (answer, table)) :
    Attended ({ state with table }.setPhase i
      (answer.elim (.resolving slot) fun outcome => .returned slot outcome)) := by
  obtain ⟨hlt, -, hout, hnone, hsome⟩ := Table.acquire_eq_some ha
  have hunlocked : call.phase.locked? = none := by rw [hp, Phase.locked?]
  cases answer with
  | some outcome =>
    obtain rfl := hsome (by simp)
    refine h.advance hc ?_ fun other j hh => .inr ⟨h.ne_of_holder? hc hunlocked hh, hh⟩
    intro other hother ho
    have hne : slot ≠ other := by
      rintro rfl
      rw [hout] at ho
      cases ho
    exact .inr ⟨hother, ho, by simpa [hp, Phase.pending?] using hne⟩
  | none =>
    obtain rfl := hnone rfl
    refine h.advance hc ?_ ?_
    · intro other hother ho
      rw [Table.length_modifySlot] at hother
      rw [Table.outcome?_setHolder] at ho
      by_cases he : slot = other
      · exact .inl (congrArg some he)
      · exact .inr ⟨hother, ho, by simpa [hp, Phase.pending?] using he⟩
    · intro other j hh
      rw [Table.holder?_setHolder _ hlt] at hh
      split at hh
      · next he => exact .inl ⟨Option.some.inj hh, congrArg some he⟩
      · exact .inr ⟨h.ne_of_holder? hc hunlocked hh, hh⟩

omit [DecidableEq Key] in
theorem finish (h : Attended state) {slot : Nat} (hc : state.calls[i]? = some call)
    (hp : call.phase = .resolving slot) (hlt : slot < state.table.slots.length) (outcome : Out) :
    Attended ({ state with table := state.table.finish slot outcome }.setPhase i
      (.closing slot outcome)) := by
  refine h.advance hc ?_ ?_
  · intro other hother ho
    rw [Table.finish, Table.length_modifySlot] at hother
    rw [Table.outcome?_finish _ hlt] at ho
    split at ho
    · cases ho
    · next he => exact .inr ⟨hother, ho, by simpa [hp, Phase.pending?] using he⟩
  · intro other j hh
    rw [Table.holder?_finish] at hh
    by_cases hij : i = j
    · subst hij
      exact .inl ⟨rfl, congrArg some (h.eq_of_holder? hc (by rw [hp, Phase.locked?]) hh)⟩
    · exact .inr ⟨hij, hh⟩

theorem close (h : Attended state) {slot : Nat} {outcome : Out} (hc : state.calls[i]? = some call)
    (hp : call.phase = .closing slot outcome) (hlt : slot < state.table.slots.length) :
    Attended ({ state with table := state.table.close call.key slot }.setPhase i
      (.returned slot outcome)) := by
  refine h.advance hc ?_ ?_
  · intro other hother ho
    rw [Table.slots_close, Table.length_modifySlot] at hother
    rw [Table.outcome?_close] at ho
    exact .inr ⟨hother, ho, by simp [hp, Phase.pending?]⟩
  · intro other j hh
    rw [Table.holder?_close _ _ hlt] at hh
    split at hh
    · cases hh
    · next he =>
      refine .inr ⟨?_, hh⟩
      rintro rfl
      exact he (h.eq_of_holder? hc (by rw [hp, Phase.locked?]) hh)

theorem step (h : Attended state) (hinv : Invariant owners state) {move : Move Out}
    (hs : state.step i move = some next) : Attended next := by
  obtain ⟨call, hc, hstep⟩ := stepped_of_step hs
  have hsound := hinv.calls i call hc
  rw [Call.Sound] at hsound
  cases hstep with
  | join hp => exact h.join hc hp
  | share hp ha => exact h.acquire hc hp ha
  | lock hp ha => exact h.acquire hc hp ha
  | finish outcome hp =>
    rw [hp] at hsound
    exact h.finish hc hp (Table.lt_length_of_holder? hsound.2.1) outcome
  | close hp =>
    rw [hp] at hsound
    exact h.close hc hp (Table.lt_length_of_holder? hsound.2.1)

end Attended

variable [DecidableEq Key]

theorem attended_of_reachable {keys : List Key} {state : State Key Out}
    (h : State.Reachable keys state) : Attended state := by
  obtain ⟨schedule, h⟩ := h
  refine State.run_induction (fun _ state => Attended state) (.start keys) ?_ h
  intro schedule middle next i move hm hs hattended
  obtain ⟨owners, hinv⟩ := exists_invariant ⟨schedule, hm⟩
  exact hattended.step hinv hs

/-! ## Steps that can be taken -/

/-- The call at an index can take a step; if it is resolving, then also with this outcome. -/
def State.CanStep (state : State Key Out) (i : Nat) (outcome : Out) : Prop :=
  ∃ move ∈ [.join, .acquire, .finish outcome, .close], (state.step i move).isSome = true

section Steps

variable {owners : List Key} {state : State Key Out} {i : Nat} {call : Call Key Out} {slot : Nat}

theorem canStep_of_outside (hc : state.calls[i]? = some call) (hp : call.phase = .outside)
    (outcome : Out) : state.CanStep i outcome :=
  ⟨.join, by simp, by simp [State.step, hc, hp]⟩

theorem canStep_of_locked? (hc : state.calls[i]? = some call) (hp : call.phase.locked? = some slot)
    (outcome : Out) : state.CanStep i outcome := by
  obtain ⟨key, phase⟩ := call
  cases phase with
  | resolving => exact ⟨.finish outcome, by simp, by simp [State.step, hc]⟩
  | closing => exact ⟨.close, by simp, by simp [State.step, hc]⟩
  | outside | waiting | returned => cases hp

theorem canStep_of_free (hc : state.calls[i]? = some call) (hp : call.phase = .waiting slot)
    (hlt : slot < state.table.slots.length) (hfree : state.table.holder? slot = none)
    (outcome : Out) : state.CanStep i outcome := by
  obtain ⟨found, hf⟩ : ∃ found, state.table.slots[slot]? = some found :=
    ⟨_, List.getElem?_eq_getElem hlt⟩
  rw [Table.holder?, hf, Option.bind_some] at hfree
  refine ⟨.acquire, by simp, ?_⟩
  cases ho : found.outcome <;> simp [State.step, Table.acquire, hc, hp, hf, hfree, ho]

theorem Invariant.owner_of_slot? (h : Invariant owners state) (hc : state.calls[i]? = some call)
    (hs : call.phase.slot? = some slot) : owners[slot]? = some call.key := by
  have hsound := h.calls i call hc
  obtain ⟨key, phase⟩ := call
  cases phase with
  | outside => cases hs
  | waiting =>
    cases hs
    exact hsound
  | resolving | closing | returned =>
    cases hs
    exact hsound.1

theorem Invariant.lt_length_of_owner (h : Invariant owners state) {key : Key}
    (ho : owners[slot]? = some key) : slot < state.table.slots.length := by
  rw [← h.table.length_eq]
  exact (List.getElem?_eq_some_iff.1 ho).1

/-- A call that has not returned can take a step, or else the call of the same key can whose lock it
waits for. -/
theorem Attended.exists_canStep (h : Attended state) (hinv : Invariant owners state)
    (hc : state.calls[i]? = some call) (hp : call.phase.isReturned = false) (outcome : Out) :
    ∃ j other, state.calls[j]? = some other ∧ other.key = call.key ∧ state.CanStep j outcome := by
  cases hphase : call.phase with
  | outside => exact ⟨i, call, hc, rfl, canStep_of_outside hc hphase outcome⟩
  | resolving slot =>
    exact ⟨i, call, hc, rfl, canStep_of_locked? hc (by rw [hphase, Phase.locked?]) outcome⟩
  | closing slot _ =>
    exact ⟨i, call, hc, rfl, canStep_of_locked? hc (by rw [hphase, Phase.locked?]) outcome⟩
  | returned =>
    rw [hphase] at hp
    cases hp
  | waiting slot =>
    have howner := hinv.owner_of_slot? hc (by rw [hphase, Phase.slot?])
    cases hh : state.table.holder? slot with
    | none =>
      have hlt := hinv.lt_length_of_owner howner
      exact ⟨i, call, hc, rfl, canStep_of_free hc hphase hlt hh outcome⟩
    | some j =>
      obtain ⟨holder, hj, hl⟩ := h.locked slot j hh
      have hsame := hinv.owner_of_slot? hj (Phase.slot?_of_locked? hl)
      rw [howner, Option.some.injEq] at hsame
      exact ⟨j, holder, hj, hsame.symm, canStep_of_locked? hj hl outcome⟩

/-! ## The map when no call is under way -/

/-- A slot stays in the map only as long as some caller is at work on it. -/
theorem Attended.exists_underWay (h : Attended state) (hinv : Invariant owners state) {key : Key}
    (hs : state.table.slotOf? key = some slot) :
    ∃ call ∈ state.calls, call.phase.isUnderWay = true := by
  obtain ⟨howner, hopen⟩ := (hinv.table.slotOf?_iff key slot).1 hs
  rcases hopen with ho | hh
  · obtain ⟨call, hm, hp⟩ := h.pending slot (hinv.lt_length_of_owner howner) ho
    exact ⟨call, hm, Phase.isUnderWay_of_pending? hp⟩
  · obtain ⟨i, hi⟩ := Option.ne_none_iff_exists'.1 hh
    obtain ⟨call, hc, hl⟩ := h.locked slot i hi
    exact ⟨call, List.mem_of_getElem? hc, Phase.isUnderWay_of_locked? hl⟩

theorem Attended.published_eq_nil (h : Attended state) (hinv : Invariant owners state)
    (hidle : ∀ call ∈ state.calls, call.phase.isUnderWay = false) : state.table.published = [] := by
  cases hp : state.table.published with
  | nil => rfl
  | cons entry rest =>
    have hs : state.table.slotOf? entry.1 = some entry.2 := by
      rw [Table.slotOf?, hp, List.lookup_cons_self]
    obtain ⟨call, hm, hunder⟩ := h.exists_underWay hinv hs
    rw [hidle call hm] at hunder
    cases hunder

end Steps

end NamedFunctions.Flight
