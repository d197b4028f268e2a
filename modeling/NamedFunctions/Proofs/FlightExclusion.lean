import Mathlib.Data.List.Induction
import NamedFunctions.Proofs.FlightTable

/-! # One resolution at a time

Callers of one key never resolve it at once. A caller that resolves has the lock of a slot without
an outcome, and such a slot is the one in the map under its key; so two callers at work on one key
are at work on one slot, and its lock has one holder. The caller that closes a slot has had the lock
ever since it took it, and still finds the slot in the map. -/
namespace NamedFunctions.Flight

variable {Key Out : Type}

/-! ## What is known of a call -/

/-- Where a call stands with its slot, by its phase. -/
def Call.Sound (owners : List Key) (table : Table Key Out) (i : Nat) (call : Call Key Out) : Prop :=
  match call.phase with
  | .outside => True
  | .waiting slot => owners[slot]? = some call.key
  | .resolving slot =>
    owners[slot]? = some call.key ∧ table.holder? slot = some i ∧ table.outcome? slot = none
  | .closing slot outcome =>
    owners[slot]? = some call.key ∧ table.holder? slot = some i ∧ table.outcome? slot = some outcome
  | .returned slot outcome => owners[slot]? = some call.key ∧ table.outcome? slot = some outcome

/-- A call stands where it stood while others take their steps. -/
theorem Call.Sound.frame {owners joined : List Key} {before after : Table Key Out} {i j : Nat}
    {call : Call Key Out} (h : call.Sound owners before j) (hf : before.Frame after i) (hji : j ≠ i)
    (ho : owners <+: joined) : call.Sound joined after j := by
  obtain ⟨key, phase⟩ := call
  cases phase with
  | outside => exact trivial
  | waiting slot => exact owner_joined h ho
  | resolving slot =>
    obtain ⟨hk, hh, hout⟩ := h
    obtain ⟨hh', hout'⟩ := hf.locked slot j hji hh
    exact ⟨owner_joined hk ho, hh', hout'.trans hout⟩
  | closing slot outcome =>
    obtain ⟨hk, hh, hout⟩ := h
    obtain ⟨hh', hout'⟩ := hf.locked slot j hji hh
    exact ⟨owner_joined hk ho, hh', hout'.trans hout⟩
  | returned slot outcome =>
    obtain ⟨hk, hout⟩ := h
    exact ⟨owner_joined hk ho, hf.outcome slot outcome hout⟩

theorem State.getElem?_setPhase (state : State Key Out) (i : Nat) (phase : Phase Out) (j : Nat) :
    (state.setPhase i phase).calls[j]? =
      if i = j then state.calls[j]?.map ({ · with phase }) else state.calls[j]? := by
  rw [setPhase, List.getElem?_modify]
  split
  · rfl
  · exact Option.map_id' ..

variable [DecidableEq Key]

/-! ## What a step does -/

/-- All that a move of a call can come to. -/
inductive Stepped (state : State Key Out) (i : Nat) (call : Call Key Out) :
    Move Out → State Key Out → Prop where
  | join : call.phase = .outside →
      Stepped state i call .join
        ({ state with table := (state.table.join call.key).2 }.setPhase i
          (.waiting (state.table.join call.key).1))
  | share {slot : Nat} {outcome : Out} {table : Table Key Out} : call.phase = .waiting slot →
      state.table.acquire slot i = some (some outcome, table) →
      Stepped state i call .acquire ({ state with table }.setPhase i (.returned slot outcome))
  | lock {slot : Nat} {table : Table Key Out} : call.phase = .waiting slot →
      state.table.acquire slot i = some (none, table) →
      Stepped state i call .acquire ({ state with table }.setPhase i (.resolving slot))
  | finish {slot : Nat} (outcome : Out) : call.phase = .resolving slot →
      Stepped state i call (.finish outcome)
        ({ state with table := state.table.finish slot outcome }.setPhase i (.closing slot outcome))
  | close {slot : Nat} {outcome : Out} : call.phase = .closing slot outcome →
      Stepped state i call .close
        ({ state with table := state.table.close call.key slot }.setPhase i (.returned slot outcome))

theorem stepped_of_step {state next : State Key Out} {i : Nat} {move : Move Out}
    (h : state.step i move = some next) :
    ∃ call, state.calls[i]? = some call ∧ Stepped state i call move next := by
  obtain ⟨call, hc, h⟩ := Option.bind_eq_some_iff.1 h
  refine ⟨call, hc, ?_⟩
  cases hp : call.phase with
  | outside =>
    rw [hp] at h
    cases move with
    | join =>
      cases h
      exact .join hp
    | acquire | finish | close => cases h
  | waiting slot =>
    rw [hp] at h
    cases move with
    | acquire =>
      obtain ⟨⟨answer, table⟩, ha, h⟩ := Option.bind_eq_some_iff.1 h
      cases answer with
      | some outcome =>
        cases h
        exact .share hp ha
      | none =>
        cases h
        exact .lock hp ha
    | join | finish | close => cases h
  | resolving slot =>
    rw [hp] at h
    cases move with
    | finish outcome =>
      cases h
      exact .finish outcome hp
    | join | acquire | close => cases h
  | closing slot outcome =>
    rw [hp] at h
    cases move with
    | close =>
      cases h
      exact .close hp
    | join | acquire | finish => cases h
  | returned slot outcome =>
    rw [hp] at h
    cases move <;> cases h

/-! ## The invariant -/

structure Invariant (owners : List Key) (state : State Key Out) : Prop where
  table : state.table.Sound owners
  calls : ∀ (i : Nat) (call : Call Key Out), state.calls[i]? = some call →
    call.Sound owners state.table i

namespace Invariant

variable {owners joined : List Key} {state next : State Key Out} {i : Nat} {call : Call Key Out}

theorem start (keys : List Key) : Invariant [] (.start keys : State Key Out) where
  table := .empty
  calls i call hc := by
    rw [State.start, List.getElem?_map, Option.map_eq_some_iff] at hc
    obtain ⟨key, -, rfl⟩ := hc
    exact trivial

/-- It is enough to look at the table and at the call that takes the step. -/
theorem advance (h : Invariant owners state) {table : Table Key Out} {phase : Phase Out}
    (hc : state.calls[i]? = some call) (ht : table.Sound joined) (hf : state.table.Frame table i)
    (ho : owners <+: joined) (hs : Call.Sound joined table i { call with phase }) :
    Invariant joined ({ state with table }.setPhase i phase) := by
  refine ⟨ht, ?_⟩
  intro j other hj
  rw [State.getElem?_setPhase] at hj
  by_cases hij : i = j
  · subst hij
    rw [if_pos rfl, hc, Option.map_some, Option.some.injEq] at hj
    subst hj
    exact hs
  · rw [if_neg hij] at hj
    exact (h.calls j other hj).frame hf (Ne.symm hij) ho

/-- The step lemma: one case for each section of a call. -/
theorem step (h : Invariant owners state) {move : Move Out}
    (hs : state.step i move = some next) : ∃ joined, Invariant joined next := by
  obtain ⟨call, hc, hstep⟩ := stepped_of_step hs
  have hsound := h.calls i call hc
  rw [Call.Sound] at hsound
  cases hstep with
  | join hp =>
    obtain ⟨joined, ht, ho, hk⟩ := h.table.join call.key
    exact ⟨joined, h.advance hc ht (.join ..) ho hk⟩
  | @share slot outcome table hp ha =>
    rw [hp] at hsound
    obtain ⟨-, -, hout, -, hsome⟩ := Table.acquire_eq_some ha
    have hf := Table.Frame.acquire ha
    exact ⟨owners, h.advance hc (h.table.acquire ha) hf (List.prefix_refl _)
      ⟨hsound, hf.outcome slot outcome hout⟩⟩
  | @lock slot table hp ha =>
    rw [hp] at hsound
    obtain ⟨hlt, -, hout, hnone, -⟩ := Table.acquire_eq_some ha
    have hf := Table.Frame.acquire ha
    refine ⟨owners, h.advance hc (h.table.acquire ha) hf (List.prefix_refl _) ⟨hsound, ?_, ?_⟩⟩
    · rw [hnone rfl, Table.holder?_setHolder _ hlt, if_pos rfl]
    · rw [hnone rfl, Table.outcome?_setHolder, hout]
  | @finish slot outcome hp =>
    rw [hp] at hsound
    obtain ⟨hk, hh, hout⟩ := hsound
    refine ⟨owners, h.advance hc (h.table.finish hh hout outcome) (.finish hh hout outcome)
      (List.prefix_refl _) ⟨hk, ?_, ?_⟩⟩
    · rw [Table.holder?_finish, hh]
    · rw [Table.outcome?_finish _ (Table.lt_length_of_holder? hh), if_pos rfl]
  | @close slot outcome hp =>
    rw [hp] at hsound
    obtain ⟨hk, hh, hout⟩ := hsound
    refine ⟨owners, h.advance hc (h.table.close hk hh (by simp [hout])) (.close hh call.key)
      (List.prefix_refl _) ⟨hk, ?_⟩⟩
    rw [Table.outcome?_close, hout]

end Invariant

theorem State.run_concat (state : State Key Out) (schedule : List (Nat × Move Out)) (i : Nat)
    (move : Move Out) :
    state.run (schedule ++ [(i, move)]) = (state.run schedule).bind (·.step i move) := by
  rw [run, List.foldlM_append]
  show (state.run schedule).bind _ = _
  cases state.run schedule with
  | none => rfl
  | some middle => exact bind_pure (middle.step i move)

/-- What holds of no steps, and of a schedule with one step more, holds of every schedule that can be
followed. -/
theorem State.run_induction {keys : List Key}
    (motive : List (Nat × Move Out) → State Key Out → Prop) (start : motive [] (.start keys))
    (step : ∀ (schedule : List (Nat × Move Out)) (middle next : State Key Out) (i : Nat)
      (move : Move Out), (State.start keys).run schedule = some middle →
        middle.step i move = some next → motive schedule middle →
          motive (schedule ++ [(i, move)]) next)
    {schedule : List (Nat × Move Out)} {state : State Key Out}
    (h : (State.start keys).run schedule = some state) : motive schedule state := by
  induction schedule using List.reverseRecOn generalizing state with
  | nil =>
    cases h
    exact start
  | append_singleton schedule taken ih =>
    obtain ⟨i, move⟩ := taken
    rw [State.run_concat] at h
    obtain ⟨middle, hm, hs⟩ := Option.bind_eq_some_iff.1 h
    exact step schedule middle state i move hm hs (ih hm)

theorem exists_invariant {keys : List Key} {state : State Key Out}
    (h : State.Reachable keys state) : ∃ owners, Invariant owners state := by
  -- by induction on the schedule from its end
  obtain ⟨schedule, h⟩ := h
  refine State.run_induction (fun _ state => ∃ owners, Invariant owners state) ?_ ?_ h
  · exact ⟨[], .start keys⟩
  · rintro _ _ _ _ _ - hs ⟨owners, hi⟩
    exact hi.step hs

/-! ## Exclusion -/

namespace Invariant

variable {owners : List Key} {state : State Key Out} {i j : Nat} {call other : Call Key Out}
  {slot : Nat}

theorem slotOf?_of_resolving (h : Invariant owners state) (hc : state.calls[i]? = some call)
    (hp : call.phase = .resolving slot) :
    state.table.slotOf? call.key = some slot ∧ state.table.holder? slot = some i := by
  have hsound := h.calls i call hc
  rw [Call.Sound, hp] at hsound
  obtain ⟨hk, hh, -⟩ := hsound
  exact ⟨h.table.slotOf?_of_holder? hk hh, hh⟩

theorem slotOf?_of_closing (h : Invariant owners state) (hc : state.calls[i]? = some call)
    {outcome : Out} (hp : call.phase = .closing slot outcome) :
    state.table.slotOf? call.key = some slot := by
  have hsound := h.calls i call hc
  rw [Call.Sound, hp] at hsound
  obtain ⟨hk, hh, -⟩ := hsound
  exact h.table.slotOf?_of_holder? hk hh

theorem resolving_unique (h : Invariant owners state) {slot' : Nat}
    (hi : state.calls[i]? = some call) (hj : state.calls[j]? = some other)
    (hp : call.phase = .resolving slot) (hp' : other.phase = .resolving slot')
    (hk : call.key = other.key) : i = j := by
  obtain ⟨hs, hh⟩ := h.slotOf?_of_resolving hi hp
  obtain ⟨hs', hh'⟩ := h.slotOf?_of_resolving hj hp'
  rw [hk, hs', Option.some.injEq] at hs
  rw [hs, hh, Option.some.injEq] at hh'
  exact hh'

end Invariant

/-- Of the callers of one key at most one resolves it, on the slot in the map under the key. No
slot gets a second outcome, and one that is about to be closed is still in the map. -/
theorem flights_exclude {keys : List Key} {state : State Key Out} (h : State.Reachable keys state) :
    (∀ (i j : Nat) (first second : Call Key Out) (slot slot' : Nat),
      state.calls[i]? = some first → state.calls[j]? = some second →
        first.phase = .resolving slot → second.phase = .resolving slot' → first.key = second.key →
          i = j) ∧
      (∀ call ∈ state.calls, ∀ slot, call.phase = .resolving slot →
        state.table.slotOf? call.key = some slot) ∧
      (∀ slot ∈ state.table.slots, slot.completions ≤ 1) ∧
      ∀ call ∈ state.calls, ∀ slot outcome, call.phase = .closing slot outcome →
        state.table.slotOf? call.key = some slot := by
  obtain ⟨owners, hinv⟩ := exists_invariant h
  refine ⟨?_, ?_, ?_, ?_⟩
  · intro i j first second slot slot' hi hj hp hp' hk
    exact hinv.resolving_unique hi hj hp hp' hk
  · intro call hm slot hp
    obtain ⟨i, hi⟩ := List.mem_iff_getElem?.1 hm
    exact (hinv.slotOf?_of_resolving hi hp).1
  · intro slot hm
    rw [hinv.table.completions slot hm]
    split <;> omega
  · intro call hm slot outcome hp
    obtain ⟨i, hi⟩ := List.mem_iff_getElem?.1 hm
    exact hinv.slotOf?_of_closing hi hp

/-- The first caller made the slot but the second one resolved and closed it. While the first still
waits there, a third caller resolves the key anew. -/
theorem flights_exclude_anew :
    let schedule : List (Nat × Move Nat) :=
      [(0, .join), (1, .join), (1, .acquire), (1, .finish 7), (1, .close), (2, .join), (2, .acquire)]
    let state : State String Nat := {
      table := {
        slots := [{ outcome := some 7, completions := 1 }, { holder := some 2 }]
        published := [("a", 1)] }
      calls := [⟨"a", .waiting 0⟩, ⟨"a", .returned 0 7⟩, ⟨"a", .resolving 1⟩] }
    (State.start ["a", "a", "a"]).run schedule = some state ∧
      state.table.slotOf? "a" = some 1 ∧
      (∀ slot ∈ state.table.slots, slot.completions ≤ 1) ∧
      ∀ (j : Nat) (other : Call String Nat), state.calls[j]? = some other → other.key = "a" →
        other.phase = .resolving 1 → j = 2 := by
  intro schedule state
  have hrun : (State.start ["a", "a", "a"]).run schedule = some state := by rfl
  obtain ⟨hunique, hslot, hcompletions, -⟩ := flights_exclude ⟨schedule, hrun⟩
  refine ⟨hrun, hslot ⟨"a", .resolving 1⟩ (by simp [state]) 1 rfl, hcompletions, ?_⟩
  intro j other hj hk hp
  exact hunique j 2 other ⟨"a", .resolving 1⟩ 1 1 hj rfl hp rfl hk

end NamedFunctions.Flight
