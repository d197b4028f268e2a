import Mathlib.Algebra.Order.BigOperators.Group.Finset
import NamedFunctions.Proofs.PublicationOrder

/-! # Progress of registrations

A call that registers waits for nobody, and tries again only where its swap has failed. The swap of a
call fails because another call has published after the snapshot that it was made from, and the next
snapshot that the call loads is newer than that. So the version of what a call has loaded is at least
the number of its failures, while the version that is published is the number of calls that have
published. No two failures of a call are due to the same publication: a call fails at most once for
each other call, and all calls together come to an end after a bounded number of steps, however they
are interleaved. -/
namespace NamedFunctions.Publication

variable {Obj : Type}

/-! ## Failures and versions -/

/-- The version of the snapshot that a call has loaded and not tried to swap out yet. -/
def Phase.loaded? : Phase Obj → Option Nat
  | checking loaded => some loaded.version
  | swapping version _ => some version
  | idle | loading | returned _ => none

/-- The calls other than this one that have published. -/
def State.publishedBeside (state : State Obj) (i : Nat) : List Nat :=
  state.published.filter (· ≠ i)

theorem Invariant.loaded_le {store : Store Obj} {registrations : List (Registration Obj)}
    {state : State Obj} (h : Invariant store registrations state) {i : Nat} {call : Call Obj}
    {version : Nat} (hc : state.calls[i]? = some call) (hl : call.phase.loaded? = some version) :
    version ≤ state.current.version := by
  have hsound := h.sound call (List.mem_of_getElem? hc)
  rw [Call.Sound] at hsound
  cases hphase : call.phase with
  | checking | swapping =>
    rw [hphase] at hl hsound
    cases hl
    exact hsound.2.1
  | idle | loading | returned =>
    rw [hphase] at hl
    cases hl

/-- A call has failed at most once for each other call that has published, and before it loaded at most
once for each publication up to what it loaded. -/
structure Charged (state : State Obj) : Prop where
  version_eq : state.current.version = state.published.length
  failures_le : ∀ (i : Nat) (call : Call Obj), state.calls[i]? = some call →
    call.failures ≤ (state.publishedBeside i).length
  failures_le_loaded : ∀ (i : Nat) (call : Call Obj) (version : Nat), state.calls[i]? = some call →
    call.phase.loaded? = some version → call.failures ≤ version

theorem eq_or_of_getElem?_set {calls : List (Call Obj)} {i j : Nat} {after call : Call Obj}
    (h : (calls.set i after)[j]? = some call) :
    i = j ∧ call = after ∨ i ≠ j ∧ calls[j]? = some call := by
  by_cases hij : i = j
  · subst hij
    rw [List.getElem?_set_self (by simpa using (List.getElem?_eq_some_iff.1 h).1)] at h
    exact .inl ⟨rfl, (Option.some.inj h).symm⟩
  · rw [List.getElem?_set_ne hij] at h
    exact .inr ⟨hij, h⟩

theorem State.length_publishedBeside_le (state : State Obj) (i : Nat) :
    (state.publishedBeside i).length ≤ state.published.length :=
  List.length_filter_le _ _

namespace Charged

variable {state next : State Obj} {i : Nat} {call : Call Obj}

theorem start (store : Store Obj) (registrations : List (Registration Obj)) :
    Charged (.start store registrations) where
  version_eq := rfl
  failures_le i call hc := by
    rw [State.start, List.getElem?_map] at hc
    obtain ⟨registration, -, rfl⟩ := Option.map_eq_some_iff.1 hc
    exact Nat.zero_le _
  failures_le_loaded i call version hc hl := by
    rw [State.start, List.getElem?_map] at hc
    obtain ⟨registration, -, rfl⟩ := Option.map_eq_some_iff.1 hc
    cases hl

/-- It is enough to look at the call that takes the step: for the others there can only be more
publications. -/
theorem advance (h : Charged state) {after : Call Obj} {current : Snapshot Obj} {published : List Nat}
    (hversion : current.version = published.length) (hmore : state.published.Sublist published)
    (hfailures : after.failures ≤ (published.filter (· ≠ i)).length)
    (hloaded : ∀ version, after.phase.loaded? = some version → after.failures ≤ version) :
    Charged { current, calls := state.calls.set i after, published } where
  version_eq := hversion
  failures_le j other ho := by
    rcases eq_or_of_getElem?_set ho with ⟨rfl, rfl⟩ | ⟨-, ho⟩
    · exact hfailures
    · exact (h.failures_le j other ho).trans (hmore.filter _).length_le
  failures_le_loaded j other version ho hl := by
    rcases eq_or_of_getElem?_set ho with ⟨rfl, rfl⟩ | ⟨-, ho⟩
    · exact hloaded version hl
    · exact h.failures_le_loaded j other version ho hl

theorem failures_le_version (h : Charged state) (hc : state.calls[i]? = some call) :
    call.failures ≤ state.current.version := by
  rw [h.version_eq]
  exact (h.failures_le i call hc).trans (state.length_publishedBeside_le i)

theorem moves (h : Charged state) (hc : state.calls[i]? = some call) {phase : Phase Obj}
    (hm : Moves call.registration state.current call.phase phase) :
    Charged { state with calls := state.calls.set i { call with phase } } := by
  refine h.advance h.version_eq (List.Sublist.refl _) (h.failures_le i call hc) ?_
  intro version hl
  have hfew := h.failures_le_version hc
  generalize hbefore : call.phase = before at hm
  cases hm with
  | load =>
    cases hl
    exact hfew
  | build =>
    cases hl
    exact h.failures_le_loaded i call _ hc (by rw [hbefore]; rfl)
  | refuseBlank | begin | refuseTaken => cases hl

theorem publish (h : Charged state) (hc : state.calls[i]? = some call) (built : Store Obj) :
    Charged {
      current := ⟨state.current.version + 1, built⟩
      calls := state.calls.set i { call with phase := .returned (.ok ()) }
      published := state.published ++ [i] } := by
  refine h.advance ?_ (List.sublist_append_left _ _) ?_ fun _ hl => by cases hl
  · rw [List.length_append, List.length_singleton, h.version_eq]
  · have hself : (state.published ++ [i]).filter (· ≠ i) = state.publishedBeside i := by
      simp [State.publishedBeside]
    rw [hself]
    exact h.failures_le i call hc

/-- The swap of a call that has not published fails: there is a publication after what it loaded, one
more than the call has had failures. -/
theorem lose (h : Charged state) (hc : state.calls[i]? = some call) {version : Nat} {built : Store Obj}
    (hp : call.phase = .swapping version built) (hv : version < state.current.version)
    (hi : i ∉ state.published) :
    Charged { state with
      calls := state.calls.set i { call with phase := .loading, failures := call.failures + 1 } } := by
  refine h.advance h.version_eq (List.Sublist.refl _) ?_ fun _ hl => by cases hl
  have hall : state.published.filter (· ≠ i) = state.published :=
    List.filter_eq_self.2 fun j hj => decide_eq_true fun he => hi (he ▸ hj)
  have hfew := h.failures_le_loaded i call version hc (by rw [hp]; rfl)
  have hversion := h.version_eq
  show call.failures + 1 ≤ (state.published.filter (· ≠ i)).length
  rw [hall]
  omega

theorem step (h : Charged state) {store : Store Obj} {registrations : List (Registration Obj)}
    (hinv : Invariant store registrations state) (hs : state.step i = some next) : Charged next := by
  obtain ⟨call, hc, hstep⟩ := stepped_of_step hs
  cases hstep with
  | moved hm => exact h.moves hc hm
  | published => exact h.publish hc _
  | @lost version _ hp hv =>
    have hle : version ≤ state.current.version := hinv.loaded_le hc (by rw [hp]; rfl)
    refine h.lose hc hp (hle.lt_of_ne hv) ?_
    rw [hinv.mem_published, State.answer?, hc, Option.bind_some, hp]
    simp [Phase.answer?]

end Charged

theorem charged_of_run {store : Store Obj} {registrations : List (Registration Obj)}
    {schedule : List Nat} {state : State Obj}
    (h : (State.start store registrations).run schedule = some state) : Charged state := by
  refine State.run_induction (fun _ state => Charged state) ?_ ?_ h
  · exact .start store registrations
  · intro _ _ _ _ hr hs hcharged
    exact hcharged.step (invariant_of_run hr) hs

/-! ## Steps -/

/-- How many steps a call has taken at most when it comes to this phase for the first time. -/
def Phase.place : Phase Obj → Nat
  | idle => 0
  | loading => 1
  | checking _ => 2
  | swapping _ _ => 3
  | returned _ => 4

/-- How many steps a call has taken at most: each failure costs three, to load, check and swap. -/
def Call.spent (call : Call Obj) : Nat :=
  3 * call.failures + call.phase.place

theorem Moves.place_lt {registration : Registration Obj} {current : Snapshot Obj}
    {before after : Phase Obj} (h : Moves registration current before after) :
    before.place < after.place := by
  cases h <;> simp [Phase.place]

/-- A step is spent by the call that takes it, and by no other. -/
theorem Stepped.getElem?_calls {state next : State Obj} {i : Nat} {call : Call Obj}
    (h : Stepped state i call next) :
    ∃ after : Call Obj, next.calls = state.calls.set i after ∧ call.spent < after.spent := by
  cases h with
  | moved hm =>
    refine ⟨_, rfl, ?_⟩
    have hlt := hm.place_lt
    simp only [Call.spent]
    omega
  | published hp =>
    refine ⟨_, rfl, ?_⟩
    simp [Call.spent, hp, Phase.place]
  | lost hp =>
    refine ⟨_, rfl, ?_⟩
    simp only [Call.spent, hp, Phase.place]
    omega

theorem count_le_spent {store : Store Obj} {registrations : List (Registration Obj)}
    {schedule : List Nat} {state : State Obj}
    (h : (State.start store registrations).run schedule = some state) :
    ∀ i call, state.calls[i]? = some call → schedule.count i ≤ call.spent := by
  refine State.run_induction
    (fun schedule state => ∀ i call, state.calls[i]? = some call → schedule.count i ≤ call.spent)
    ?_ ?_ h
  · intro i call _
    exact Nat.zero_le _
  · intro schedule middle next j _ hs ih i call hc
    obtain ⟨stepping, hj, hstep⟩ := stepped_of_step hs
    obtain ⟨after, hcalls, hlt⟩ := hstep.getElem?_calls
    rw [hcalls] at hc
    rw [List.count_append]
    rcases eq_or_of_getElem?_set hc with ⟨rfl, rfl⟩ | ⟨hji, hc⟩
    · have hbefore := ih j stepping hj
      rw [List.count_singleton_self]
      omega
    · rw [List.count_singleton, beq_false_of_ne hji, if_neg (by simp), Nat.add_zero]
      exact ih i call hc

theorem State.exists_step {state : State Obj} {i : Nat} {call : Call Obj}
    (hc : state.calls[i]? = some call) (h : call.phase.answer? = none) :
    ∃ next, state.step i = some next := by
  obtain ⟨progress, hp⟩ :
      ∃ progress, call.phase.advance call.registration state.current = some progress := by
    cases hphase : call.phase with
    | loading => exact ⟨_, rfl⟩
    | idle | checking | swapping =>
      rw [Phase.advance]
      split <;> exact ⟨_, rfl⟩
    | returned =>
      rw [hphase] at h
      cases h
  rw [State.step, hc]
  simp only [bind, Option.bind_some, hp]
  cases progress <;> exact ⟨_, rfl⟩

/-! ## Bounds -/

theorem Phase.answer?_of_loaded? {phase : Phase Obj} {version : Nat}
    (h : phase.loaded? = some version) : phase.answer? = none := by
  cases phase with
  | checking | swapping => rfl
  | idle | loading | returned => cases h

namespace Invariant

variable {store : Store Obj} {registrations : List (Registration Obj)} {state : State Obj} {i : Nat}

theorem length_calls (h : Invariant store registrations state) :
    state.calls.length = registrations.length := by
  rw [← h.calls_eq, List.length_map]

theorem lt_length_of_published (h : Invariant store registrations state) (hi : i ∈ state.published) :
    i < registrations.length := by
  obtain ⟨call, hc, -⟩ := Option.bind_eq_some_iff.1 ((h.mem_published i).1 hi)
  rw [← h.length_calls]
  exact (List.getElem?_eq_some_iff.1 hc).1

theorem length_publishedBeside_lt (h : Invariant store registrations state)
    (hi : i < registrations.length) : (state.publishedBeside i).length < registrations.length := by
  have hnodup : (i :: state.publishedBeside i).Nodup :=
    List.nodup_cons.2 ⟨by simp [State.publishedBeside], h.nodup.filter _⟩
  have hsubset : i :: state.publishedBeside i ⊆ List.range registrations.length := by
    refine List.cons_subset.2 ⟨List.mem_range.2 hi, fun j hj => ?_⟩
    exact List.mem_range.2 (h.lt_length_of_published (List.mem_filter.1 hj).1)
  have hle := (hnodup.subperm hsubset).length_le
  rwa [List.length_cons, List.length_range] at hle

/-- What a call has loaded is not the published snapshot because another call has published since. -/
theorem exists_published_since (h : Invariant store registrations state) (charged : Charged state)
    {call : Call Obj} {version : Nat} (hc : state.calls[i]? = some call)
    (hl : call.phase.loaded? = some version) (hv : version ≠ state.current.version) :
    ∃ j ∈ state.published.drop version, j ≠ i ∧ state.answer? j = some (.ok ()) := by
  have hle := h.loaded_le hc hl
  have hversion := charged.version_eq
  have hsince : 0 < (state.published.drop version).length := by
    rw [List.length_drop]
    omega
  obtain ⟨j, hj⟩ := List.exists_mem_of_length_pos hsince
  have hok := (h.mem_published j).1 (List.mem_of_mem_drop hj)
  refine ⟨j, hj, ?_, hok⟩
  rintro rfl
  rw [State.answer?, hc, Option.bind_some, Phase.answer?_of_loaded? hl] at hok
  cases hok

end Invariant

theorem lt_length_of_mem_schedule {store : Store Obj} {registrations : List (Registration Obj)}
    {schedule : List Nat} {state : State Obj}
    (h : (State.start store registrations).run schedule = some state) :
    ∀ i ∈ schedule, i < registrations.length := by
  refine State.run_induction (fun schedule _ => ∀ i ∈ schedule, i < registrations.length) ?_ ?_ h
  · simp
  · intro schedule middle next j hr hs ih i hi
    rcases List.mem_append.1 hi with hi | hi
    · exact ih i hi
    · obtain rfl := List.mem_singleton.1 hi
      obtain ⟨call, hc, -⟩ := stepped_of_step hs
      rw [← (invariant_of_run hr).length_calls]
      exact (List.getElem?_eq_some_iff.1 hc).1

theorem length_le_of_count_le {schedule : List Nat} {callers steps : Nat}
    (hcallers : ∀ i ∈ schedule, i < callers) (hsteps : ∀ i ∈ schedule, schedule.count i ≤ steps) :
    schedule.length ≤ callers * steps := by
  have hcard : schedule.toFinset.card ≤ callers := by
    rw [← Finset.card_range callers]
    refine Finset.card_le_card fun i hi => ?_
    exact Finset.mem_range.2 (hcallers i (List.mem_toFinset.1 hi))
  calc schedule.length
      = ∑ i ∈ schedule.toFinset, schedule.count i := schedule.sum_toFinset_count_eq_length.symm
    _ ≤ schedule.toFinset.card • steps :=
        Finset.sum_le_card_nsmul _ _ _ fun i hi => hsteps i (List.mem_toFinset.1 hi)
    _ ≤ callers * steps := Nat.mul_le_mul_right steps hcard

/-- No call has failed to swap more often than others have published, so all calls together take a
bounded number of steps. Behind a swap that must fail stands a call that returned without an
error, and a call that has not returned can go on. -/
theorem registrations_progress {store : Store Obj} {registrations : List (Registration Obj)}
    {state : State Obj} (schedule : List Nat)
    (h : (State.start store registrations).run schedule = some state) :
    (∀ i call, state.calls[i]? = some call → call.failures ≤ (state.publishedBeside i).length) ∧
      schedule.length ≤ registrations.length * (3 * registrations.length + 1) ∧
      (∀ i call version, state.calls[i]? = some call → call.phase.loaded? = some version →
        version ≠ state.current.version →
        ∃ j ∈ state.published.drop version, j ≠ i ∧ state.answer? j = some (.ok ())) ∧
      ∀ i call, state.calls[i]? = some call → call.phase.answer? = none →
        ∃ next, state.step i = some next := by
  have hinv := invariant_of_run h
  have hcharged := charged_of_run h
  have hcallers := lt_length_of_mem_schedule h
  refine ⟨hcharged.failures_le, length_le_of_count_le hcallers fun i hi => ?_,
    fun _ _ _ => hinv.exists_published_since hcharged, fun _ _ => State.exists_step⟩
  have hlt : i < state.calls.length := hinv.length_calls ▸ hcallers i hi
  have hcount := count_le_spent h i _ (List.getElem?_eq_getElem hlt)
  have hfew := hcharged.failures_le i _ (List.getElem?_eq_getElem hlt)
  have hothers := hinv.length_publishedBeside_lt (hcallers i hi)
  have hplace : (state.calls[i]).phase.place ≤ 4 := by
    cases (state.calls[i]).phase <;> simp [Phase.place]
  rw [Call.spent] at hcount
  omega

/-- Two calls with names of their own load the empty store. The first publishes, and then the swap of
the second fails; before that it holds a store that is built from the first snapshot. -/
theorem registrations_progress_race :
    let registrations : List (Registration Unit) :=
      [{ primary := "a", target := .object () }, { primary := "b", target := .object () }]
    let schedule := [0, 0, 1, 1, 0, 1, 0]
    (∃ state call, (State.start .empty registrations).run schedule = some state ∧
        state.calls[1]? = some call ∧ call.phase.loaded? = some 0 ∧ state.current.version = 1 ∧
        (∃ j ∈ state.published.drop 0, j ≠ 1 ∧ state.answer? j = some (.ok ())) ∧
        ∃ next, state.step 1 = some next) ∧
      ∃ state call, (State.start .empty registrations).run (schedule ++ [1]) = some state ∧
        state.calls[1]? = some call ∧ call.failures = 1 ∧
        call.failures ≤ (state.publishedBeside 1).length ∧
        (schedule ++ [1]).length ≤ registrations.length * (3 * registrations.length + 1) := by
  intro registrations schedule
  have hbefore (state : State Unit)
      (h : (State.start .empty registrations).run schedule = some state) :=
    registrations_progress schedule h
  have hafter (state : State Unit)
      (h : (State.start .empty registrations).run (schedule ++ [1]) = some state) :=
    registrations_progress (schedule ++ [1]) h
  unfold schedule registrations at *
  refine ⟨⟨_, _, by rfl, by rfl, by rfl, by rfl, ?_, ?_⟩, _, _, by rfl, by rfl, by rfl, ?_, ?_⟩
  · exact (hbefore _ (by rfl)).2.2.1 1 _ 0 (by rfl) (by rfl) (by decide)
  · exact (hbefore _ (by rfl)).2.2.2 1 _ (by rfl) (by rfl)
  · exact (hafter _ (by rfl)).1 1 _ (by rfl)
  · exact (hafter _ (by rfl)).2.1

end NamedFunctions.Publication
