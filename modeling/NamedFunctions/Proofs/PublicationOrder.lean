import Mathlib.Data.List.Induction
import Mathlib.Data.List.Pairwise
import NamedFunctions.Concurrent.Publication
import NamedFunctions.Proofs.StoreGrowth

/-! # The order of publications

Calls that register at once come to what they would come to one after another. The published store
is always the one that the published calls build up in the order of their swaps, and what a call
answers is what registering would have answered alone at some step that the call itself takes. The
invariant is about the calls that are under way: as long as no other call has published, what a call
has loaded is the published snapshot, and what it has built is what registering makes of it. -/
namespace NamedFunctions.Publication

variable {Obj : Type}

/-! ## What a step does -/

/-- The steps that no other call can see. -/
inductive Moves (registration : Registration Obj) (current : Snapshot Obj) :
    Phase Obj → Phase Obj → Prop where
  | refuseBlank {name : String} : name ∈ registration.names → Text.isBlankText name = true →
      Moves registration current .idle (.returned (.error .unnamed))
  | begin : (∀ name ∈ registration.names, Text.isBlankText name = false) →
      Moves registration current .idle .loading
  | load : Moves registration current .loading (.checking current)
  | refuseTaken {loaded : Snapshot Obj} {name : String} :
      loaded.store.taken? registration = some name →
      Moves registration current (.checking loaded) (.returned (.error (.duplicate name)))
  | build {loaded : Snapshot Obj} : loaded.store.taken? registration = none →
      Moves registration current (.checking loaded)
        (.swapping loaded.version (loaded.store.append registration))

/-- All that the next step from a phase can come to. -/
inductive Advances (registration : Registration Obj) (current : Snapshot Obj) :
    Phase Obj → Progress Obj → Prop where
  | moved {before after : Phase Obj} : Moves registration current before after →
      Advances registration current before (.moved after)
  | published {built : Store Obj} :
      Advances registration current (.swapping current.version built) (.published built)
  | lost {version : Nat} {built : Store Obj} : version ≠ current.version →
      Advances registration current (.swapping version built) .lost

theorem advances_of_advance {registration : Registration Obj} {current : Snapshot Obj}
    {phase : Phase Obj} {progress : Progress Obj}
    (h : phase.advance registration current = some progress) :
    Advances registration current phase progress := by
  cases phase with
  | idle =>
    rw [Phase.advance] at h
    split at h
    · next hb =>
      cases h
      obtain ⟨name, hm, hn⟩ := List.any_eq_true.1 hb
      exact .moved (.refuseBlank hm hn)
    · next hb =>
      cases h
      exact .moved (.begin (by simpa using hb))
  | loading =>
    cases h
    exact .moved .load
  | checking loaded =>
    rw [Phase.advance] at h
    cases ht : loaded.store.taken? registration with
    | some name =>
      rw [ht] at h
      cases h
      exact .moved (.refuseTaken ht)
    | none =>
      rw [ht] at h
      cases h
      exact .moved (.build ht)
  | swapping version built =>
    rw [Phase.advance] at h
    split at h
    · next hv =>
      cases h
      exact hv ▸ .published
    · next hv =>
      cases h
      exact .lost hv
  | returned answer => cases h

/-- All that the step of a call can come to. -/
inductive Stepped (state : State Obj) (i : Nat) (call : Call Obj) : State Obj → Prop where
  | moved {phase : Phase Obj} : Moves call.registration state.current call.phase phase →
      Stepped state i call { state with calls := state.calls.set i { call with phase } }
  | published {built : Store Obj} : call.phase = .swapping state.current.version built →
      Stepped state i call {
        current := ⟨state.current.version + 1, built⟩
        calls := state.calls.set i { call with phase := .returned (.ok ()) }
        published := state.published ++ [i] }
  | lost {version : Nat} {built : Store Obj} : call.phase = .swapping version built →
      version ≠ state.current.version →
      Stepped state i call { state with
        calls := state.calls.set i { call with phase := .loading, failures := call.failures + 1 } }

theorem stepped_of_step {state next : State Obj} {i : Nat} (h : state.step i = some next) :
    ∃ call, state.calls[i]? = some call ∧ Stepped state i call next := by
  obtain ⟨call, hc, h⟩ := Option.bind_eq_some_iff.1 h
  obtain ⟨progress, hp, h⟩ := Option.bind_eq_some_iff.1 h
  refine ⟨call, hc, ?_⟩
  generalize hphase : call.phase = phase at hp
  cases advances_of_advance hp with
  | moved hm =>
    cases h
    exact .moved (hphase ▸ hm)
  | published =>
    cases h
    exact .published hphase
  | lost hv =>
    cases h
    exact .lost hphase hv

/-! ## The invariant -/

/-- What is known of a call by its phase. Both for the loaded snapshot and for the built store it
matters only whether another call has published since. -/
def Call.Sound (current : Snapshot Obj) (call : Call Obj) : Prop :=
  match call.phase with
  | .idle | .returned _ => True
  | .loading => ∀ name ∈ call.registration.names, Text.isBlankText name = false
  | .checking loaded =>
    (∀ name ∈ call.registration.names, Text.isBlankText name = false) ∧
      loaded.version ≤ current.version ∧ (loaded.version = current.version → loaded = current)
  | .swapping version built =>
    (∀ name ∈ call.registration.names, Text.isBlankText name = false) ∧
      version ≤ current.version ∧
        (version = current.version → current.store.register call.registration = .ok built)

def Phase.answer? : Phase Obj → Option (Except RegisterError Unit)
  | returned answer => some answer
  | idle | loading | checking _ | swapping _ _ => none

/-- What a call has answered, if it has returned. -/
def State.answer? (state : State Obj) (i : Nat) : Option (Except RegisterError Unit) :=
  state.calls[i]?.bind (·.phase.answer?)

/-- The registrations of the published calls, in the order of their swaps. -/
def State.publishedOf (state : State Obj) (registrations : List (Registration Obj)) :
    List (Registration Obj) :=
  state.published.filterMap (registrations[·]?)

structure Invariant (store : Store Obj) (registrations : List (Registration Obj))
    (state : State Obj) : Prop where
  calls_eq : state.calls.map Call.registration = registrations
  sound : ∀ call ∈ state.calls, call.Sound state.current
  nodup : state.published.Nodup
  mem_published : ∀ i, i ∈ state.published ↔ state.answer? i = some (.ok ())
  sequential : (state.publishedOf registrations).foldlM Store.register store =
    .ok state.current.store

theorem Call.Sound.moves {current : Snapshot Obj} {call : Call Obj} {phase : Phase Obj}
    (h : call.Sound current) (hm : Moves call.registration current call.phase phase) :
    Call.Sound current { call with phase } := by
  obtain ⟨registration, before, failures⟩ := call
  cases hm with
  | refuseBlank => exact trivial
  | begin hb => exact hb
  | load => exact ⟨h, Nat.le_refl _, fun _ => rfl⟩
  | refuseTaken => exact trivial
  | build ht =>
    obtain ⟨hb, hle, heq⟩ := h
    refine ⟨hb, hle, fun hv => ?_⟩
    rw [← heq hv]
    exact Store.register_eq_ok.2 ⟨fun name hm => ⟨hb name hm, Store.taken?_eq_none.1 ht name hm⟩, rfl⟩

/-- A swap leaves behind whatever other calls have loaded. -/
theorem Call.Sound.publish {current next : Snapshot Obj} {call : Call Obj} (h : call.Sound current)
    (hv : next.version = current.version + 1) : call.Sound next := by
  obtain ⟨registration, phase, failures⟩ := call
  cases phase with
  | idle => exact trivial
  | loading => exact h
  | checking loaded =>
    obtain ⟨hb, hle, -⟩ := h
    exact ⟨hb, by omega, fun he => by omega⟩
  | swapping version built =>
    obtain ⟨hb, hle, -⟩ := h
    exact ⟨hb, by omega, fun he => by omega⟩
  | returned answer => exact trivial

theorem Moves.answer? {registration : Registration Obj} {current : Snapshot Obj}
    {before after : Phase Obj} (h : Moves registration current before after) :
    before.answer? = none ∧ after.answer? ≠ some (.ok ()) := by
  cases h <;> exact ⟨rfl, by simp [Phase.answer?]⟩

theorem map_registration_set {calls : List (Call Obj)} {i : Nat} {call next : Call Obj}
    (hc : calls[i]? = some call) (hr : next.registration = call.registration) :
    (calls.set i next).map Call.registration = calls.map Call.registration := by
  apply List.ext_getElem?
  intro j
  rw [List.getElem?_map, List.getElem?_map, List.getElem?_set]
  by_cases hj : i = j
  · subst hj
    have hlt : i < calls.length := (List.getElem?_eq_some_iff.1 hc).1
    rw [if_pos rfl, if_pos hlt, hc, Option.map_some, Option.map_some, hr]
  · rw [if_neg hj]

theorem bind_answer?_set {calls : List (Call Obj)} {i : Nat} {call next : Call Obj}
    (hc : calls[i]? = some call) (j : Nat) :
    (calls.set i next)[j]?.bind (·.phase.answer?) =
      if i = j then next.phase.answer? else calls[j]?.bind (·.phase.answer?) := by
  have hlt : i < calls.length := (List.getElem?_eq_some_iff.1 hc).1
  rw [List.getElem?_set]
  by_cases hj : i = j
  · rw [if_pos hj, if_pos hj, if_pos hlt, Option.bind_some]
  · rw [if_neg hj, if_neg hj]

namespace Invariant

variable {store : Store Obj} {registrations : List (Registration Obj)} {state next : State Obj}
  {i : Nat}

theorem start (store : Store Obj) (registrations : List (Registration Obj)) :
    Invariant store registrations (.start store registrations) where
  calls_eq := by
    rw [State.start, List.map_map]
    exact List.map_id _
  sound call hm := by
    obtain ⟨registration, -, rfl⟩ := List.mem_map.1 hm
    exact trivial
  nodup := List.nodup_nil
  mem_published i := by
    cases hr : registrations[i]? <;> simp [State.start, State.answer?, hr, Phase.answer?]
  sequential := rfl

theorem update (h : Invariant store registrations state) {call replaced : Call Obj}
    (hc : state.calls[i]? = some call) (hr : replaced.registration = call.registration)
    (hs : replaced.Sound state.current) (hbefore : call.phase.answer? = none)
    (hafter : replaced.phase.answer? ≠ some (.ok ())) :
    Invariant store registrations { state with calls := state.calls.set i replaced } := by
  refine ⟨?_, ?_, h.nodup, ?_, h.sequential⟩
  · rw [← h.calls_eq]
    exact map_registration_set hc hr
  · intro other ho
    rcases List.mem_or_eq_of_mem_set ho with ho | rfl
    · exact h.sound other ho
    · exact hs
  · intro j
    rw [h.mem_published, State.answer?, State.answer?, bind_answer?_set hc]
    split
    · next hj =>
      subst hj
      simp [hc, hbefore, hafter]
    · rfl

theorem publish (h : Invariant store registrations state) {call : Call Obj} {built : Store Obj}
    (hc : state.calls[i]? = some call) (hp : call.phase = .swapping state.current.version built) :
    Invariant store registrations {
      current := ⟨state.current.version + 1, built⟩
      calls := state.calls.set i { call with phase := .returned (.ok ()) }
      published := state.published ++ [i] } := by
  have hi : i ∉ state.published := by
    rw [h.mem_published, State.answer?, hc, Option.bind_some, hp]
    simp [Phase.answer?]
  have hregister : state.current.store.register call.registration = .ok built := by
    have hs := h.sound call (List.mem_of_getElem? hc)
    rw [Call.Sound, hp] at hs
    exact hs.2.2 rfl
  have hri : registrations[i]? = some call.registration := by
    rw [← h.calls_eq, List.getElem?_map, hc, Option.map_some]
  refine ⟨?_, ?_, ?_, ?_, ?_⟩
  · rw [← h.calls_eq]
    exact map_registration_set hc rfl
  · intro other ho
    rcases List.mem_or_eq_of_mem_set ho with ho | rfl
    · exact (h.sound other ho).publish rfl
    · exact trivial
  · exact List.nodup_append.2 ⟨h.nodup, by simp, by grind⟩
  · intro j
    rw [State.answer?, bind_answer?_set hc, List.mem_append, h.mem_published, List.mem_singleton,
      State.answer?]
    split
    · next hj => simp [hj, Phase.answer?]
    · next hj => simp [Ne.symm hj]
  · have hpub := h.sequential
    rw [State.publishedOf] at hpub ⊢
    rw [List.filterMap_append, List.foldlM_append, hpub]
    simp only [List.filterMap_cons, hri, List.filterMap_nil, List.foldlM_cons, List.foldlM_nil,
      bind, Except.bind, hregister, pure, Except.pure]

theorem step (h : Invariant store registrations state) (hs : state.step i = some next) :
    Invariant store registrations next := by
  obtain ⟨call, hc, hstep⟩ := stepped_of_step hs
  have hsound := h.sound call (List.mem_of_getElem? hc)
  cases hstep with
  | moved hm => exact h.update hc rfl (hsound.moves hm) hm.answer?.1 hm.answer?.2
  | published hp => exact h.publish hc hp
  | lost hp hv =>
    rw [Call.Sound, hp] at hsound
    exact h.update hc rfl hsound.1 (by rw [hp]; rfl) (by simp [Phase.answer?])

end Invariant

/-! ## Runs -/

theorem State.run_concat (state : State Obj) (schedule : List Nat) (i : Nat) :
    state.run (schedule ++ [i]) = (state.run schedule).bind (·.step i) := by
  rw [run, run, List.foldlM_append]
  cases schedule.foldlM step state with
  | none => rfl
  | some middle => exact bind_pure (middle.step i)

/-- What holds of no steps, and of a schedule with one step more, holds of every schedule that can be
followed. -/
theorem State.run_induction {begin : State Obj} (motive : List Nat → State Obj → Prop)
    (start : motive [] begin)
    (step : ∀ (schedule : List Nat) (middle next : State Obj) (i : Nat),
      begin.run schedule = some middle → middle.step i = some next → motive schedule middle →
        motive (schedule ++ [i]) next)
    {schedule : List Nat} {state : State Obj} (h : begin.run schedule = some state) :
    motive schedule state := by
  induction schedule using List.reverseRecOn generalizing state with
  | nil =>
    cases h
    exact start
  | append_singleton schedule i ih =>
    rw [State.run_concat] at h
    obtain ⟨middle, hm, hs⟩ := Option.bind_eq_some_iff.1 h
    exact step schedule middle state i hm hs (ih hm)

theorem invariant_of_run {store : Store Obj} {registrations : List (Registration Obj)}
    {schedule : List Nat} {state : State Obj}
    (h : (State.start store registrations).run schedule = some state) :
    Invariant store registrations state := by
  -- by induction on the schedule from its end
  refine State.run_induction (fun _ state => Invariant store registrations state) ?_ ?_ h
  · exact .start store registrations
  · intro _ _ _ _ _ hs hinv
    exact hinv.step hs

/-- Somewhere in a schedule the call itself takes a step while the snapshot is the published one.
That is after the call started, and before it has returned. -/
def State.Meets (start : State Obj) (schedule : List Nat) (i : Nat) (snapshot : Snapshot Obj) : Prop :=
  ∃ before after state, schedule = before ++ i :: after ∧ start.run before = some state ∧
    state.current = snapshot

theorem State.Meets.concat {start : State Obj} {schedule : List Nat} {i : Nat}
    {snapshot : Snapshot Obj} (h : start.Meets schedule i snapshot) (j : Nat) :
    start.Meets (schedule ++ [j]) i snapshot := by
  obtain ⟨before, after, state, rfl, hr, hs⟩ := h
  exact ⟨before, after ++ [j], state, by simp, hr, hs⟩

theorem State.Meets.last {start state : State Obj} {schedule : List Nat}
    (h : start.run schedule = some state) (i : Nat) :
    start.Meets (schedule ++ [i]) i state.current :=
  ⟨schedule, [], state, rfl, h, rfl⟩

/-- What registering alone would answer. -/
def Snapshot.answer (snapshot : Snapshot Obj) (registration : Registration Obj) :
    Except RegisterError Unit :=
  (snapshot.store.register registration).map fun _ => ()

/-- Where a call has its loaded snapshot and its answer from, out of the snapshots that it met. -/
def Call.Traced (met : Snapshot Obj → Prop) (call : Call Obj) : Prop :=
  match call.phase with
  | .idle | .loading | .swapping _ _ => True
  | .checking loaded => met loaded
  | .returned answer => ∃ snapshot, met snapshot ∧ snapshot.answer call.registration = answer

theorem Call.Traced.mono {met more : Snapshot Obj → Prop} {call : Call Obj}
    (h : call.Traced met) (hm : ∀ snapshot, met snapshot → more snapshot) : call.Traced more := by
  obtain ⟨registration, phase, failures⟩ := call
  cases phase with
  | checking loaded => exact hm loaded h
  | returned answer =>
    obtain ⟨snapshot, hs, ha⟩ := h
    exact ⟨snapshot, hm snapshot hs, ha⟩
  | idle | loading | swapping => exact trivial

theorem Call.Traced.moves {met : Snapshot Obj → Prop} {current : Snapshot Obj} {call : Call Obj}
    {phase : Phase Obj} (h : call.Traced met) (sound : call.Sound current) (hc : met current)
    (hm : Moves call.registration current call.phase phase) :
    Call.Traced met { call with phase } := by
  obtain ⟨registration, before, failures⟩ := call
  cases hm with
  | @refuseBlank name hm hb =>
    refine ⟨current, hc, ?_⟩
    rw [Snapshot.answer, Store.register_eq_unnamed.2 ⟨name, hm, hb⟩]
    rfl
  | begin => exact trivial
  | load => exact hc
  | @refuseTaken loaded name ht =>
    refine ⟨loaded, h, ?_⟩
    rw [Snapshot.answer, Store.register_eq_duplicate.2 ⟨sound.1, ht⟩]
    rfl
  | build => exact trivial

theorem traced_of_run {store : Store Obj} {registrations : List (Registration Obj)}
    {schedule : List Nat} {state : State Obj} {i : Nat} {call : Call Obj}
    (h : (State.start store registrations).run schedule = some state)
    (hc : state.calls[i]? = some call) :
    call.Traced ((State.start store registrations).Meets schedule i) := by
  induction schedule using List.reverseRecOn generalizing state call with
  | nil =>
    cases h
    rw [State.start, List.getElem?_map, Option.map_eq_some_iff] at hc
    obtain ⟨registration, -, rfl⟩ := hc
    exact trivial
  | append_singleton schedule j ih =>
    rw [State.run_concat] at h
    obtain ⟨middle, hm, hs⟩ := Option.bind_eq_some_iff.1 h
    obtain ⟨stepping, hj, hstep⟩ := stepped_of_step hs
    have hsound := (invariant_of_run hm).sound stepping (List.mem_of_getElem? hj)
    -- a call that does not step itself has met what it met before
    by_cases hij : j = i
    · subst hij
      have hlt : j < middle.calls.length := (List.getElem?_eq_some_iff.1 hj).1
      have hbefore := (ih hm hj).mono fun _ hmet => hmet.concat j
      have hlast := State.Meets.last hm j
      cases hstep with
      | moved hmoves =>
        rw [List.getElem?_set_self hlt, Option.some.injEq] at hc
        subst hc
        exact hbefore.moves hsound hlast hmoves
      | @published built hp =>
        rw [List.getElem?_set_self hlt, Option.some.injEq] at hc
        subst hc
        rw [Call.Sound, hp] at hsound
        refine ⟨middle.current, hlast, ?_⟩
        rw [Snapshot.answer, hsound.2.2 rfl]
        rfl
      | lost =>
        rw [List.getElem?_set_self hlt, Option.some.injEq] at hc
        subst hc
        exact trivial
    · have hother : middle.calls[i]? = some call := by
        cases hstep <;> rwa [List.getElem?_set_ne hij] at hc
      exact (ih hm hother).mono fun _ hmet => hmet.concat j

/-! ## Linearization -/

theorem Invariant.published_unique {store : Store Obj} {registrations : List (Registration Obj)}
    {state : State Obj} (h : Invariant store registrations state) {i j : Nat}
    {first second : Registration Obj} {name : String} (hi : i ∈ state.published)
    (hj : j ∈ state.published) (hfirst : registrations[i]? = some first)
    (hsecond : registrations[j]? = some second) (hf : name ∈ first.names)
    (hs : name ∈ second.names) : i = j := by
  have hpairwise := (Store.names_disjoint_of_foldlM h.sequential).2
  rw [State.publishedOf, List.pairwise_filterMap] at hpairwise
  obtain ⟨k, hk, rfl⟩ := List.getElem_of_mem hi
  obtain ⟨l, hl, rfl⟩ := List.getElem_of_mem hj
  rcases Nat.lt_trichotomy k l with hlt | rfl | hlt
  · have hd := List.pairwise_iff_getElem.1 hpairwise k l hk hl hlt
    exact absurd hs (hd first hfirst second hsecond name hf)
  · rfl
  · have hd := List.pairwise_iff_getElem.1 hpairwise l k hl hk hlt
    exact absurd hf (hd second hsecond first hfirst name hs)

/-- The published store is what the accepted calls build up in the order of their swaps. What a
call has answered, registering alone would have answered at a step of that call, and of calls that
share a name at most one is accepted. -/
theorem registrations_linearize {store : Store Obj} {registrations : List (Registration Obj)}
    {state : State Obj} (schedule : List Nat)
    (h : (State.start store registrations).run schedule = some state) :
    (state.publishedOf registrations).foldlM Store.register store = .ok state.current.store ∧
      state.published.Nodup ∧
      (∀ i, i ∈ state.published ↔ state.answer? i = some (.ok ())) ∧
      (∀ i answer, state.answer? i = some answer → ∃ registration snapshot,
        registrations[i]? = some registration ∧
          (State.start store registrations).Meets schedule i snapshot ∧
          snapshot.answer registration = answer) ∧
      ∀ i j first second name, registrations[i]? = some first → registrations[j]? = some second →
        name ∈ first.names → name ∈ second.names → state.answer? i = some (.ok ()) →
          state.answer? j = some (.ok ()) → i = j := by
  have hinv := invariant_of_run h
  refine ⟨hinv.sequential, hinv.nodup, hinv.mem_published, ?_, ?_⟩
  · intro i answer ha
    obtain ⟨call, hc, hanswer⟩ := Option.bind_eq_some_iff.1 ha
    have htraced := traced_of_run h hc
    have hregistration : registrations[i]? = some call.registration := by
      rw [← hinv.calls_eq, List.getElem?_map, hc, Option.map_some]
    cases hp : call.phase with
    | returned returned =>
      rw [hp, Phase.answer?, Option.some.injEq] at hanswer
      rw [Call.Traced, hp] at htraced
      obtain ⟨snapshot, hmet, hs⟩ := htraced
      exact ⟨call.registration, snapshot, hregistration, hmet, hs.trans hanswer⟩
    | idle | loading | checking | swapping =>
      rw [hp] at hanswer
      cases hanswer
  · intro i j first second name hfirst hsecond hf hs hi hj
    rw [← hinv.mem_published] at hi hj
    exact hinv.published_unique hi hj hfirst hsecond hf hs

/-- Two calls want one name. The second has loaded before the first publishes; its swap fails, and
the store that it loads then has the name. -/
theorem registrations_linearize_race :
    let winner : Registration Unit := { primary := "a", target := .object () }
    let loser : Registration Unit := { primary := "b", aliases := ["a"], target := .object () }
    let start : State Unit := .start .empty [winner, loser]
    let schedule := [0, 0, 1, 1, 0, 1, 0, 1, 1, 1]
    ∃ state, start.run schedule = some state ∧
      state.answer? 0 = some (.ok ()) ∧
      state.answer? 1 = some (.error (.duplicate "a")) ∧
      (state.publishedOf [winner, loser]).foldlM Store.register .empty = .ok state.current.store ∧
      ∃ registration snapshot, [winner, loser][1]? = some registration ∧
        start.Meets schedule 1 snapshot ∧
        snapshot.answer registration = .error (.duplicate "a") :=
  ⟨_, by rfl, by rfl, by rfl,
    (registrations_linearize [0, 0, 1, 1, 0, 1, 0, 1, 1, 1] (by rfl)).1,
    (registrations_linearize [0, 0, 1, 1, 0, 1, 0, 1, 1, 1] (by rfl)).2.2.2.1 1 _ (by rfl)⟩

end NamedFunctions.Publication
