import Mathlib.Data.List.Induction
import NamedFunctions.Proofs.InterleavingSteps
import NamedFunctions.Proofs.SharedName
import NamedFunctions.Registry.Declared
import NamedFunctions.Scripted

/-! # Discovered once

Any number of operations work at once on one layer over the store. A name that the registry supplies
is nevertheless fetched at most once, registered at most once, and in the store whenever an operation
about it has returned. The invariant is that every worker has a standing with the name that is true of
what is shared, and that what is left of its procedure obeys. -/
namespace NamedFunctions.Interleaving

variable {Obj α : Type}

/-- What is left of a procedure at a stage. -/
def Stage.rest : Stage Obj α → Procedure Obj α
  | ready procedure => procedure
  | registering registration _ next => .register registration next
  | waiting flight _ next => .enter flight.1 flight.2 next
  | closing _ _ next => next

def Stage.Fits (owners : List FlightKey) (shared : Shared Obj) (i : Nat) : Stage Obj α → Prop
  | ready _ => True
  | registering registration phase _ => Registers shared.current { registration, phase }
  | waiting flight slot _ => owners[slot]? = some flight
  | closing flight slot _ => owners[slot]? = some flight ∧ shared.flights.holder? slot = some i ∧
    shared.flights.outcome? slot ≠ none

/-- The worker has a standing that is so and that what is left of its procedure obeys. -/
structure Worker.Sound (key : FlightKey) (post : α → Standing → Prop) (owners : List FlightKey)
    (shared : Shared Obj) (i : Nat) (worker : Worker Obj α) : Prop where
  fits : worker.stage.Fits owners shared i
  obeys : ∃ standing, Stands key owners shared i worker.held standing ∧
    worker.stage.rest.Obeys key post standing

structure Invariant (key : FlightKey) (post : Nat → α → Standing → Prop) (owners : List FlightKey)
    (state : State Obj α) : Prop where
  shared : (state.shared key).Sound key owners
  workers : ∀ (i : Nat) (worker : Worker Obj α), state.workers[i]? = some worker →
    worker.Sound key (post i) owners (state.shared key) i

/-! ## Steps of others -/

section Frame

variable {key : FlightKey} {owners joined : List FlightKey} {before after : Shared Obj} {i j : Nat}

theorem Stage.Fits.frame {stage : Stage Obj α} (h : stage.Fits owners before j)
    (hr : Shared.Rely key owners joined i before after) (hji : j ≠ i) :
    stage.Fits joined after j := by
  cases stage with
  | ready => exact trivial
  | registering registration phase next => exact Registers.frame h hr.current hr.grows
  | waiting flight slot next => exact Flight.owner_joined h hr.owned
  | closing flight slot next =>
    obtain ⟨howner, hholder, houtcome⟩ := h
    obtain ⟨hholder', houtcome'⟩ := hr.flights.locked slot j hji hholder
    exact ⟨Flight.owner_joined howner hr.owned, hholder', houtcome' ▸ houtcome⟩

theorem Worker.Sound.frame {post : α → Standing → Prop} {worker : Worker Obj α}
    (h : worker.Sound key post owners before j) (hs : before.Sound key owners)
    (hr : Shared.Rely key owners joined i before after) (hji : j ≠ i) :
    worker.Sound key post joined after j := by
  obtain ⟨standing, hstands, hobeys⟩ := h.obeys
  exact ⟨h.fits.frame hr hji, standing, hstands.frame hs hr hji, hobeys⟩

end Frame

/-! ## Steps -/

namespace Invariant

variable {key : FlightKey} {post : Nat → α → Standing → Prop} {owners joined : List FlightKey}
  {state next : State Obj α} {i : Nat} {worker replaced : Worker Obj α}

/-- It is enough to look at what is shared and at the worker that takes the step. -/
theorem advance (h : Invariant key post owners state) (hw : state.workers[i]? = some worker)
    (hn : next.workers = state.workers.set i replaced) (hs : (next.shared key).Sound key joined)
    (hr : Shared.Rely key owners joined i (state.shared key) (next.shared key))
    (self : replaced.Sound key (post i) joined (next.shared key) i) :
    Invariant key post joined next := by
  have hlt : i < state.workers.length := (List.getElem?_eq_some_iff.1 hw).1
  refine ⟨hs, fun j other ho => ?_⟩
  rw [hn] at ho
  by_cases hij : i = j
  · subst hij
    rw [List.getElem?_set_self hlt] at ho
    cases ho
    exact self
  · rw [List.getElem?_set_ne hij] at ho
    exact (h.workers j other ho).frame h.shared hr (Ne.symm hij)

theorem stay (h : Invariant key post owners state) (hw : state.workers[i]? = some worker)
    (hn : next.workers = state.workers.set i replaced) (he : next.shared key = state.shared key)
    (self : replaced.Sound key (post i) owners (state.shared key) i) :
    Invariant key post owners next :=
  h.advance hw hn (he ▸ h.shared) (he ▸ .refl _) (he ▸ self)

theorem note (h : Invariant key post owners state) (hw : state.workers[i]? = some worker)
    {standing : Standing} (hstands : Stands key owners (state.shared key) i worker.held standing)
    {note : Note} {next : Procedure Obj α}
    (hobeys : (Procedure.note note next).Obeys key (post i) standing) :
    Invariant key post owners ({ state with trace := state.trace ++ [(i, note)] }.setWorker i
      { worker with stage := .ready next }) := by
  have hfetches := state.fetches_concat i note key.2
  simp only [Procedure.Obeys] at hobeys
  split at hobeys
  · next hn =>
    obtain ⟨rfl, hobeys⟩ := hobeys
    obtain ⟨slot, hheld, hlock⟩ := hstands.exists_held rfl
    have hnone : state.fetches key.2 = 0 := hstands.absent rfl
    rw [if_pos hn, hnone] at hfetches
    refine h.advance hw rfl (h.shared.fetch hlock hfetches)
      ⟨List.prefix_refl _, .refl .., .inl rfl, .refl _, .inr ⟨slot, hlock⟩⟩
      ⟨trivial, .fetched, ?_, hobeys⟩
    rw [hheld]
    exact .fetched hlock
  · next hn =>
    rw [if_neg hn] at hfetches
    have hshared := congrArg (Shared.mk state.current state.flights) hfetches
    exact h.stay hw rfl hshared ⟨trivial, standing, hstands, hobeys⟩

/-- The step lemma: one case for each thing that a step can come to. -/
theorem step (h : Invariant key post owners state) (hs : state.step i = some next) :
    ∃ joined, Invariant key post joined next := by
  obtain ⟨worker, hw, hstep⟩ := stepped_of_step hs
  obtain ⟨hfits, standing, hstands, hobeys⟩ := h.workers i worker hw
  cases hstep with
  | read hp =>
    rw [hp] at hobeys
    exact ⟨owners, h.stay hw rfl rfl ⟨trivial, _, hstands.look, hobeys _ hstands.known⟩⟩
  | @note note next hp =>
    rw [hp] at hobeys
    exact ⟨owners, h.note hw hstands hobeys⟩
  | @submit registration next hp =>
    rw [hp] at hobeys
    exact ⟨owners, h.stay hw rfl rfl ⟨.start registration, standing, hstands, hobeys⟩⟩
  | @answered registration answer next hp =>
    rw [hp] at hobeys hfits
    obtain ⟨snapshot, e, hg, hr, rfl⟩ := Registers.refused hfits
    exact ⟨owners, h.stay hw rfl rfl ⟨trivial, _, hstands.see hg, hobeys.2 _ e hr⟩⟩
  | @moved registration before after next hp hm =>
    rw [hp] at hobeys hfits
    exact ⟨owners, h.stay hw rfl rfl ⟨Registers.moves hfits hm, standing, hstands, hobeys⟩⟩
  | @published registration built next hp =>
    rw [hp] at hobeys hfits
    -- the swap succeeds, so what was built is what registering makes of the published store
    have hr : state.current.store.register registration = .ok built := hfits.sound.2.2 rfl
    have hg := Store.extends_of_register hr
    have hmoved :
        Stands key owners { state.shared key with current := ⟨state.current.version + 1, built⟩ } i
          worker.held standing := hstands.transfer hstands.locks hg fun _ => rfl
    exact ⟨owners, h.advance hw rfl (h.shared.publish hr _)
      ⟨List.prefix_refl _, .refl .., .inr rfl, hg, .inl rfl⟩
      ⟨trivial, _, hmoved.see (.refl _), hobeys.1 _ built hr⟩⟩
  | @lost registration version built next hp =>
    rw [hp] at hobeys hfits
    exact ⟨owners, h.stay hw rfl rfl ⟨Registers.retry hfits, standing, hstands, hobeys⟩⟩
  | @join depth name next hp =>
    rw [hp] at hobeys
    obtain ⟨joined, ho, hslot, hshared⟩ := h.shared.join (depth, name)
    refine ⟨joined, h.advance hw rfl hshared (.ofFrame ho (.join ..)) ⟨hslot, standing, ?_, hobeys⟩⟩
    refine hstands.transfer (fun entry hm => ?_) (.refl _) fun _ => rfl
    obtain ⟨howner, hholder, houtcome⟩ := hstands.locks entry hm
    exact ⟨Flight.owner_joined howner ho, (Flight.Table.holder?_join ..).trans hholder,
      (Flight.Table.outcome?_join ..).trans houtcome⟩
  | @share flight slot next outcome flights hp ha =>
    rw [hp] at hobeys hfits
    obtain ⟨-, -, hout, -, hsame⟩ := Flight.Table.acquire_eq_some ha
    obtain rfl := hsame (by simp)
    refine ⟨owners, h.stay hw rfl rfl ⟨trivial, _, ?_, hobeys.2.1 outcome⟩⟩
    -- the outcome of the name's own flight tells that the name is known
    split
    · next hk =>
      have hk : flight = key := hk
      subst hk
      exact hstands.learn (h.shared.outcomes slot hfits (by simp [State.shared, hout]))
    · exact hstands
  | @lock flight slot next flights hp ha =>
    rw [hp] at hobeys hfits
    obtain ⟨hlt, hfree, hout, hnone, -⟩ := Flight.Table.acquire_eq_some ha
    have hlock : Held owners flights i flight slot := by
      rw [hnone rfl]
      refine ⟨hfits, ?_, (Flight.Table.outcome?_setHolder ..).trans hout⟩
      rw [Flight.Table.holder?_setHolder _ hlt, if_pos rfl]
    refine ⟨owners, h.advance hw rfl (h.shared.lock ha) (.ofFrame (List.prefix_refl _) (.acquire ha))
      ⟨trivial, .inside flight standing.known, ?_, hobeys.2.2⟩⟩
    rw [hstands.held_eq_nil hobeys.1]
    refine .inside hlock hstands.known ?_
    rintro rfl
    exact h.shared.free hfits hfree hout
  | @finish depth name outcome next flight slot held hp hheld =>
    rw [hp] at hobeys
    obtain ⟨hflight, hknown, hrest⟩ := hobeys
    obtain ⟨position, he, hlock⟩ := hstands.exists_held hflight
    obtain ⟨rfl, rfl, rfl⟩ : flight = (depth, name) ∧ slot = position ∧ held = [] := by
      simpa [and_assoc] using hheld.symm.trans he
    have hlt := Flight.Table.lt_length_of_holder? hlock.holder
    have hshared := h.shared.finish hlock (fun hk => hstands.known (hknown hk)) outcome
    refine ⟨owners, h.advance hw rfl hshared
      (.ofFrame (List.prefix_refl _) (.finish hlock.holder hlock.outcome outcome))
      ⟨⟨hlock.owner, ?_, ?_⟩, .outside standing.known, .outside hstands.known, hrest⟩⟩
    · exact (Flight.Table.holder?_finish ..).trans hlock.holder
    · have hout := (Flight.Table.outcome?_finish _ hlt outcome slot).trans (if_pos rfl)
      exact hout.trans_ne (by simp)
  | @close flight slot next hp =>
    rw [hp] at hobeys hfits
    obtain ⟨ho, hh, hout⟩ := hfits
    refine ⟨owners, h.advance hw rfl (h.shared.close ho hh hout)
      (.ofFrame (List.prefix_refl _) (.close hh flight)) ⟨trivial, standing, ?_, hobeys⟩⟩
    refine hstands.transfer (fun entry hm => ?_) (.refl _) fun _ => rfl
    obtain ⟨howner, hholder, houtcome⟩ := hstands.locks entry hm
    -- the slot that is closed has an outcome, and the locks still held have none
    have hne : slot ≠ entry.2 := by
      intro he
      exact hout (he ▸ houtcome)
    refine ⟨howner, ?_, (Flight.Table.outcome?_close ..).trans houtcome⟩
    exact (Flight.Table.holder?_close _ _ (Flight.Table.lt_length_of_holder? hh) _).trans
      ((if_neg hne).trans hholder)

theorem start {store : Store Obj} {procedures : List (Procedure Obj α)} (hs : store.WellFormed)
    (hp : ∀ (i : Nat) (procedure : Procedure Obj α), procedures[i]? = some procedure →
      procedure.Obeys key (post i) (.outside false)) :
    Invariant key post [] (.start store procedures) where
  shared := ⟨.empty, hs, nofun, .inl rfl⟩
  workers i worker hw := by
    rw [State.start, List.getElem?_map, Option.map_eq_some_iff] at hw
    obtain ⟨procedure, hi, rfl⟩ := hw
    exact ⟨trivial, .outside false, .outside nofun, hp i procedure hi⟩

end Invariant

theorem exists_invariant {key : FlightKey} {post : Nat → α → Standing → Prop} {store : Store Obj}
    {procedures : List (Procedure Obj α)} {schedule : List Nat} {state : State Obj α}
    (hs : store.WellFormed)
    (hp : ∀ (i : Nat) (procedure : Procedure Obj α), procedures[i]? = some procedure →
      procedure.Obeys key (post i) (.outside false))
    (h : (State.start store procedures).run schedule = some state) :
    ∃ owners, Invariant key post owners state := by
  -- by induction on the schedule from its end
  induction schedule using List.reverseRecOn generalizing state with
  | nil =>
    cases h
    exact ⟨[], .start hs hp⟩
  | append_singleton schedule i ih =>
    rw [State.run_concat] at h
    obtain ⟨middle, hm, hstep⟩ := Option.bind_eq_some_iff.1 h
    obtain ⟨owners, hi⟩ := ih hm
    exact hi.step hstep

/-! ## Names that the registry supplies -/

theorem Invariant.returned {key : FlightKey} {post : Nat → α → Standing → Prop}
    {owners : List FlightKey} {state : State Obj α} {i : Nat} {value : α}
    (h : Invariant key post owners state) (hr : state.result? i = some value) :
    ∃ standing, post i value standing ∧
      (standing.known = true → state.current.store.contains key.2 = true) := by
  obtain ⟨worker, hw, hstage⟩ := State.exists_worker_of_result? hr
  obtain ⟨-, standing, hstands, hobeys⟩ := h.workers i worker hw
  rw [hstage] at hobeys
  exact ⟨standing, hobeys, hstands.known⟩

/-- Whatever operations on one layer run at once, a bare target that can be used is fetched at
most once and registered at most once, and the store has its name once a resolution or a lookup of
it has returned. -/
theorem discovered_once [Described Obj] (layer : Layer Obj) {name : String} {target : Target Obj}
    (hn : Definition.stages name = [name]) (hc : layer.registry (.contains name) = true)
    (hf : layer.registry (.fetch name) = some (.bare target))
    (ht : target.classOf.isPlain = false ∨
      ∃ method, target.classOf.functionalMethod = .ok method)
    (earlier : List (Registration Obj)) (calls : List (Operation Obj)) (schedule : List Nat)
    {state : State Obj (Answer Obj)}
    (h : (State.start (Store.empty.offerAll earlier) (calls.map (·.perform [layer]))).run schedule =
      some state) :
    state.fetches name ≤ 1 ∧
      (state.current.store.registrations.filter fun r => name ∈ r.names).length ≤ 1 ∧
      ∀ (i : Nat) (call : Operation Obj) (answer : Answer Obj), calls[i]? = some call →
        call.Mentions layer name → state.result? i = some answer →
          state.current.store.contains name = true := by
  have hsupplies := Layer.supplies_of_bare hn hc hf ht
  have hobeys : ∀ (i : Nat) (procedure : Procedure Obj (Answer Obj)),
      (calls.map (·.perform [layer]))[i]? = some procedure → procedure.Obeys (0, name)
        (fun _ standing => ∀ call, calls[i]? = some call → call.Mentions layer name →
          standing.known = true) (.outside false) := by
    intro i procedure hp
    rw [List.getElem?_map, Option.map_eq_some_iff] at hp
    obtain ⟨call, hi, rfl⟩ := hp
    refine (call.informs_perform hsupplies false).obeys.mono ?_
    rintro answer _ ⟨after, rfl, hafter⟩ other ho hm
    obtain rfl := Option.some.inj (hi.symm.trans ho)
    exact hafter (.inr hm)
  obtain ⟨owners, hinv⟩ := exists_invariant (Store.WellFormed.empty.offerAll earlier) hobeys h
  refine ⟨?_, hinv.shared.store.length_filter_le_one name, ?_⟩
  · have hfetches : state.fetches name = 0 ∨ state.fetches name = 1 ∧ _ := hinv.shared.fetches
    omega
  · intro i call answer hi hm hr
    obtain ⟨standing, hpost, hknown⟩ := hinv.returned hr
    exact hknown (hpost call hi hm)

/-- A lookup has found nothing and waits in the flight in which another caller discovers the name. A
third caller wants to register under the name as well; it is overtaken by the discovery. -/
theorem discovered_once_race :
    let upper : Target Scripted.Object := .object (.function 0 ⟨.transform, "Upper", .upper, none, {}⟩)
    let layer : Layer Scripted.Object :=
      ⟨(Declarations.ofList [.component "upper" (.bare upper)]).registry, {}⟩
    let calls : List (Operation Scripted.Object) :=
      [.lookup none "upper" [], .resolve "upper", .register { primary := "upper", target := upper }]
    let schedule := [0, 0, 0, 1, 1, 2, 2, 2, 2] ++ List.replicate 14 1 ++ [2, 2, 2, 2, 0, 0]
    let run := (State.start (Store.empty.offerAll []) (calls.map (·.perform [layer]))).run schedule
    Definition.stages "upper" = ["upper"] ∧
      layer.registry (.contains "upper") = true ∧
      layer.registry (.fetch "upper") = some (.bare upper) ∧
      upper.classOf.isPlain = false ∧
      ∃ state answer, run = some state ∧
        state.result? 0 = some answer ∧ (state.result? 2).isSome = true ∧
        state.fetches "upper" = 1 ∧
        (state.current.store.registrations.filter fun r => "upper" ∈ r.names).length ≤ 1 ∧
        state.current.store.contains "upper" = true := by
  intro upper layer calls schedule run
  have hn : Definition.stages "upper" = ["upper"] := by decide
  have hc : layer.registry (.contains "upper") = true := by decide
  have hf : layer.registry (.fetch "upper") = some (.bare upper) := by cbv
  have ht : upper.classOf.isPlain = false := by decide
  have hm : "upper" ∈ Definition.stages (layer.effective (some "upper")) := by decide
  have hreached : run.isSome = true := by decide
  have hreturned : (run.bind (·.result? 0)).isSome = true := by decide
  have hrefused : (run.bind (·.result? 2)).isSome = true := by decide
  have hfetched : run.map (·.fetches "upper") = some 1 := by decide
  obtain ⟨state, hrun⟩ := Option.isSome_iff_exists.1 hreached
  rw [hrun] at hreturned hrefused hfetched
  obtain ⟨answer, ha⟩ := Option.isSome_iff_exists.1 hreturned
  obtain ⟨-, hlisted, hknown⟩ :=
    discovered_once layer hn hc hf (.inl ht) [] calls schedule hrun
  exact ⟨hn, hc, hf, ht, state, answer, hrun, ha, hrefused, Option.some.inj hfetched, hlisted,
    hknown 0 _ answer rfl hm ha⟩

end NamedFunctions.Interleaving
