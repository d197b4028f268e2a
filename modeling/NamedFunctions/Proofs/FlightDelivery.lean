import NamedFunctions.Proofs.FlightProgress

/-! # What callers of a flight are given

The history of a schedule says who made which move, and about which slot. A call joins one slot and
keeps to it, and the outcome in a slot is what came of the one resolution that ended on it. So the
callers that share a slot are given the same outcome. A slot that has been taken out of the map is
joined by nobody any more, and a later caller is given what comes of a resolution of its own time. -/
namespace NamedFunctions.Flight

variable {Key Out : Type}

/-! ## The history of a schedule -/

/-- A move that was made, and the slot that it was about. -/
structure Made (Out : Type) where
  caller : Nat
  move : Move Out
  slot : Nat

/-- The slot that a move joined, if it is a map section of the caller. -/
def Made.joinedBy? (i : Nat) : Made Out → Option Nat
  | ⟨caller, .join, slot⟩ => if caller = i then some slot else none
  | _ => none

/-- What came of a resolution, if the move ended one on the slot. -/
def Made.outcomeOn? (slot : Nat) : Made Out → Option Out
  | ⟨_, .finish outcome, about⟩ => if about = slot then some outcome else none
  | _ => none

/-- The slots that a caller joined, one for each of its map sections. -/
def joinedBy (i : Nat) (history : List (Made Out)) : List Nat :=
  history.filterMap (Made.joinedBy? i)

/-- What came of the resolutions that ended on a slot. -/
def outcomesOn (slot : Nat) (history : List (Made Out)) : List Out :=
  history.filterMap (Made.outcomeOn? slot)

/-- The slot that the call at an index has joined. -/
def State.slotAt? (state : State Key Out) (i : Nat) : Option Nat :=
  state.calls[i]?.bind (·.phase.slot?)

theorem State.slotAt?_setPhase {state : State Key Out} {i : Nat} {call : Call Key Out}
    (hc : state.calls[i]? = some call) (table : Table Key Out) (phase : Phase Out) (j : Nat) :
    ({ state with table }.setPhase i phase).slotAt? j =
      if i = j then phase.slot? else state.slotAt? j := by
  rw [slotAt?, State.getElem?_setPhase]
  split
  · next hij =>
    subst hij
    rw [hc]
    rfl
  · rfl

theorem State.slotAt?_of_phase {state : State Key Out} {i : Nat} {call : Call Key Out}
    {phase : Phase Out} (hc : state.calls[i]? = some call) (hp : call.phase = phase) :
    state.slotAt? i = phase.slot? := by
  rw [slotAt?, hc, Option.bind_some, hp]

variable [DecidableEq Key]

/-- The moves of a schedule, in order, as far as it can be followed. -/
def State.history (state : State Key Out) : List (Nat × Move Out) → List (Made Out)
  | [] => []
  | (i, move) :: rest =>
    match state.step i move with
    | none => []
    | some next => ((next.slotAt? i).map (Made.mk i move ·)).toList ++ next.history rest

theorem State.run_cons (state : State Key Out) (i : Nat) (move : Move Out)
    (rest : List (Nat × Move Out)) :
    state.run ((i, move) :: rest) = (state.step i move).bind (·.run rest) := by
  rw [run, List.foldlM_cons]
  rfl

theorem State.run_append (state : State Key Out) (earlier later : List (Nat × Move Out)) :
    state.run (earlier ++ later) = (state.run earlier).bind (·.run later) := by
  rw [run, List.foldlM_append]
  rfl

theorem State.history_concat {state middle next : State Key Out} {schedule : List (Nat × Move Out)}
    {i : Nat} {move : Move Out} {slot : Nat} (hm : state.run schedule = some middle)
    (hs : middle.step i move = some next) (hslot : next.slotAt? i = some slot) :
    state.history (schedule ++ [(i, move)]) = state.history schedule ++ [⟨i, move, slot⟩] := by
  induction schedule generalizing state with
  | nil =>
    cases hm
    simp [history, hs, hslot]
  | cons first rest ih =>
    rw [run_cons] at hm
    obtain ⟨second, hfirst, hrest⟩ := Option.bind_eq_some_iff.1 hm
    rw [List.cons_append, history, hfirst, history, hfirst, List.append_assoc, ← ih hrest]

/-! ## One slot for each call -/

/-- The first move of a call joins the slot that is then in the map under its key, and in all other
moves the call keeps to its slot. -/
theorem Stepped.slotAt?_caller {state next : State Key Out} {i : Nat} {call : Call Key Out}
    {move : Move Out} (hc : state.calls[i]? = some call) (h : Stepped state i call move next) :
    ∃ slot, next.slotAt? i = some slot ∧
      (move = .join ∧ state.slotAt? i = none ∧ next.table.slotOf? call.key = some slot ∨
        move ≠ .join ∧ state.slotAt? i = some slot) := by
  cases h with
  | join hp =>
    refine ⟨_, by rw [State.slotAt?_setPhase hc, if_pos rfl, Phase.slot?], .inl ⟨rfl, ?_, ?_⟩⟩
    · rw [State.slotAt?_of_phase hc hp, Phase.slot?]
    · show (state.table.join call.key).2.slotOf? call.key = _
      rw [Table.slotOf?_join, if_pos rfl]
  | @share slot _ _ hp | @lock slot _ hp | @finish slot _ hp | @close slot _ hp =>
    refine ⟨slot, by rw [State.slotAt?_setPhase hc, if_pos rfl, Phase.slot?], .inr ⟨by simp, ?_⟩⟩
    rw [State.slotAt?_of_phase hc hp, Phase.slot?]

theorem Stepped.slotAt?_other {state next : State Key Out} {i j : Nat} {call : Call Key Out}
    {move : Move Out} (hc : state.calls[i]? = some call) (h : Stepped state i call move next)
    (hij : i ≠ j) : next.slotAt? j = state.slotAt? j := by
  cases h <;> rw [State.slotAt?_setPhase hc, if_neg hij]

/-! ## The history and the state -/

/-- What is read off the history agrees with what is seen in the state, if each step adds to both
alike. -/
theorem filterMap_history {α : Type} {keys : List Key} (pick : Made Out → Option α)
    (seen : State Key Out → List α) (hstart : seen (.start keys) = [])
    (hstep : ∀ (middle next : State Key Out) (i : Nat) (move : Move Out) (slot : Nat),
      State.Reachable keys middle → middle.step i move = some next → next.slotAt? i = some slot →
        seen next = seen middle ++ (pick ⟨i, move, slot⟩).toList)
    {schedule : List (Nat × Move Out)} {state : State Key Out}
    (h : (State.start keys).run schedule = some state) :
    ((State.start keys).history schedule).filterMap pick = seen state := by
  refine State.run_induction
    (fun schedule state => ((State.start keys).history schedule).filterMap pick = seen state)
    hstart.symm ?_ h
  intro schedule middle next i move hm hs ih
  obtain ⟨call, hc, hstepped⟩ := stepped_of_step hs
  obtain ⟨slot, hslot, -⟩ := hstepped.slotAt?_caller hc
  rw [State.history_concat hm hs hslot, List.filterMap_append, ih,
    hstep middle next i move slot ⟨schedule, hm⟩ hs hslot]
  cases hp : pick ⟨i, move, slot⟩ <;> simp [hp]

theorem joinedBy_history {keys : List Key} {schedule : List (Nat × Move Out)}
    {state : State Key Out} (h : (State.start keys).run schedule = some state) (j : Nat) :
    joinedBy j ((State.start keys).history schedule) = (state.slotAt? j).toList := by
  refine filterMap_history _ (fun state => (state.slotAt? j).toList) ?_ ?_ h
  · rw [Option.toList_eq_nil_iff, State.slotAt?, State.start, List.getElem?_map]
    cases keys[j]? <;> rfl
  · intro middle next i move slot _ hs hslot
    obtain ⟨call, hc, hstep⟩ := stepped_of_step hs
    by_cases hij : i = j
    · subst hij
      obtain ⟨same, hsame, hmove⟩ := hstep.slotAt?_caller hc
      rw [hslot, Option.some.injEq] at hsame
      subst hsame
      rcases hmove with ⟨rfl, hnone, -⟩ | ⟨hjoin, hsome⟩
      · simp [hslot, hnone, Made.joinedBy?]
      · cases move with
        | join => exact absurd rfl hjoin
        | acquire | finish | close => simp [hslot, hsome, Made.joinedBy?]
    · rw [hstep.slotAt?_other hc hij]
      cases move <;> simp [Made.joinedBy?, hij]

theorem outcomesOn_history {keys : List Key} {schedule : List (Nat × Move Out)}
    {state : State Key Out} (h : (State.start keys).run schedule = some state) (slot : Nat) :
    outcomesOn slot ((State.start keys).history schedule) = (state.table.outcome? slot).toList := by
  refine filterMap_history _ (fun state => (state.table.outcome? slot).toList) rfl ?_ h
  intro middle next i move about hreach hs habout
  obtain ⟨owners, hinv⟩ := exists_invariant hreach
  obtain ⟨call, hc, hstep⟩ := stepped_of_step hs
  have hsound := hinv.calls i call hc
  rw [Call.Sound] at hsound
  cases hstep with
  | join hp =>
    show ((middle.table.join call.key).2.outcome? slot).toList = _
    simp [Made.outcomeOn?]
  | share hp ha =>
    obtain ⟨-, -, -, -, hsome⟩ := Table.acquire_eq_some ha
    obtain rfl := hsome (by simp)
    exact (List.append_nil _).symm
  | @lock about table hp ha =>
    obtain ⟨-, -, -, hnone, -⟩ := Table.acquire_eq_some ha
    obtain rfl := hnone rfl
    show ((middle.table.modifySlot about _).outcome? slot).toList = _
    simp [Made.outcomeOn?]
  | @finish resolved outcome hp =>
    rw [hp] at hsound
    obtain ⟨-, hh, hout⟩ := hsound
    rw [State.slotAt?_setPhase hc, if_pos rfl, Phase.slot?, Option.some.injEq] at habout
    subst habout
    show ((middle.table.finish resolved outcome).outcome? slot).toList = _
    rw [Table.outcome?_finish _ (Table.lt_length_of_holder? hh), Made.outcomeOn?]
    by_cases he : resolved = slot
    · subst he
      simp [hout]
    · simp [he]
  | @close about outcome hp =>
    show ((middle.table.close call.key about).outcome? slot).toList = _
    simp [Made.outcomeOn?]

/-! ## Slots out of the map -/

/-- The slot was made, and has been taken out of the map. -/
def Table.Gone (table : Table Key Out) (slot : Nat) : Prop :=
  slot < table.slots.length ∧ ∀ key, table.slotOf? key ≠ some slot

namespace Table.Gone

variable {table next : Table Key Out} {slot : Nat}

theorem join (h : table.Gone slot) (key : Key) : (table.join key).2.Gone slot := by
  obtain ⟨hlt, hout⟩ := h
  cases hk : table.slotOf? key with
  | some found =>
    rw [join_of_some hk]
    exact ⟨hlt, hout⟩
  | none =>
    constructor
    · rw [join_of_none hk, List.length_append]
      omega
    · intro other
      rw [slotOf?_join]
      split
      · rw [join_of_none hk]
        simp only [ne_eq, Option.some.injEq]
        omega
      · exact hout other

theorem modifySlot (h : table.Gone slot) (about : Nat) (f : Slot Out → Slot Out) :
    (table.modifySlot about f).Gone slot :=
  ⟨by rw [length_modifySlot]; exact h.1, h.2⟩

theorem close (h : table.Gone slot) (key : Key) (about : Nat) : (table.close key about).Gone slot := by
  have hfiltered :
      ({ table with published := table.published.filter (·.1 ≠ key) } : Table Key Out).Gone slot := by
    refine ⟨h.1, ?_⟩
    intro other
    rw [slotOf?, lookup_filter_ne]
    split
    · simp
    · exact h.2 other
  unfold Table.close
  split
  · exact hfiltered.modifySlot about _
  · exact h.modifySlot about _

theorem acquire (h : table.Gone slot) {about caller : Nat} {answer : Option Out}
    (ha : table.acquire about caller = some (answer, next)) : next.Gone slot := by
  obtain ⟨-, -, -, hnone, hsome⟩ := acquire_eq_some ha
  cases answer with
  | some outcome =>
    rw [hsome (by simp)]
    exact h
  | none =>
    rw [hnone rfl]
    exact h.modifySlot about _

end Table.Gone

/-- The step lemma: a slot that is gone stays gone, and is joined by nobody. -/
theorem Table.Gone.step {state next : State Key Out} {slot i : Nat} {move : Move Out}
    (h : state.table.Gone slot) (hs : state.step i move = some next) :
    next.table.Gone slot ∧ ∀ j, state.slotAt? j ≠ some slot → next.slotAt? j ≠ some slot := by
  obtain ⟨call, hc, hstep⟩ := stepped_of_step hs
  have hnext : next.table.Gone slot := by
    cases hstep with
    | join hp => exact h.join call.key
    | share hp ha => exact h.acquire ha
    | lock hp ha => exact h.acquire ha
    | finish outcome hp => exact h.modifySlot _ _
    | close hp => exact h.close call.key _
  refine ⟨hnext, ?_⟩
  intro j hj
  by_cases hij : i = j
  · subst hij
    obtain ⟨joined, hjoined, hmove⟩ := hstep.slotAt?_caller hc
    rw [hjoined]
    rcases hmove with ⟨-, -, hmap⟩ | ⟨-, hsame⟩
    · exact fun he => hnext.2 call.key (hmap.trans he)
    · rwa [← hsame]
  · rwa [hstep.slotAt?_other hc hij]

theorem Table.Gone.run {state last : State Key Out} {slot : Nat} {schedule : List (Nat × Move Out)}
    (h : state.table.Gone slot) (hr : state.run schedule = some last) {j : Nat}
    (hj : state.slotAt? j ≠ some slot) : last.slotAt? j ≠ some slot := by
  induction schedule generalizing state with
  | nil =>
    cases hr
    exact hj
  | cons taken rest ih =>
    obtain ⟨i, move⟩ := taken
    rw [State.run_cons] at hr
    obtain ⟨next, hs, hrest⟩ := Option.bind_eq_some_iff.1 hr
    obtain ⟨hnext, hothers⟩ := h.step hs
    exact ih hnext hrest (hothers j hj)

/-! ## Delivery and clean-up -/

/-- A call that has returned was given the outcome of its own slot, which no later call gets to. A
call that has not returned can take a step, or one of the same key can. When no call is under way,
the map is empty. -/
theorem flights_deliver {keys : List Key} {schedule : List (Nat × Move Out)}
    {state : State Key Out} (h : (State.start keys).run schedule = some state) :
    let history := (State.start keys).history schedule
    (∀ (i : Nat) (call : Call Key Out) (slot : Nat) (outcome : Out),
      state.calls[i]? = some call → call.phase = .returned slot outcome →
        joinedBy i history = [slot] ∧ outcomesOn slot history = [outcome]) ∧
      (∀ (first second : Call Key Out) (slot : Nat) (outcome outcome' : Out),
        first ∈ state.calls → second ∈ state.calls → first.phase = .returned slot outcome →
          second.phase = .returned slot outcome' → outcome = outcome') ∧
      (∀ (earlier later : List (Nat × Move Out)) (middle : State Key Out),
        schedule = earlier ++ later → (State.start keys).run earlier = some middle →
          ∀ (i : Nat) (call : Call Key Out) (slot : Nat), middle.calls[i]? = some call →
            call.phase = .outside → middle.table.Gone slot → state.slotAt? i ≠ some slot) ∧
      (∀ (i : Nat) (call : Call Key Out) (outcome : Out), state.calls[i]? = some call →
        call.phase.isReturned = false →
          ∃ j other, state.calls[j]? = some other ∧ other.key = call.key ∧ state.CanStep j outcome) ∧
      ((∀ call ∈ state.calls, call.phase.isUnderWay = false) → state.table.published = []) := by
  intro history
  have hreach : State.Reachable keys state := ⟨schedule, h⟩
  obtain ⟨owners, hinv⟩ := exists_invariant hreach
  have hattended := attended_of_reachable hreach
  have hgiven : ∀ (i : Nat) (call : Call Key Out) (slot : Nat) (outcome : Out),
      state.calls[i]? = some call → call.phase = .returned slot outcome →
        state.table.outcome? slot = some outcome := by
    intro i call slot outcome hc hp
    have hsound := hinv.calls i call hc
    rw [Call.Sound, hp] at hsound
    exact hsound.2
  refine ⟨?_, ?_, ?_, ?_, hattended.published_eq_nil hinv⟩
  · intro i call slot outcome hc hp
    rw [joinedBy_history h, outcomesOn_history h, hgiven i call slot outcome hc hp,
      State.slotAt?_of_phase hc hp]
    exact ⟨rfl, rfl⟩
  · intro first second slot outcome outcome' hf hs hp hp'
    obtain ⟨i, hi⟩ := List.mem_iff_getElem?.1 hf
    obtain ⟨j, hj⟩ := List.mem_iff_getElem?.1 hs
    have hfirst := hgiven i first slot outcome hi hp
    rw [hgiven j second slot outcome' hj hp', Option.some.injEq] at hfirst
    exact hfirst.symm
  · rintro earlier later middle rfl hm i call slot hc hp hgone
    rw [State.run_append, hm, Option.bind_some] at h
    exact hgone.run h (by simp [State.slotAt?_of_phase hc hp, Phase.slot?])
  · intro i call outcome hc hp
    exact hattended.exists_canStep hinv hc hp outcome

/-- The third call joins while the outcome of the second is stored but the slot still in the map, and
the fourth one only afterwards, when the first and the third have not been given theirs yet. -/
theorem flights_deliver_late :
    let earlier : List (Nat × Move Nat) :=
      [(0, .join), (1, .join), (1, .acquire), (4, .join), (4, .acquire), (1, .finish 7), (2, .join),
        (1, .close)]
    let later : List (Nat × Move Nat) :=
      [(3, .join), (3, .acquire), (0, .acquire), (3, .finish 8), (2, .acquire), (4, .finish 9),
        (3, .close), (4, .close)]
    let middle : State String Nat := {
      table := {
        slots := [{ outcome := some 7, completions := 1 }, { holder := some 4 }]
        published := [("b", 1)] }
      calls := [⟨"a", .waiting 0⟩, ⟨"a", .returned 0 7⟩, ⟨"a", .waiting 0⟩, ⟨"a", .outside⟩,
        ⟨"b", .resolving 1⟩] }
    let last : State String Nat := {
      table := {
        slots := [{ outcome := some 7, completions := 1 }, { outcome := some 9, completions := 1 },
          { outcome := some 8, completions := 1 }] }
      calls := [⟨"a", .returned 0 7⟩, ⟨"a", .returned 0 7⟩, ⟨"a", .returned 0 7⟩,
        ⟨"a", .returned 2 8⟩, ⟨"b", .returned 1 9⟩] }
    let start : State String Nat := .start ["a", "a", "a", "a", "b"]
    start.run earlier = some middle ∧ start.run (earlier ++ later) = some last ∧
      joinedBy 2 (start.history (earlier ++ later)) = [0] ∧
      outcomesOn 0 (start.history (earlier ++ later)) = [7] ∧
      middle.table.Gone 0 ∧ last.slotAt? 3 ≠ some 0 ∧
      (∃ j other, middle.calls[j]? = some other ∧ other.key = "a" ∧ middle.CanStep j 5) ∧
      last.table.published = [] := by
  intro earlier later middle last start
  have hearlier : start.run earlier = some middle := by rfl
  have hrun : start.run (earlier ++ later) = some last := by rfl
  have hgone : middle.table.Gone 0 := by
    refine ⟨by decide, ?_⟩
    intro key
    show List.lookup key [("b", 1)] ≠ some 0
    rw [List.lookup_cons]
    split <;> simp
  obtain ⟨-, -, -, hstep, -⟩ := flights_deliver hearlier
  obtain ⟨hgiven, -, hnever, -, hempty⟩ := flights_deliver hrun
  obtain ⟨hjoined, houtcomes⟩ := hgiven 2 ⟨"a", .returned 0 7⟩ 0 7 rfl rfl
  exact ⟨hearlier, hrun, hjoined, houtcomes, hgone,
    hnever earlier later middle rfl hearlier 3 ⟨"a", .outside⟩ 0 rfl rfl hgone,
    hstep 0 ⟨"a", .waiting 0⟩ 5 rfl rfl, hempty (by simp [last, Phase.isUnderWay])⟩

end NamedFunctions.Flight
