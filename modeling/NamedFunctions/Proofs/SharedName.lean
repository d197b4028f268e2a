import NamedFunctions.Proofs.FlightTable
import NamedFunctions.Proofs.NameStanding
import NamedFunctions.Proofs.StoreGrowth

/-! # A name among several workers

What workers share as far as one name is concerned, and what the standing of one of them says about
it. Nobody has fetched the component of the name yet, or it was fetched once, and then the store has
the name or the flight of the name is locked. What one worker does leaves the standings of the others
true: a fetch needs the lock of the name's flight, and who else relies on there being no fetch would
need the same lock. -/
namespace NamedFunctions.Interleaving

open Publication (Snapshot)

variable {Obj α : Type}

/-- The part of a state that matters to all workers, as far as one name is concerned. -/
structure Shared (Obj : Type) where
  current : Snapshot Obj
  flights : Flight.Table FlightKey Resolution
  /-- How often the component of the name has been fetched. -/
  fetches : Nat

/-- How often the component under the name has been fetched. -/
def State.fetches (state : State Obj α) (name : String) : Nat :=
  (state.trace.filterMap fun entry => entry.2.seeking?).count (.fetch name)

theorem State.fetches_concat (state : State Obj α) (i : Nat) (note : Note) (name : String) :
    ({ state with trace := state.trace ++ [(i, note)] } : State Obj α).fetches name =
      state.fetches name + if note.seeking? = some (.fetch name) then 1 else 0 := by
  rw [fetches, List.filterMap_append, List.count_append, fetches]
  cases hs : note.seeking? with
  | none => simp [hs]
  | some query => simp [hs, List.count_singleton]

def State.shared (key : FlightKey) (state : State Obj α) : Shared Obj :=
  ⟨state.current, state.flights, state.fetches key.2⟩

/-- The slot is one of the flight, and the worker that has its lock has not left an outcome yet. -/
structure Held (owners : List FlightKey) (flights : Flight.Table FlightKey Resolution) (i : Nat)
    (flight : FlightKey) (slot : Nat) : Prop where
  owner : owners[slot]? = some flight
  holder : flights.holder? slot = some i
  outcome : flights.outcome? slot = none

namespace Shared

/-- The store has the name. -/
def Known (key : FlightKey) (shared : Shared Obj) : Prop :=
  shared.current.store.contains key.2 = true

/-- A slot has an outcome only when the name is known, and the component is fetched only once, after
which the name is known or its flight locked. -/
structure Sound (key : FlightKey) (owners : List FlightKey) (shared : Shared Obj) : Prop where
  flights : shared.flights.Sound owners
  store : shared.current.store.WellFormed
  outcomes : ∀ slot : Nat, owners[slot]? = some key → shared.flights.outcome? slot ≠ none →
    shared.Known key
  fetches : shared.fetches = 0 ∨ shared.fetches = 1 ∧ (shared.Known key ∨
    ∃ slot i, owners[slot]? = some key ∧ shared.flights.holder? slot = some i)

/-- What the step of one worker leaves to the others: the store only grows, their locks stay theirs,
and the component is fetched only by who has the lock of the name's flight. -/
structure Rely (key : FlightKey) (owners joined : List FlightKey) (i : Nat)
    (before after : Shared Obj) : Prop where
  owned : owners <+: joined
  flights : before.flights.Frame after.flights i
  current : after.current = before.current ∨ after.current.version = before.current.version + 1
  grows : before.current.store.Extends after.current.store
  fetches : after.fetches = before.fetches ∨ ∃ slot, Held owners before.flights i key slot

end Shared

/-- What a standing says is so. -/
structure Stands (key : FlightKey) (owners : List FlightKey) (shared : Shared Obj) (i : Nat)
    (held : List (FlightKey × Nat)) (standing : Standing) : Prop where
  held_eq : held.map Prod.fst = (standing.flight? key).toList
  locks : ∀ entry ∈ held, Held owners shared.flights i entry.1 entry.2
  known : standing.known = true → shared.Known key
  /-- Who has just entered the flight may find the name, but no fetch without it. -/
  entered : ∀ known, standing = .inside key known → shared.fetches = 0 ∨ shared.Known key
  absent : standing = .absent → shared.fetches = 0

section Name

variable {key : FlightKey} {owners joined : List FlightKey} {before after shared : Shared Obj}
  {i j : Nat}

/-! ## What stays so -/

/-- The lock of a flight that has no outcome yet is held by one worker. -/
theorem Shared.Sound.unique (h : shared.Sound key owners) {flight : FlightKey} {slot position : Nat}
    (hi : Held owners shared.flights i flight slot)
    (hj : Held owners shared.flights j flight position) : i = j := by
  have hslot := h.flights.slotOf?_of_holder? hi.owner hi.holder
  have hposition := h.flights.slotOf?_of_holder? hj.owner hj.holder
  obtain rfl : slot = position := Option.some.inj (hslot.symm.trans hposition)
  exact Option.some.inj (hi.holder.symm.trans hj.holder)

theorem Held.frame {flight : FlightKey} {slot : Nat} (h : Held owners before.flights j flight slot)
    (hr : Shared.Rely key owners joined i before after) (hji : j ≠ i) :
    Held joined after.flights j flight slot := by
  obtain ⟨hholder, houtcome⟩ := hr.flights.locked slot j hji h.holder
  exact ⟨Flight.owner_joined h.owner hr.owned, hholder, houtcome.trans h.outcome⟩

namespace Stands

variable {held : List (FlightKey × Nat)} {standing : Standing}

theorem held_eq_nil (h : Stands key owners shared i held standing)
    (hf : standing.flight? key = none) : held = [] := by
  have he := h.held_eq
  rw [hf] at he
  exact List.map_eq_nil_iff.1 he

theorem exists_held (h : Stands key owners shared i held standing) {flight : FlightKey}
    (hf : standing.flight? key = some flight) :
    ∃ slot, held = [(flight, slot)] ∧ Held owners shared.flights i flight slot := by
  have he := h.held_eq
  rw [hf] at he
  match held, he with
  | [(_, slot)], rfl => exact ⟨slot, rfl, h.locks _ (List.mem_singleton_self _)⟩

theorem outside {known : Bool} (hk : known = true → shared.Known key) :
    Stands key owners shared i [] (.outside known) where
  held_eq := rfl
  locks := nofun
  known := hk
  entered := nofun
  absent := nofun

theorem inside {flight : FlightKey} {slot : Nat} {known : Bool}
    (hl : Held owners shared.flights i flight slot) (hk : known = true → shared.Known key)
    (hf : flight = key → shared.fetches = 0 ∨ shared.Known key) :
    Stands key owners shared i [(flight, slot)] (.inside flight known) where
  held_eq := rfl
  locks := List.forall_mem_singleton.2 hl
  known := hk
  entered _ he := hf (Standing.inside.inj he).1
  absent := nofun

theorem fetched {slot : Nat} (hl : Held owners shared.flights i key slot) :
    Stands key owners shared i [(key, slot)] .fetched where
  held_eq := rfl
  locks := List.forall_mem_singleton.2 hl
  known := nofun
  entered := nofun
  absent := nofun

theorem learn (h : Stands key owners shared i held standing) (hk : shared.Known key) :
    Stands key owners shared i held (standing.learn key) where
  held_eq := by cases standing <;> exact h.held_eq
  locks := h.locks
  known _ := hk
  entered _ _ := .inr hk
  absent ha := by cases standing <;> cases ha

theorem see (h : Stands key owners shared i held standing) {store : Store Obj}
    (hs : store.Extends shared.current.store) :
    Stands key owners shared i held (standing.see key store) := by
  unfold Standing.see
  split
  · next hc => exact h.learn (hs.contains hc)
  · exact h

theorem look (h : Stands key owners shared i held standing) :
    Stands key owners shared i held (standing.look key shared.current.store) := by
  unfold Standing.look
  split
  · next hc => exact h.learn hc
  · next hc =>
    split
    · next hs =>
      subst hs
      have hnone := (h.entered false rfl).resolve_right hc
      exact ⟨h.held_eq, h.locks, nofun, nofun, fun _ => hnone⟩
    · exact h

/-- The standing stays so while the locks are kept and the store grows. Only within the name's own
flight does it matter that there is no further fetch. -/
theorem transfer (h : Stands key owners before i held standing)
    (hl : ∀ entry ∈ held, Held joined after.flights i entry.1 entry.2)
    (hg : before.current.store.Extends after.current.store)
    (hf : standing.flight? key = some key → after.fetches = before.fetches) :
    Stands key joined after i held standing where
  held_eq := h.held_eq
  locks := hl
  known hk := hg.contains (h.known hk)
  entered known hs := by
    rw [hf (hs ▸ rfl)]
    exact (h.entered known hs).imp_right hg.contains
  absent hs := by
    rw [hf (hs ▸ rfl)]
    exact h.absent hs

theorem frame (h : Stands key owners before j held standing) (hs : before.Sound key owners)
    (hr : Shared.Rely key owners joined i before after) (hji : j ≠ i) :
    Stands key joined after j held standing := by
  refine h.transfer (fun entry hm => (h.locks entry hm).frame hr hji) hr.grows fun hf => ?_
  obtain ⟨slot, -, hheld⟩ := h.exists_held hf
  -- a fetch by the other would need the very lock that this worker has
  refine hr.fetches.resolve_right ?_
  rintro ⟨position, hother⟩
  exact hji (hs.unique hheld hother)

end Stands

/-! ## What sections of flights do -/

namespace Shared

theorem Rely.refl (shared : Shared Obj) : Rely key owners owners i shared shared where
  owned := List.prefix_refl _
  flights := .refl ..
  current := .inl rfl
  grows := .refl _
  fetches := .inl rfl

theorem Rely.ofFrame {flights : Flight.Table FlightKey Resolution} (ho : owners <+: joined)
    (hf : shared.flights.Frame flights i) :
    Rely key owners joined i shared { shared with flights } where
  owned := ho
  flights := hf
  current := .inl rfl
  grows := .refl _
  fetches := .inl rfl

namespace Sound

variable {flight : FlightKey} {slot : Nat}

/-- It is enough that outcomes of the name's flights come with the name, and that the lock of one is
given up only then. -/
theorem ofFlights (h : shared.Sound key owners) {flights : Flight.Table FlightKey Resolution}
    (ht : flights.Sound joined) (hj : owners <+: joined)
    (ho : ∀ position : Nat, joined[position]? = some key → flights.outcome? position ≠ none →
      shared.Known key)
    (hl : ∀ (position holder : Nat), owners[position]? = some key →
      shared.flights.holder? position = some holder →
        shared.Known key ∨ flights.holder? position = some holder) :
    Sound key joined { shared with flights } where
  flights := ht
  store := h.store
  outcomes := ho
  fetches := by
    refine h.fetches.imp_right (And.imp_right fun hlocked => ?_)
    rcases hlocked with hk | ⟨position, holder, hp, hh⟩
    · exact .inl hk
    · exact (hl position holder hp hh).imp_right fun h =>
        ⟨position, holder, Flight.owner_joined hp hj, h⟩

theorem join (h : shared.Sound key owners) (flight : FlightKey) :
    ∃ joined, owners <+: joined ∧ joined[(shared.flights.join flight).1]? = some flight ∧
      Sound key joined { shared with flights := (shared.flights.join flight).2 } := by
  obtain ⟨joined, ht, ho, hnew⟩ := h.flights.join flight
  refine ⟨joined, ho, hnew, h.ofFlights ht ho ?_ ?_⟩
  · intro position hp hout
    rw [Flight.Table.outcome?_join] at hout
    have hlt := Flight.Table.lt_length_of_outcome? hout
    rw [← h.flights.length_eq] at hlt
    rw [List.prefix_iff_getElem?.1 ho position hlt] at hp
    exact h.outcomes position ((List.getElem?_eq_getElem hlt).trans hp) hout
  · intro position holder hp hh
    exact .inr ((Flight.Table.holder?_join ..).trans hh)

theorem lock (h : shared.Sound key owners) {flights : Flight.Table FlightKey Resolution}
    (ha : shared.flights.acquire slot i = some (none, flights)) :
    Sound key owners { shared with flights } := by
  obtain ⟨hlt, hfree, -, hnone, -⟩ := Flight.Table.acquire_eq_some ha
  refine h.ofFlights (h.flights.acquire ha) (List.prefix_refl _) ?_ ?_
  · rw [hnone rfl]
    intro position hp hout
    rw [Flight.Table.outcome?_setHolder] at hout
    exact h.outcomes position hp hout
  · rw [hnone rfl]
    intro position holder hp hh
    have hne : slot ≠ position := by
      rintro rfl
      rw [hfree] at hh
      cases hh
    rw [Flight.Table.holder?_setHolder _ hlt, if_neg hne]
    exact .inr hh

theorem finish (h : shared.Sound key owners) (hh : Held owners shared.flights i flight slot)
    (hk : flight = key → shared.Known key) (outcome : Resolution) :
    Sound key owners { shared with flights := shared.flights.finish slot outcome } := by
  refine h.ofFlights (h.flights.finish hh.holder hh.outcome outcome) (List.prefix_refl _) ?_ ?_
  · intro position hp hout
    rw [Flight.Table.outcome?_finish _ (Flight.Table.lt_length_of_holder? hh.holder)] at hout
    split at hout
    · next he =>
      subst he
      exact hk (Option.some.inj (hh.owner.symm.trans hp))
    · exact h.outcomes position hp hout
  · intro position holder hp hheld
    exact .inr ((Flight.Table.holder?_finish ..).trans hheld)

/-- While the flight of the name is free, nobody has fetched unless the name is known. -/
theorem free (h : shared.Sound key owners) (ho : owners[slot]? = some key)
    (hh : shared.flights.holder? slot = none) (hout : shared.flights.outcome? slot = none) :
    shared.fetches = 0 ∨ shared.Known key := by
  rcases h.fetches with hnone | ⟨-, hk | ⟨position, holder, hp, hheld⟩⟩
  · exact .inl hnone
  · exact .inr hk
  · have hslot := (h.flights.slotOf?_iff key slot).2 ⟨ho, .inl hout⟩
    have hposition := h.flights.slotOf?_of_holder? hp hheld
    obtain rfl : position = slot := Option.some.inj (hposition.symm.trans hslot)
    rw [hh] at hheld
    cases hheld

theorem fetch (h : shared.Sound key owners) (hh : Held owners shared.flights i key slot)
    {fetches : Nat} (hf : fetches = 1) : Sound key owners { shared with fetches } where
  flights := h.flights
  store := h.store
  outcomes := h.outcomes
  fetches := .inr ⟨hf, .inr ⟨slot, i, hh.owner, hh.holder⟩⟩

theorem publish (h : shared.Sound key owners) {registration : Registration Obj} {built : Store Obj}
    (hr : shared.current.store.register registration = .ok built) (version : Nat) :
    Sound key owners { shared with current := ⟨version, built⟩ } where
  flights := h.flights
  store := h.store.register hr
  outcomes position hp hout := (Store.extends_of_register hr).contains (h.outcomes position hp hout)
  fetches := h.fetches.imp_right
    (And.imp_right (Or.imp_left (Store.extends_of_register hr).contains))

theorem close (h : shared.Sound key owners) (ho : owners[slot]? = some flight)
    (hh : shared.flights.holder? slot = some i) (hout : shared.flights.outcome? slot ≠ none) :
    Sound key owners { shared with flights := shared.flights.close flight slot } := by
  refine h.ofFlights (h.flights.close ho hh hout) (List.prefix_refl _) ?_ ?_
  · intro position hp houtcome
    rw [Flight.Table.outcome?_close] at houtcome
    exact h.outcomes position hp houtcome
  · intro position holder hp hheld
    by_cases he : slot = position
    · subst he
      exact .inl (h.outcomes slot hp hout)
    · rw [Flight.Table.holder?_close _ _ (Flight.Table.lt_length_of_holder? hh), if_neg he]
      exact .inr hheld

end Sound

end Shared

end Name

end NamedFunctions.Interleaving
