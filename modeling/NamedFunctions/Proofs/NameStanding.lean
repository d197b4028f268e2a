import NamedFunctions.Concurrent.Interleaving
import NamedFunctions.Operation
import NamedFunctions.Proofs.Candidates
import NamedFunctions.Proofs.LayeredLookup
import NamedFunctions.Proofs.StoreIndex

/-! # Standing with a name

How the operations of a layer go about one name while others are at work on the same store. What a
procedure has seen of the store may be out of date, except that a name once seen stays there; and a
name that was not there can only be relied on to be missing by who has the lock of its flight. So the
component under the name may be fetched just when, in the name's own flight, the store was seen to
lack the name; and the flight may only be left when the store has it.

A procedure is looked at alone here: whatever store a read or a registration meets, as far as it fits
what is known, the procedure keeps to these rules. -/
namespace NamedFunctions

open Definition
open Interleaving (FlightKey)

variable {Obj : Type}

/-- Where a procedure stands with a name, which is given by the key of its flight. -/
inductive Standing where
  /-- In no flight. -/
  | outside (known : Bool)
  /-- In a flight, of this name or another. -/
  | inside (flight : FlightKey) (known : Bool)
  /-- In the name's own flight, where the store was seen to lack it. -/
  | absent
  /-- In the name's own flight, after its component was fetched. -/
  | fetched
  deriving DecidableEq

namespace Standing

/-- Whether the store is known to have the name. -/
def known : Standing → Bool
  | outside known | inside _ known => known
  | absent | fetched => false

variable (key : FlightKey)

def flight? : Standing → Option FlightKey
  | outside _ => none
  | inside flight _ => some flight
  | absent | fetched => some key

/-- The name has been seen in the store, where it stays. -/
def learn : Standing → Standing
  | outside _ => outside true
  | inside flight _ => inside flight true
  | absent | fetched => inside key true

/-- After a registration that met the store. -/
def see (store : Store Obj) (standing : Standing) : Standing :=
  if store.contains key.2 then standing.learn key else standing

/-- After a look at the store. -/
def look (store : Store Obj) (standing : Standing) : Standing :=
  if store.contains key.2 then standing.learn key
  else if standing = inside key false then absent
  else standing

variable {key} (store : Store Obj) (known : Bool)

@[simp] theorem see_outside :
    (outside known).see key store = outside (known || store.contains key.2) := by
  unfold see
  split <;> simp_all [learn]

@[simp] theorem see_inside (flight : FlightKey) :
    (inside flight known).see key store = inside flight (known || store.contains key.2) := by
  unfold see
  split <;> simp_all [learn]

@[simp] theorem look_outside :
    (outside known).look key store = outside (known || store.contains key.2) := by
  unfold look
  split <;> simp_all [learn]

theorem look_inside {flight : FlightKey} (h : flight ≠ key) :
    (inside flight known).look key store = inside flight (known || store.contains key.2) := by
  unfold look
  split <;> simp_all [learn]

end Standing

/-! ## Procedures that keep to the rules -/

namespace Procedure

variable {α β : Type} {key : FlightKey}

/-- The procedure keeps to the rules, and ends with a result and a standing as wanted. -/
def Obeys (key : FlightKey) (post : α → Standing → Prop) : Procedure Obj α → Standing → Prop
  | done a, standing => post a standing
  | read next, standing => ∀ store : Store Obj,
    (standing.known = true → store.contains key.2 = true) →
      (next store).Obeys key post (standing.look key store)
  | register r next, standing =>
    (∀ store after : Store Obj, store.register r = .ok after →
      (next (.ok ())).Obeys key post (standing.see key after)) ∧
    ∀ (store : Store Obj) (e : RegisterError), store.register r = .error e →
      (next (.error e)).Obeys key post (standing.see key store)
  | note n next, standing =>
    if n.seeking? = some (.fetch key.2) then standing = .absent ∧ next.Obeys key post .fetched
    else next.Obeys key post standing
  | enter depth name next, standing =>
    standing.flight? key = none ∧
      (∀ outcome, (next (some outcome)).Obeys key post
        (if (depth, name) = key then standing.learn key else standing)) ∧
      (next none).Obeys key post (.inside (depth, name) standing.known)
  | leave depth name _ next, standing =>
    standing.flight? key = some (depth, name) ∧ ((depth, name) = key → standing.known = true) ∧
      next.Obeys key post (.outside standing.known)

/-- Two procedures in sequence: the second takes over the standing of the first. -/
theorem Obeys.bind {mid : α → Standing → Prop} {post : β → Standing → Prop} {p : Procedure Obj α}
    {f : α → Procedure Obj β} {standing : Standing} (h : p.Obeys key mid standing)
    (hf : ∀ a s, mid a s → (f a).Obeys key post s) : (p >>= f).Obeys key post standing := by
  show (p.bind f).Obeys key post standing
  induction p generalizing standing with
  | done a => exact hf a standing h
  | read _ ih => exact fun store hs => ih store (h store hs)
  | register r _ ih =>
    exact ⟨fun store after hr => ih _ (h.1 store after hr), fun store e hr => ih _ (h.2 store e hr)⟩
  | note n _ ih =>
    simp only [Obeys, Procedure.bind] at h ⊢
    split
    · next hn =>
      rw [if_pos hn] at h
      exact ⟨h.1, ih h.2⟩
    · next hn =>
      rw [if_neg hn] at h
      exact ih h
  | enter _ _ _ ih => exact ⟨h.1, fun outcome => ih _ (h.2.1 outcome), ih _ h.2.2⟩
  | leave _ _ _ _ ih => exact ⟨h.1, h.2.1, ih h.2.2⟩

theorem Obeys.mono {post wanted : α → Standing → Prop} {p : Procedure Obj α} {standing : Standing}
    (h : p.Obeys key post standing) (hp : ∀ a s, post a s → wanted a s) :
    p.Obeys key wanted standing := by
  have hbind : (p >>= done).Obeys key wanted standing := h.bind hp
  rwa [show p >>= done = p from bind_pure p] at hbind

theorem Obeys.submit (r : Registration Obj) (standing : Standing) :
    (Procedure.submit r).Obeys key
      (fun _ after => ∃ store : Store Obj, after = standing.see key store) standing :=
  ⟨fun _ after _ => ⟨after, rfl⟩, fun store _ _ => ⟨store, rfl⟩⟩

theorem Obeys.noteAll {post : α → Standing → Prop} {p : Procedure Obj α} {standing : Standing}
    {notes : List Note} (hn : Query.fetch key.2 ∉ notes.filterMap Note.seeking?)
    (h : p.Obeys key post standing) : (noteAll notes p).Obeys key post standing := by
  induction notes with
  | nil => exact h
  | cons first rest ih =>
    simp only [List.mem_filterMap, List.mem_cons, exists_eq_or_imp, not_or] at hn ih
    show ite _ _ _
    rw [if_neg hn.1]
    exact ih hn.2

/-- Of notes that fetch the component of the name once, the fetch needs the name to be absent. -/
theorem Obeys.noteAll_fetch {post : α → Standing → Prop} {p : Procedure Obj α} {notes : List Note}
    (hn : (notes.filterMap Note.seeking?).count (.fetch key.2) = 1)
    (h : p.Obeys key post .fetched) : (Procedure.noteAll notes p).Obeys key post .absent := by
  induction notes with
  | nil => cases hn
  | cons first rest ih =>
    show ite _ _ _
    split
    · next hf =>
      rw [List.filterMap_cons_some hf, List.count_cons_self] at hn
      exact ⟨rfl, h.noteAll (List.count_eq_zero.1 (by omega))⟩
    · next hf =>
      cases hs : first.seeking? with
      | none =>
        rw [List.filterMap_cons_none hs] at hn
        exact ih hn
      | some query =>
        have hne : query ≠ .fetch key.2 := fun he => hf (he ▸ hs)
        rw [List.filterMap_cons_some hs, List.count_cons_of_ne hne] at hn
        exact ih hn

/-! ## Procedures outside of flights -/

/-- From outside of flights the procedure keeps to the rules and ends outside of them. The name stays
known if it was, and is known after the results that tell of it. -/
structure Informs (key : FlightKey) (known : Bool) (p : Procedure Obj α) (tells : α → Prop) :
    Prop where
  obeys : p.Obeys key (fun a standing => ∃ after, standing = .outside after ∧
    (known = true ∨ tells a → after = true)) (.outside known)

namespace Informs

variable {known : Bool} {p : Procedure Obj α} {tells : α → Prop}

theorem done {a : α} (h : tells a → known = true) :
    (Procedure.done a : Procedure Obj α).Informs key known tells :=
  ⟨⟨known, rfl, fun ht => ht.elim id h⟩⟩

theorem mono {tellsToo : α → Prop} (h : p.Informs key known tells)
    (ht : ∀ a, tellsToo a → known = true ∨ tells a) : p.Informs key known tellsToo := by
  refine ⟨h.obeys.mono ?_⟩
  rintro a _ ⟨after, rfl, hafter⟩
  exact ⟨after, rfl, fun hk => hafter (hk.elim .inl (ht a))⟩

theorem bind {f : α → Procedure Obj β} {tellsThen : β → Prop} (first : p.Informs key known tells)
    (rest : ∀ a after, (known = true ∨ tells a → after = true) →
      (f a).Informs key after tellsThen) : (p >>= f).Informs key known tellsThen := by
  refine ⟨first.obeys.bind ?_⟩
  rintro a _ ⟨after, rfl, hafter⟩
  refine (rest a after hafter).obeys.mono ?_
  rintro b _ ⟨last, rfl, hlast⟩
  exact ⟨last, rfl, fun ht => hlast (ht.imp_left fun hk => hafter (.inl hk))⟩

theorem map {γ : Type} {told : Prop} (h : p.Informs key known fun _ => told) (f : α → γ) :
    (f <$> p).Informs key known fun _ => told := by
  rw [map_eq_pure_bind]
  exact h.bind fun _ _ hafter => .done fun ht => hafter (.inr ht)

theorem report {event : Event} {f : Unit → Procedure Obj β} {tellsThen : β → Prop}
    (h : (f ()).Informs key known tellsThen) :
    (Procedure.report event >>= f).Informs key known tellsThen := by
  rw [Procedure.report_eq, Procedure.noteAll_bind]
  exact ⟨h.obeys.noteAll (by simp [Note.seeking?])⟩

/-- A result is read off the store: it tells of the name if only stores with the name have it. -/
theorem observe (f : Store Obj → α) :
    (Procedure.observe f).Informs key known
      fun a => ∀ store : Store Obj, f store = a → store.contains key.2 = true := by
  refine ⟨fun store _ => ⟨_, Standing.look_outside store known, ?_⟩⟩
  rintro (hk | ht)
  · rw [hk, Bool.true_or]
  · rw [ht store rfl, Bool.or_true]

theorem submit (r : Registration Obj) :
    (Procedure.submit r).Informs key known fun _ => False := by
  refine ⟨(Obeys.submit r _).mono ?_⟩
  rintro answer _ ⟨store, rfl⟩
  refine ⟨_, Standing.see_outside store known, fun hk => ?_⟩
  rw [hk.resolve_right id, Bool.true_or]

/-- The outcome of a flight tells of its name, since the name was known when the flight was left. -/
theorem inFlight {depth : Nat} {name : String} {resolve : Procedure Obj Resolution}
    (h : resolve.Obeys key (fun _ standing => ∃ after, standing = .inside (depth, name) after ∧
      (known = true ∨ (depth, name) = key → after = true)) (.inside (depth, name) known)) :
    (Procedure.inFlight depth name resolve).Informs key known fun _ => (depth, name) = key := by
  refine ⟨rfl, fun outcome => ?_, h.bind ?_⟩
  · split
    · exact ⟨true, rfl, fun _ => rfl⟩
    · next hk => exact ⟨known, rfl, fun ht => ht.resolve_right hk⟩
  · rintro outcome _ ⟨after, rfl, hafter⟩
    exact ⟨rfl, fun hk => hafter (.inr hk), after, rfl, hafter⟩

theorem noteAll {notes : List Note} (hn : Query.fetch key.2 ∉ notes.filterMap Note.seeking?)
    (h : p.Informs key known tells) : (Procedure.noteAll notes p).Informs key known tells :=
  ⟨h.obeys.noteAll hn⟩

end Informs

end Procedure

/-! ## What a layer does about a name -/

theorem Store.contains_of_register_error {store : Store Obj} {registration : Registration Obj}
    {name : String} {e : RegisterError} (hn : registration.names = [name])
    (hb : Text.isBlankText name = false) (h : store.register registration = .error e) :
    store.contains name = true := by
  cases e with
  | unnamed =>
    rw [register_eq_unnamed, hn] at h
    simp [hb] at h
  | duplicate taken =>
    obtain ⟨-, ht⟩ := register_eq_duplicate.1 h
    have hm := List.mem_of_find?_eq_some ht
    rw [hn, List.mem_singleton] at hm
    exact hm ▸ List.find?_some ht

/-- The registry has a component for the name, which is to be registered under the name alone. -/
structure Layer.Supplies [Described Obj] (layer : Layer Obj) (name : String) : Prop where
  not_blank : Text.isBlankText name = false
  contains : layer.registry (.contains name) = true
  candidate : ∃ registration source, layer.candidate? name = some (registration, source) ∧
    registration.names = [name]

namespace Layer

variable [Described Obj] {layer : Layer Obj} {name : String}

/-- A bare target that is callable or has one functional method is registered under the name that it
is sought by. -/
theorem supplies_of_bare {target : Target Obj} (hn : stages name = [name])
    (hc : layer.registry (.contains name) = true)
    (hf : layer.registry (.fetch name) = some (.bare target))
    (ht : target.classOf.isPlain = false ∨
      ∃ method, target.classOf.functionalMethod = .ok method) : layer.Supplies name := by
  refine ⟨isBlankText_of_stages_eq hn, hc, ?_⟩
  have hcomponent : layer.component? name = some (.bare target) := by
    rw [component?, if_pos hc, hf]
  exact layer.exists_candidate?_of_bare hcomponent ht

/-- The discovery of a name that was seen to be absent ends with the name known. -/
theorem obeys_discover (h : layer.Supplies name) :
    (layer.discover .base name).Obeys (0, name)
      (fun _ standing => standing = .inside (0, name) true) .absent := by
  obtain ⟨registration, source, hc, hn⟩ := h.candidate
  obtain ⟨notes, hs, he⟩ := layer.discover_of_some name .base hc
  have hseen : ∀ store : Store Obj, store.contains name = true →
      Standing.see (0, name) store .fetched = .inside (0, name) true :=
    fun store hstore => if_pos hstore
  have hregister : (Catalog.base.register registration).Obeys (0, name)
      (fun _ standing => standing = .inside (0, name) true) .fetched := by
    constructor
    · intro store after hr
      obtain ⟨-, rfl⟩ := Store.register_eq_ok.1 hr
      exact hseen _ (by simp [hn])
    · intro store e hr
      exact hseen store (Store.contains_of_register_error hn h.not_blank hr)
  rw [he]
  refine (hregister.bind ?_).noteAll_fetch ?_
  · rintro answer _ rfl
    cases answer <;> exact Procedure.Obeys.noteAll (by simp [Note.seeking?]) rfl
  · rw [hs, seeks, if_pos h.contains]
    simp

theorem obeys_discover_of_ne (layer : Layer Obj) {key flight : FlightKey} {other : String}
    (hne : other ≠ key.2) (known : Bool) :
    (layer.discover .base other).Obeys key
      (fun _ standing => ∃ after, standing = .inside flight after ∧ (known = true → after = true))
      (.inside flight known) := by
  have hseeks : Query.fetch key.2 ∉ layer.seeks other := by
    unfold seeks
    split <;> simp [Ne.symm hne]
  cases hc : layer.candidate? other with
  | none =>
    obtain ⟨notes, hs, he⟩ := layer.discover_of_none other .base hc
    rw [he]
    exact Procedure.Obeys.noteAll (hs ▸ hseeks) ⟨known, rfl, id⟩
  | some found =>
    obtain ⟨registration, source⟩ := found
    obtain ⟨notes, hs, he⟩ := layer.discover_of_some other .base hc
    have hregister : (Catalog.base.register registration).Obeys key
        (fun _ standing => ∃ after, standing = .inside flight after ∧ (known = true → after = true))
        (.inside flight known) := by
      refine (Procedure.Obeys.submit registration _).mono ?_
      rintro answer _ ⟨store, rfl⟩
      refine ⟨_, Standing.see_inside store known flight, fun hk => ?_⟩
      rw [hk, Bool.true_or]
    rw [he]
    refine (hregister.bind ?_).noteAll (hs ▸ hseeks)
    rintro answer _ hstanding
    cases answer <;> exact Procedure.Obeys.noteAll (by simp [Note.seeking?]) hstanding

theorem informs_resolve (h : layer.Supplies name) (known : Bool) (wanted : String) :
    (layer.resolve .base wanted).Informs (0, name) known fun _ => wanted = name := by
  have hflight : (layer.resolve .base wanted).Informs (0, name) known
      fun _ => ((0, wanted) : FlightKey) = (0, name) := by
    show (Procedure.inFlight 0 wanted _).Informs (0, name) known _
    refine Procedure.Informs.inFlight fun store hstore => ?_
    show Procedure.Obeys _ _ (if store.contains wanted = true then _ else _) _
    by_cases hw : wanted = name
    · subst hw
      split
      · next hc => exact ⟨true, if_pos hc, fun _ => rfl⟩
      · next hc =>
        -- a store without the name cannot be met by who knows it
        have hk : known = false := Bool.eq_false_iff.2 fun hk => hc (hstore hk)
        subst hk
        have hlook : Standing.look (0, wanted) store (.inside (0, wanted) false) = .absent :=
          (if_neg hc).trans (if_pos rfl)
        rw [hlook]
        exact (obeys_discover h).mono fun _ _ hs => ⟨true, hs, fun _ => rfl⟩
    · have hne : ((0, wanted) : FlightKey) ≠ (0, name) := by simpa using hw
      rw [Standing.look_inside store known hne]
      split
      · exact ⟨_, rfl, fun hk => by simp_all⟩
      · refine (layer.obeys_discover_of_ne hw _).mono ?_
        rintro _ _ ⟨after, rfl, hafter⟩
        exact ⟨after, rfl, fun hk => hafter (by simp_all)⟩
  simpa using hflight

theorem informs_resolveMissing (h : layer.Supplies name) {names : NameSet} {wanted : List String}
    {known : Bool} (hknown : names.contains name = true → known = true) :
    (layer.resolveMissing .base names wanted).Informs (0, name) known fun _ => name ∈ wanted := by
  induction wanted generalizing known with
  | nil => exact .done (by simp)
  | cons first rest ih =>
    rw [resolveMissing_cons]
    split
    · next hf =>
      refine .noteAll (by simp [Note.seeking?]) ((ih hknown).mono fun _ hm => ?_)
      rcases List.mem_cons.1 hm with rfl | hm
      · exact .inl (hknown hf)
      · exact .inr hm
    · refine (informs_resolve h known first).bind fun _ after hafter => ?_
      refine (ih fun hn => hafter (.inl (hknown hn))).mono fun _ hm => ?_
      rcases List.mem_cons.1 hm with rfl | hm
      · exact .inl (hafter (.inr rfl))
      · exact .inr hm

omit [Described Obj] in
theorem informs_lookup_base (key : FlightKey) (known : Bool) (kind : Option Kind)
    (definition : String) (outputTypes : List String) :
    (Catalog.base.lookup kind definition outputTypes : Procedure Obj _).Informs key known
      fun found => found ≠ none ∧ key.2 ∈ stages definition := by
  show (Procedure.observe _ >>= _).Informs key known _
  refine (Procedure.Informs.observe _).bind fun found after hafter => ?_
  match found with
  | .ok pipeline =>
    refine .done fun ht => hafter (.inr fun store hs => ?_)
    exact Store.contains_of_lookup hs ht.2
  | .error (.misplaced stage) => exact .report (.done (by simp))
  | .error (.unknown _) => exact .done (by simp)
  | .error .empty => exact .done (by simp)
  | .error (.otherKind _) => exact .done (by simp)

theorem informs_lookup (h : layer.Supplies name) (known : Bool) (kind : Option Kind)
    (definition : Option String) (outputTypes : List String) :
    (layer.lookup .base kind definition outputTypes).Informs (0, name) known
      fun _ => name ∈ stages (layer.effective definition) := by
  rw [lookup]
  generalize layer.effective definition = raw
  by_cases hn : names raw = []
  · rw [if_pos hn]
    rw [names_eq_nil] at hn
    exact .report (.done (by simp [hn]))
  · rw [if_neg hn]
    refine (informs_lookup_base (0, name) known kind _ outputTypes).bind fun found after hafter => ?_
    rw [stages_canonical] at hafter
    cases found with
    | some pipeline => exact .done fun hm => hafter (.inr ⟨by simp, hm⟩)
    | none =>
      refine (Procedure.Informs.observe _).bind fun names after hnames => ?_
      refine (informs_resolveMissing h fun hc => ?_).bind fun _ last hlast => ?_
      · refine hnames (.inr ?_)
        rintro store rfl
        rwa [Store.contains_names_none] at hc
      · refine (informs_lookup_base _ last kind _ outputTypes).mono fun _ hm => .inl ?_
        exact hlast (.inr (mem_names.2 hm))

/-! ## Operations on one layer -/

variable (layer) (key : FlightKey) (known : Bool)

omit [Described Obj] in
theorem informs_ask {query : Query} (h : query ≠ .fetch key.2) :
    (layer.ask .base query).Informs key known fun _ => False := by
  rw [ask, Procedure.consult_eq, Registry.asked_ask]
  refine .noteAll ?_ (.done False.elim)
  simp only [List.map_cons, List.map_nil, List.mem_filterMap, List.mem_singleton, exists_eq_left,
    Note.seeking?]
  split <;> simp [h]

omit [Described Obj] in
theorem informs_countCapable (kinds : List Kind) :
    (layer.countCapable .base kinds).Informs key known fun _ => False := by
  induction kinds generalizing known with
  | nil => exact .done False.elim
  | cons kind rest ih =>
    exact (layer.informs_ask key known (by simp)).bind fun _ after _ =>
      (ih after).bind fun _ _ _ => .done False.elim

omit [Described Obj] in
theorem informs_addCapable (names : NameSet) (kinds : List Kind) :
    (layer.addCapable .base names kinds).Informs key known fun _ => False := by
  induction kinds generalizing names known with
  | nil => exact .done False.elim
  | cons kind rest ih =>
    exact (layer.informs_ask key known (by simp)).bind fun _ after _ => ih after _

end Layer

/-- The operation is about the name: it resolves it, or looks up a definition with it. -/
def Operation.Mentions (layer : Layer Obj) (name : String) : Operation Obj → Prop
  | .lookup _ definition _ => name ∈ stages (layer.effective (some definition))
  | .lookupDefault _ definition _ => name ∈ stages (layer.effective definition)
  | .resolve wanted => wanted = name
  | .register _ | .size | .names _ | .contains _ => False

/-- Every operation on one layer keeps to the rules, and one that is about the name ends with the
name known. -/
theorem Operation.informs_perform [Described Obj] {layer : Layer Obj} {name : String}
    (h : layer.Supplies name) (known : Bool) (operation : Operation Obj) :
    (operation.perform [layer]).Informs (0, name) known fun _ => operation.Mentions layer name := by
  cases operation with
  | register registration => exact (Procedure.Informs.submit registration).map Answer.registration
  | lookup kind definition outputTypes =>
    rw [Operation.perform, Catalog.ofLayers_cons, Layer.lookup_atop]
    exact (Layer.informs_lookup h known kind (some definition) outputTypes).map Answer.pipeline
  | lookupDefault kind definition outputTypes =>
    exact (Layer.informs_lookup h known kind definition outputTypes).map Answer.pipeline
  | resolve wanted => exact (Layer.informs_resolve h known wanted).map Answer.resolution
  | size =>
    refine Procedure.Informs.map ?_ _
    exact (layer.informs_countCapable _ known _).bind fun _ after _ =>
      (Procedure.Informs.observe _).bind fun _ _ _ => .done False.elim
  | names kind =>
    refine Procedure.Informs.map ?_ _
    exact (Procedure.Informs.observe _).bind fun _ after _ => layer.informs_addCapable _ after _ _
  | contains wanted =>
    refine Procedure.Informs.map ?_ _
    refine (Procedure.Informs.observe _).bind fun found after _ => ?_
    cases found with
    | true => exact .done False.elim
    | false => exact layer.informs_ask _ after (by simp)

end NamedFunctions
