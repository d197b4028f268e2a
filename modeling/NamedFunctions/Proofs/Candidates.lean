import Mathlib.Data.List.Nodup
import NamedFunctions.Layer

/-! # What a layer makes of a name

What a layer would register for a name depends on its registry alone: on the component that the
registry has for the name, and on how that component is prepared. The store only decides whether the
registration is accepted. While a component is prepared the registry is asked to describe things, and
no further component is sought. -/
namespace NamedFunctions

/-- The name that a component is sought under, where a query seeks one. -/
def Query.sought? : Query → Option String
  | contains name | fetch name | qualified name => some name
  | capable _ | aliases _ | hasDefinition _ | isFactory _ | produced _ | declared _ => none

/-! ## Inquiries that seek no component -/

namespace Inquiry

variable {α β : Type}

/-- The inquiry asks for descriptions only. -/
def Descriptive (inquiry : Inquiry α) : Prop :=
  ∀ query ∈ inquiry.asked, query.sought? = none

theorem Descriptive.pure (a : α) : (Pure.pure a : Inquiry α).Descriptive := by
  intro query h
  cases h

theorem Descriptive.bind {inquiry : Inquiry α} {next : α → Inquiry β} (first : inquiry.Descriptive)
    (rest : ∀ a, (next a).Descriptive) : (inquiry >>= next).Descriptive := by
  intro query h
  rw [asked_bind, List.mem_append] at h
  rcases h with h | h
  · exact first query h
  · exact rest _ query h

theorem Descriptive.ask {Obj : Type} (registry : Registry Obj) {query : Query}
    (h : query.sought? = none) : (registry.ask query).Descriptive := by
  intro asked hm
  rw [Registry.asked_ask, List.mem_singleton] at hm
  rwa [hm]

end Inquiry

namespace Discovery

variable {Obj : Type} (registry : Registry Obj) (name : String)

open Inquiry (Descriptive)

theorem descriptive_firstDefined (names : List String) :
    (firstDefined registry names).Descriptive := by
  induction names with
  | nil => exact .pure none
  | cons name rest ih =>
    refine .bind (.ask registry rfl) fun defined => ?_
    split
    · exact .pure (some name)
    · exact ih

theorem descriptive_definitionName : (definitionName registry name).Descriptive :=
  .bind (.ask registry rfl) fun _ =>
    .bind (descriptive_firstDefined registry _) fun _ => .pure _

theorem descriptive_fromFactory : (fromFactory registry name).Descriptive := by
  refine .bind (.ask registry rfl) fun bound => ?_
  split
  · exact .bind (.ask registry rfl) fun _ => .pure _
  · exact .pure none

theorem descriptive_refineByDefinition (signature : Signature) :
    (refineByDefinition registry name signature).Descriptive := by
  refine .bind (descriptive_definitionName registry name) fun definition => ?_
  split
  · exact .pure _
  · refine .bind (.ask registry rfl) fun defined => ?_
    split
    · refine .bind (.ask registry rfl) fun declared => ?_
      split <;> exact .pure _
    · exact .pure _

variable [Described Obj]

theorem descriptive_fromRouting (candidate : Component Obj) :
    (fromRouting registry candidate name).Descriptive := by
  unfold fromRouting
  split
  · split
    · exact .ask registry rfl
    · exact .pure none
  · exact .pure none

theorem descriptive_discover (candidate : Component Obj) :
    (discover registry candidate name).Descriptive := by
  refine .bind (descriptive_fromRouting registry name candidate) fun routed => ?_
  split
  · exact .pure _
  · split
    · exact .pure _
    · refine .bind (descriptive_fromFactory registry name) fun produced => ?_
      split
      · exact .pure _
      · exact descriptive_refineByDefinition registry name _

end Discovery

/-! ## Notes before a procedure -/

/-- The query by which a note seeks a component, if it notes one. -/
def Note.seeking? : Note → Option Query
  | asked _ query => if query.sought?.isSome then some query else none
  | reported _ => none

namespace Procedure

variable {Obj α β : Type}

/-- Makes some notes and goes on. -/
def noteAll (notes : List Note) (next : Procedure Obj α) : Procedure Obj α :=
  notes.foldr note next

theorem noteAll_append (first second : List Note) (next : Procedure Obj α) :
    noteAll (first ++ second) next = noteAll first (noteAll second next) :=
  List.foldr_append

theorem noteAll_bind (notes : List Note) (p : Procedure Obj α) (f : α → Procedure Obj β) :
    (noteAll notes p >>= f) = noteAll notes (p >>= f) := by
  induction notes with
  | nil => rfl
  | cons first rest ih => exact congrArg (note first) ih

theorem run_noteAll (notes : List Note) (p : Procedure Obj α) (store : Store Obj) :
    (noteAll notes p).run store =
      ⟨(p.run store).value, (p.run store).store, notes ++ (p.run store).trace⟩ := by
  induction notes with
  | nil => rfl
  | cons first rest ih =>
    show (note first (noteAll rest p)).run store = _
    rw [run, ih, List.cons_append]

theorem report_eq (event : Event) :
    (report event : Procedure Obj Unit) = noteAll [.reported event] (done ()) := rfl

theorem consult_eq (depth : Nat) (inquiry : Inquiry α) :
    (consult depth inquiry : Procedure Obj α) =
      noteAll (inquiry.asked.map (.asked depth)) (done inquiry.value) := by
  rw [consult, noteAll, List.foldr_map]

end Procedure

theorem Inquiry.Descriptive.seeking? {α : Type} {inquiry : Inquiry α} (h : inquiry.Descriptive)
    (depth : Nat) : (inquiry.asked.map (Note.asked depth)).filterMap Note.seeking? = [] := by
  rw [List.filterMap_eq_nil_iff]
  intro note hm
  obtain ⟨query, hq, rfl⟩ := List.mem_map.1 hm
  simp [Note.seeking?, h query hq]

theorem Procedure.discard_bind {Obj α β : Type} (p : Procedure Obj α)
    (f : Unit → Procedure Obj β) : (discard p >>= f) = (p >>= fun _ => f ()) := by
  show ((fun _ => ()) <$> p) >>= f = _
  rw [bind_map_left]

/-! ## The registration for a name -/

namespace Layer

variable {Obj : Type} (layer : Layer Obj) (name : String)

/-- The component that the registry has for a name. -/
def component? : Option (Component Obj) :=
  if layer.registry (.contains name) then layer.registry (.fetch name)
  else (layer.registry (.qualified name)).toOption.join

/-- The queries by which the component for a name is sought, in order. -/
def seeks : List Query :=
  [.contains name, if layer.registry (.contains name) then .fetch name else .qualified name]

variable [Described Obj]

/-- What a component is registered as under a name, unless it is a plain object without a single
functional method. -/
def prepared? : Component Obj → Option (Registration Obj × SignatureSource)
  | .registration r => some (r, .registration)
  | .bare target =>
    if target.classOf.isPlain then
      target.adapt.toOption.map fun (adapted, method) =>
        ({ primary := name, target := adapted, signature := method.signature,
            names_nodup := List.nodup_singleton name }, .method)
    else
      let found := (Discovery.discover layer.registry (.bare target) name).value
      some ({ primary := name, target, signature := found.signature,
              names_nodup := List.nodup_singleton name }, found.source)

/-- What the registry's component for a name is registered as. -/
def candidate? : Option (Registration Obj × SignatureSource) :=
  (layer.component? name).bind (layer.prepared? name)

section Bare

variable {target : Target Obj}

theorem prepared?_of_called (h : target.classOf.isPlain = false) :
    layer.prepared? name (.bare target) =
      let found := (Discovery.discover layer.registry (.bare target) name).value
      some ({ primary := name, target, signature := found.signature,
              names_nodup := List.nodup_singleton name }, found.source) := by
  rw [prepared?, if_neg (by simp [h])]

theorem prepared?_of_method {method : Method} (h : target.classOf.isPlain = true)
    (hm : target.classOf.functionalMethod = .ok method) :
    layer.prepared? name (.bare target) =
      some ({ primary := name, target := .adapted target method, signature := method.signature,
              names_nodup := List.nodup_singleton name }, .method) := by
  rw [prepared?, if_pos h, Target.adapt, hm]
  rfl

theorem prepared?_of_unadaptable {e : MethodError} (h : target.classOf.isPlain = true)
    (he : target.classOf.functionalMethod = .error e) :
    layer.prepared? name (.bare target) = none := by
  rw [prepared?, if_pos h, Target.adapt, he]
  rfl

variable {name}

theorem candidate?_of_bare (hc : layer.component? name = some (.bare target)) :
    layer.candidate? name = layer.prepared? name (.bare target) := by
  rw [candidate?, hc, Option.bind_some]

/-- A target that can be called, directly or through its one functional method, is registered under
the one name that it was sought by. -/
theorem exists_candidate?_of_bare (hc : layer.component? name = some (.bare target))
    (ht : target.classOf.isPlain = false ∨
      ∃ method, target.classOf.functionalMethod = .ok method) :
    ∃ registration source, layer.candidate? name = some (registration, source) ∧
      registration.names = [name] := by
  rw [layer.candidate?_of_bare hc]
  cases hp : target.classOf.isPlain with
  | false =>
    rw [layer.prepared?_of_called name hp]
    exact ⟨_, _, rfl, rfl⟩
  | true =>
    obtain ⟨method, hm⟩ := ht.resolve_left (by simp [hp])
    rw [layer.prepared?_of_method name hp hm]
    exact ⟨_, _, rfl, rfl⟩

end Bare

variable (below : Catalog Obj)

omit [Described Obj] in
theorem fetch_eq : ∃ notes, notes.filterMap Note.seeking? = layer.seeks name ∧
    layer.fetch below name = .noteAll notes (.done (layer.component? name)) := by
  unfold fetch ask component? seeks
  simp only [Procedure.consult_eq, Procedure.noteAll_bind, Registry.asked_ask, Registry.value_ask,
    Procedure.done_bind]
  split
  · exact ⟨[.asked below.depth (.contains name), .asked below.depth (.fetch name)], rfl, rfl⟩
  · cases h : layer.registry (.qualified name) with
    | ok found =>
      exact ⟨[.asked below.depth (.contains name), .asked below.depth (.qualified name)], rfl, rfl⟩
    | error e =>
      exact ⟨[.asked below.depth (.contains name), .asked below.depth (.qualified name),
        .reported (.qualifierFailed name e)], rfl, rfl⟩

theorem prepare_eq (component : Component Obj) :
    ∃ notes, notes.filterMap Note.seeking? = [] ∧
      layer.prepare below name component =
        .noteAll notes (.done (layer.prepared? name component)) := by
  cases component with
  | registration r => exact ⟨[], rfl, rfl⟩
  | bare target =>
    unfold prepare prepared? Component.treatment
    by_cases hp : target.classOf.isPlain = true
    · simp only [hp, if_true]
      cases target.adapt with
      | ok adapted => exact ⟨[], rfl, rfl⟩
      | error e => exact ⟨[.reported (.notAdaptable name e)], rfl, rfl⟩
    · simp only [hp, Bool.false_eq_true, if_false]
      have described := Discovery.descriptive_discover layer.registry name (.bare target)
      refine ⟨_, described.seeking? below.depth, ?_⟩
      rw [Procedure.consult_eq, Procedure.noteAll_bind]
      rfl

/-- Reports what became of a registration. -/
def conclude (registration : Registration Obj) (source : SignatureSource) :
    Except RegisterError Unit → Procedure Obj Resolution
  | .ok () => .noteAll [.reported (.registered name registration.signature source)]
    (.done (.registered registration.signature))
  | .error e => .noteAll [.reported (.notRegistered name e)] (.done (.rejected e))

theorem discover_of_none (h : layer.candidate? name = none) :
    ∃ notes, notes.filterMap Note.seeking? = layer.seeks name ∧
      layer.discover below name = .noteAll notes
        (.done (if (layer.component? name).isSome then .unadaptable else .notFound)) := by
  obtain ⟨sought, hs, hfetch⟩ := layer.fetch_eq name below
  rw [candidate?] at h
  unfold discover
  rw [hfetch, Procedure.noteAll_bind, Procedure.done_bind]
  cases hc : layer.component? name with
  | none =>
    refine ⟨sought ++ [.reported (.notAvailable name)], by simp [hs, Note.seeking?], ?_⟩
    rw [Procedure.noteAll_append]
    rfl
  | some component =>
    obtain ⟨described, hd, hprepare⟩ := layer.prepare_eq name below component
    rw [hc, Option.bind_some] at h
    refine ⟨sought ++ described, by simp [hs, hd], ?_⟩
    simp only [hprepare, h, Procedure.noteAll_bind, Procedure.noteAll_append]
    rfl

theorem discover_of_some {registration : Registration Obj} {source : SignatureSource}
    (h : layer.candidate? name = some (registration, source)) :
    ∃ notes, notes.filterMap Note.seeking? = layer.seeks name ∧
      layer.discover below name = .noteAll notes
        (below.register registration >>= conclude name registration source) := by
  obtain ⟨sought, hs, hfetch⟩ := layer.fetch_eq name below
  obtain ⟨component, hc, hp⟩ := Option.bind_eq_some_iff.1 h
  obtain ⟨described, hd, hprepare⟩ := layer.prepare_eq name below component
  refine ⟨sought ++ described, by simp [hs, hd], ?_⟩
  unfold discover
  rw [hfetch, Procedure.noteAll_bind, Procedure.done_bind, hc]
  simp only [hprepare, hp, Procedure.noteAll_bind, Procedure.noteAll_append, Procedure.done_bind]
  refine congrArg _ (congrArg _ (congrArg _ (funext fun answer => ?_)))
  cases answer <;> rfl

theorem resolveMissing_cons (known : NameSet) (rest : List String) :
    layer.resolveMissing below known (name :: rest) =
      if known.contains name then
        .noteAll [.reported (.alreadyPresent name)] (layer.resolveMissing below known rest)
      else layer.resolve below name >>= fun _ => layer.resolveMissing below known rest := by
  rw [resolveMissing]
  split
  · rfl
  · exact Procedure.discard_bind ..

end Layer

end NamedFunctions
