import NamedFunctions.Proofs.UsableNames

/-! # What a discovered function does

A name that the store lacks, and for which the registry has a bare target, is looked up as a function
that does just what the target does: its native entry point, or the one functional method of a plain
target, under that method's signature. Where a plain target has no single functional method, nothing
is found and nothing is stored. Of the methods that a class lists, only the functional ones count,
and their order does not. -/
namespace NamedFunctions

open Definition

variable {Obj World Payload : Type}

namespace Pipeline

/-- What a registration is on its own, looked up under a name. -/
def single (name : String) (registration : Registration Obj) : Pipeline Obj :=
  ⟨name, [registration], registration.signature, []⟩

theorem apply_single [Host World Payload Obj] (name : String) (registration : Registration Obj)
    (input : Payload) : (single name registration).apply input = registration.target.call input := by
  rw [apply, single, List.foldlM_cons]
  exact bind_pure _

end Pipeline

/-! ## Lookups of an absent name -/

theorem Store.lookup_of_absent {store : Store Obj} {definition name : String}
    (hm : name ∈ stages definition) (habsent : store.contains name = false) (kind : Option Kind)
    (outputTypes : List String) :
    ∃ miss, store.lookup kind definition outputTypes = .error miss := by
  cases hl : store.lookup kind definition outputTypes with
  | ok found =>
    have hcontains := contains_of_lookup hl hm
    rw [habsent] at hcontains
    cases hcontains
  | error miss => exact ⟨miss, rfl⟩

namespace Layer

variable [Described Obj] (layer : Layer Obj) {name : String} {store : Store Obj}

theorem store_run_lookup_of_absent (hname : stages name = [name])
    (habsent : store.contains name = false) (kind : Option Kind) (outputTypes : List String) :
    ((layer.lookup .base kind (some name) outputTypes).run store).store =
      (layer.candidate? name).elim store fun found => store.offer found.1 := by
  have heffective : layer.effective (some name) = name :=
    layer.effective_some (isBlankText_of_stages_eq hname)
  have hnames : names (layer.effective (some name)) = [name] := by
    rw [heffective, names_of_stages_eq hname]
  have hm : name ∈ stages (layer.effective (some name)) := by simp [heffective, hname]
  obtain ⟨miss, hmiss⟩ := Store.lookup_of_absent hm habsent kind outputTypes
  have hunknown : ¬(store.names none).contains name = true := by
    simp [Store.contains_names_none, habsent]
  rw [layer.run_lookup_of_error hmiss (by simp [hnames]), hnames]
  dsimp only
  rw [resolveMissing_cons, if_neg hunknown, Procedure.store_run_bind]
  show ((layer.resolve .base name).run store).store = _
  rw [store_run_resolve, if_neg (by simp [habsent]), store_run_discover]

theorem run_lookup_of_bare {target : Target Obj} (hname : stages name = [name])
    (habsent : store.contains name = false) (hc : layer.component? name = some (.bare target)) :
    let outcome := (layer.lookup .base none (some name) []).run store
    let offered := (layer.candidate? name).map Prod.fst
    outcome.value = offered.map (Pipeline.single name) ∧
      outcome.store = offered.elim store store.append := by
  intro outcome offered
  have hblank : Text.isBlankText name = false := isBlankText_of_stages_eq hname
  have hstore : outcome.store = _ := layer.store_run_lookup_of_absent hname habsent none []
  have hvalue : outcome.value = (outcome.store.lookup none name []).toOption := by
    have h := layer.answers_lookup Catalog.faithful_base none (some name) [] store
    rwa [layer.effective_some hblank] at h
  cases hcandidate : layer.candidate? name with
  | none =>
    have hm : name ∈ stages name := by simp [hname]
    obtain ⟨miss, hmiss⟩ := Store.lookup_of_absent hm habsent none []
    rw [hcandidate, Option.elim_none] at hstore
    rw [hvalue, hstore, hmiss]
    simp only [offered, hcandidate]
    exact ⟨rfl, rfl⟩
  | some found =>
    obtain ⟨registration, source⟩ := found
    have hnames : registration.names = [name] := by
      rcases layer.names_of_candidate? hcandidate with hnames | hready
      · exact hnames
      · rw [hc] at hready
        cases hready
    have hregister : store.register registration = .ok (store.append registration) :=
      Store.register_eq_ok.2 ⟨by simp [hnames, hblank, habsent], rfl⟩
    have hget : (store.append registration).get? name = some registration :=
      store.get?_append_of_mem (by simp [hnames])
    rw [hcandidate, Option.elim_some, Store.offer, hregister] at hstore
    rw [hvalue, hstore, Store.lookup_single hname hget]
    simp only [offered, hcandidate]
    exact ⟨rfl, rfl⟩

end Layer

/-! ## Methods that a class lists -/

/-- The second list has the methods of the first in any order, and among them any that are not
functional. -/
def Relists (methods listed : List Method) : Prop :=
  ∃ hidden : List Method, (∀ method ∈ hidden, method.isFunctional = false) ∧
    listed.Perm (methods ++ hidden)

theorem Relists.filter_eq_singleton_iff {methods listed : List Method} (h : Relists methods listed)
    {method : Method} : listed.filter Method.isFunctional = [method] ↔
      methods.filter Method.isFunctional = [method] := by
  obtain ⟨hidden, hhidden, hperm⟩ := h
  have hnone : hidden.filter Method.isFunctional = [] := by simpa using hhidden
  have hfiltered := hperm.filter Method.isFunctional
  rw [List.filter_append, hnone, List.append_nil] at hfiltered
  rw [← List.perm_singleton, ← List.perm_singleton]
  exact ⟨hfiltered.symm.trans, hfiltered.trans⟩

/-- The classes differ in the methods that they list, and not in those that are functional. -/
def ObjectClass.Relisted (cls other : ObjectClass) : Prop :=
  ∃ methods, Relists cls.methods methods ∧ other = { cls with methods }

namespace ObjectClass.Relisted

variable {cls other : ObjectClass}

theorem name_eq (h : cls.Relisted other) : other.name = cls.name := by
  obtain ⟨methods, -, rfl⟩ := h
  rfl

theorem flags_eq (h : cls.Relisted other) : other.flags = cls.flags := by
  obtain ⟨methods, -, rfl⟩ := h
  rfl

theorem isPlain_eq (h : cls.Relisted other) : other.isPlain = cls.isPlain := by
  obtain ⟨methods, -, rfl⟩ := h
  rfl

theorem signature_eq (h : cls.Relisted other) : other.signature = cls.signature := by
  obtain ⟨methods, -, rfl⟩ := h
  rfl

theorem functionalMethod_eq_ok_iff (h : cls.Relisted other) {method : Method} :
    other.functionalMethod = .ok method ↔ cls.functionalMethod = .ok method := by
  obtain ⟨methods, hlists, rfl⟩ := h
  rw [functionalMethod_eq_ok, functionalMethod_eq_ok]
  exact hlists.filter_eq_singleton_iff

end ObjectClass.Relisted

/-- The same objects, of classes that list other methods. -/
@[reducible] def Described.relisted [Described Obj] (listed : Obj → List Method) : Described Obj where
  classOf object := { Described.classOf object with methods := listed object }

@[reducible] def Host.relisted [Host World Payload Obj] (listed : Obj → List Method) :
    Host World Payload Obj where
  toDescribed := Described.relisted listed
  call := Host.call
  invoke := Host.invoke

section Relisted

variable [Described Obj] {listed : Obj → List Method}
  (h : ∀ object, Relists (Described.classOf object).methods (listed object))
include h

theorem Target.classOf_relisted (target : Target Obj) :
    target.classOf.Relisted (@Target.classOf Obj (Described.relisted listed) target) := by
  -- an adapted target lists no methods before and after
  induction target with
  | object object => exact ⟨listed object, h object, rfl⟩
  | adapted target method ih =>
    refine ⟨[], ⟨[], by simp, .refl []⟩, ?_⟩
    show method.adaptedClass (@Target.classOf Obj (Described.relisted listed) target) =
      method.adaptedClass target.classOf
    rw [Method.adaptedClass, ih.name_eq, Method.adaptedClass]

theorem Discovery.discover_relisted (registry : Registry Obj) (target : Target Obj)
    (name : String) :
    @discover Obj (Described.relisted listed) registry (.bare target) name =
      discover registry (.bare target) name := by
  have hclass := Target.classOf_relisted h target
  simp only [discover, fromRouting, Component.classOf, Component.target, hclass.flags_eq,
    hclass.signature_eq]

theorem Layer.prepared?_relisted (layer : Layer Obj) (name : String) (component : Component Obj) :
    @Layer.prepared? Obj layer name (Described.relisted listed) component =
      layer.prepared? name component := by
  cases component with
  | registration r => rfl
  | bare target =>
    have hclass := Target.classOf_relisted h target
    cases hp : target.classOf.isPlain with
    | false =>
      rw [layer.prepared?_of_called name hp,
        @prepared?_of_called Obj layer name (Described.relisted listed) target
          (hclass.isPlain_eq.trans hp),
        Discovery.discover_relisted h]
    | true =>
      have hp' := hclass.isPlain_eq.trans hp
      cases hm : target.classOf.functionalMethod with
      | ok method =>
        have hm' := hclass.functionalMethod_eq_ok_iff.2 hm
        rw [layer.prepared?_of_method name hp hm,
          @prepared?_of_method Obj layer name (Described.relisted listed) target method hp' hm']
      | error e =>
        cases hm' : (@Target.classOf Obj (Described.relisted listed) target).functionalMethod with
        | ok method => cases (hclass.functionalMethod_eq_ok_iff.1 hm').symm.trans hm
        | error e' =>
          rw [layer.prepared?_of_unadaptable name hp hm,
            @prepared?_of_unadaptable Obj layer name (Described.relisted listed) target e' hp' hm']

theorem Layer.candidate?_relisted (layer : Layer Obj) (name : String) :
    @Layer.candidate? Obj layer name (Described.relisted listed) = layer.candidate? name := by
  unfold candidate?
  rw [funext (layer.prepared?_relisted h name)]

end Relisted

section RelistedHost

variable [Host World Payload Obj] {listed : Obj → List Method}
  (h : ∀ object, Relists (Described.classOf object).methods (listed object))
include h

/-- Targets behave as before: the methods that a class lists matter to no call. -/
theorem Target.call_relisted (target : Target Obj) (input : Payload) :
    @Target.call Obj World Payload (Host.relisted listed) target input = target.call input := by
  cases target with
  | object object => rfl
  | adapted target method =>
    cases target with
    | object object => rfl
    | adapted inner innerMethod =>
      have hclass := classOf_relisted h (adapted inner innerMethod)
      exact congrArg (fun className =>
        (throw (.noSuchMethod className method.name) : Invocation World Payload)) hclass.name_eq

theorem Pipeline.apply_relisted (pipeline : Pipeline Obj) (input : Payload) :
    @Pipeline.apply Obj World Payload (Host.relisted listed) pipeline input = pipeline.apply input := by
  simp only [apply, Target.call_relisted h]

end RelistedHost

/-! ## Behaviour -/

theorem Target.eq_object_of_not_isCallable [Described Obj] {target : Target Obj}
    (h : ¬target.classOf.IsCallable) : ∃ object, target = .object object := by
  -- the class of an adapted method is synthetic
  cases target with
  | object object => exact ⟨object, rfl⟩
  | adapted target method => exact (h (.inl rfl)).elim

namespace Layer

/-- A bare target is found as one stage that does what the host does on a call of the object, or
of the one functional method of a plain object. Without such a method nothing is found or stored.
Other methods, and their order, do not matter. -/
theorem lookup_behaves_as_object [Host World Payload Obj] (layer : Layer Obj) (name : String)
    (store : Store Obj) (target : Target Obj) (hname : stages name = [name])
    (habsent : store.contains name = false) (hc : layer.component? name = some (.bare target)) :
    let outcome := (layer.lookup .base none (some name) []).run store
    (target.classOf.IsCallable → ∃ found, outcome.value = some found ∧ found.stages.length = 1 ∧
        (∀ input, found.apply input = target.call input) ∧
        (∀ object, target = .object object → ∀ input, found.apply input = Host.call object input) ∧
        ∀ object method, target = .adapted (.object object) method →
          ∀ input, found.apply input = Host.invoke object method.name input) ∧
      (∀ method, ¬target.classOf.IsCallable →
        target.classOf.methods.filter Method.isFunctional = [method] →
          ∃ object found, target = .object object ∧ outcome.value = some found ∧
            found.stages.length = 1 ∧ found.signature = method.signature ∧
            (∀ input, found.apply input = target.invoke method.name input) ∧
            ∀ input, found.apply input = Host.invoke object method.name input) ∧
      (¬target.classOf.IsCallable →
        (∀ method, target.classOf.methods.filter Method.isFunctional ≠ [method]) →
          outcome.value = none ∧ outcome.store = store) ∧
      ∀ listed : Obj → List Method,
        (∀ object, Relists (Described.classOf object).methods (listed object)) →
          let again :=
            (@Layer.lookup Obj (Described.relisted listed) layer .base none (some name) []).run store
          again.value = outcome.value ∧ again.store = outcome.store ∧
            ∀ (found : Pipeline Obj) (input : Payload),
              @Pipeline.apply Obj World Payload (Host.relisted listed) found input =
                found.apply input := by
  intro outcome
  have hrun := layer.run_lookup_of_bare hname habsent hc
  have hcandidate := layer.candidate?_of_bare hc
  refine ⟨?_, ?_, ?_, ?_⟩
  · intro hcallable
    have hp := ObjectClass.isPlain_eq_false.2 hcallable
    rw [hcandidate, layer.prepared?_of_called name hp] at hrun
    have hcalls (input : Payload) := Pipeline.apply_single name
      { primary := name, target,
        signature := (Discovery.discover layer.registry (.bare target) name).value.signature } input
    refine ⟨_, hrun.1, rfl, hcalls, ?_, ?_⟩
    · rintro object rfl input
      exact (hcalls input).trans (Target.call_object object input)
    · rintro object method rfl input
      rw [← Target.invoke_object, ← Target.call_adapted]
      exact hcalls input
  · intro method hplain hmethod
    have hp := ObjectClass.isPlain_iff.2 hplain
    have hm := ObjectClass.functionalMethod_eq_ok.2 hmethod
    rw [hcandidate, layer.prepared?_of_method name hp hm] at hrun
    obtain ⟨object, rfl⟩ := Target.eq_object_of_not_isCallable hplain
    exact ⟨object, _, rfl, hrun.1, rfl, rfl, Pipeline.apply_single name _,
      Pipeline.apply_single name _⟩
  · intro hplain hnone
    have hp := ObjectClass.isPlain_iff.2 hplain
    cases hm : target.classOf.functionalMethod with
    | ok method => exact (hnone method (ObjectClass.functionalMethod_eq_ok.1 hm)).elim
    | error e =>
      rw [hcandidate, layer.prepared?_of_unadaptable name hp hm] at hrun
      exact hrun
  · intro listed hlisted again
    have hagain := @run_lookup_of_bare Obj (Described.relisted listed) layer name store target
      hname habsent hc
    rw [layer.candidate?_relisted hlisted] at hagain
    exact ⟨hagain.1.trans hrun.1.symm, hagain.2.trans hrun.2.symm, Pipeline.apply_relisted hlisted⟩

/-- A plain object found by its qualifier, whose class also lists a static method, and a function that
notes its input in the world; then both with their methods the other way around and one that takes no
argument before them. -/
theorem lookup_behaves_as_object_shout :
    let shout : Method := ⟨"shout", ⟨.named "String", .any⟩, { isPublic := true }⟩
    let main : Method := ⟨"main", ⟨.any, .void⟩, { isPublic := true, isStatic := true }⟩
    let tick : Method := ⟨"tick", ⟨.void, .any⟩, { isPublic := true }⟩
    let shouter : Scripted.Object :=
      .custom 0 { name := "Shouter", methods := [main, shout] } none [("shout", .upper)]
    let note : Scripted.Object := .function 1 ⟨.transform, "Note", .record, none, {}⟩
    let registry := (Declarations.ofList
      [.component "shouter" (.bare (.object shouter)), .qualifier "shouter" "loud",
        .component "note" (.bare (.object note))]).registry
    let layer : Layer Scripted.Object := ⟨registry, {}⟩
    let lookup (name : String) := ((layer.lookup .base none (some name) []).run .empty).value
    let listed (object : Scripted.Object) := tick :: (Described.classOf object).methods.reverse
    let relisted (name : String) :=
      ((@Layer.lookup Scripted.Object (Described.relisted listed) layer .base none (some name) []).run
        .empty).value
    let empty : Store Scripted.Object := .empty
    (∀ object, Relists (Described.classOf object).methods (listed object)) ∧
      (stages "loud" = ["loud"] ∧ empty.contains "loud" = false ∧
        layer.component? "loud" = some (.bare (.object shouter)) ∧
        ¬(Described.classOf shouter).IsCallable ∧
        (Described.classOf shouter).methods.filter Method.isFunctional = [shout] ∧
        ∃ found, lookup "loud" = some found ∧ found.signature = ⟨.named "String", .any⟩ ∧
          (∀ input, found.apply input = Host.invoke shouter "shout" input) ∧
          relisted "loud" = some found) ∧
      stages "note" = ["note"] ∧ empty.contains "note" = false ∧
        layer.component? "note" = some (.bare (.object note)) ∧
        (Described.classOf note).IsCallable ∧
        ∃ found, lookup "note" = some found ∧
          (∀ input, found.apply input = Host.call note input) ∧
          (found.apply (.text "a")).run.run {} = (.ok (.text "a"), ⟨{}, [.text "a"]⟩) ∧
          relisted "note" = some found := by
  intro shout main tick shouter note registry layer lookup listed relisted empty
  have hlisted : ∀ object, Relists (Described.classOf object).methods (listed object) := by
    intro object
    refine ⟨[tick], by decide, ?_⟩
    exact ((List.reverse_perm _).cons tick).trans (List.perm_append_singleton tick _).symm
  refine ⟨hlisted, ?_, ?_⟩
  · have hname : stages "loud" = ["loud"] := by decide
    have habsent : empty.contains "loud" = false := by decide
    have hc : layer.component? "loud" = some (.bare (.object shouter)) := by
      unfold layer registry note shouter main shout
      rfl
    have hplain : ¬(Described.classOf shouter).IsCallable := ObjectClass.isPlain_iff.1 (by decide)
    have hmethod : (Described.classOf shouter).methods.filter Method.isFunctional = [shout] := by
      decide
    obtain ⟨-, hbehaves, -, hrelisted⟩ :=
      lookup_behaves_as_object layer "loud" .empty (.object shouter) hname habsent hc
    obtain ⟨object, found, hobject, hfound, -, hsignature, -, happly⟩ :=
      hbehaves shout hplain hmethod
    cases hobject
    exact ⟨hname, habsent, hc, hplain, hmethod, found, hfound, hsignature, happly,
      (hrelisted listed hlisted).1.trans hfound⟩
  · have hname : stages "note" = ["note"] := by decide
    have habsent : empty.contains "note" = false := by decide
    have hc : layer.component? "note" = some (.bare (.object note)) := by
      unfold layer registry note shouter main shout
      rfl
    have hcallable : (Described.classOf note).IsCallable := .inr ⟨.transform, rfl⟩
    obtain ⟨hbehaves, -, -, hrelisted⟩ :=
      lookup_behaves_as_object layer "note" .empty (.object note) hname habsent hc
    obtain ⟨found, hfound, -, -, hcalls, -⟩ := hbehaves hcallable
    have happly : ∀ input, found.apply input = Host.call note input := hcalls note rfl
    refine ⟨hname, habsent, hc, hcallable, found, hfound, happly, ?_,
      (hrelisted listed hlisted).1.trans hfound⟩
    rw [happly]
    rfl

end Layer

end NamedFunctions
