import NamedFunctions.Proofs.PipelineShape
import NamedFunctions.Scripted

/-! # Lookups of definitions in sequence

Two definitions with a bar between them name the stages of the first and then those of the second.
What is found for them is the two pipelines in sequence, unless the first ends in a consumer or the
second begins with a producer. To run it is to run the first and, with the value that it gives, the
second. How often a stage is called is seen by running a pipeline in a world that also keeps the calls
made: each stage is called at most once, and none after one that fails. -/
namespace NamedFunctions

open Definition

/-! ## Shapes in sequence -/

namespace Kind

theorem append_mem_tailShape {before after : List Kind} (ha : after ≠ []) :
    before ++ after ∈ tailShape.matches' ↔
      before ∈ tailShape.matches' ∧ before.getLast? ≠ some consumer ∧
        after ∈ tailShape.matches' := by
  induction before with
  | nil => simp [nil_mem_tailShape]
  | cons kind before ih =>
    rw [List.cons_append, cons_mem_tailShape, cons_mem_tailShape, ih]
    cases before with
    | nil => cases kind <;> simp [ha, nil_mem_tailShape]
    | cons second before => simp [and_assoc]

theorem mem_tailShape_iff (kinds : List Kind) :
    kinds ∈ tailShape.matches' ↔ kinds ∈ pipelineShape.matches' ∧ kinds.head? ≠ some producer := by
  rw [mem_pipelineShape]
  constructor
  · intro h
    refine ⟨.inl h, ?_⟩
    intro hh
    exact producer_notMem_of_mem_tailShape h (List.mem_of_head? hh)
  · intro h
    rcases h with ⟨h | ⟨rest, -, rfl⟩, hh⟩
    · exact h
    · exact absurd rfl hh

theorem producer_cons_mem_pipelineShape {kinds : List Kind} :
    producer :: kinds ∈ pipelineShape.matches' ↔ kinds ∈ tailShape.matches' := by
  rw [mem_pipelineShape, cons_mem_tailShape]
  simp

/-- Two sequences of the shape follow one another if no consumer and no producer comes to stand
between them. -/
theorem append_mem_pipelineShape {before after : List Kind} (hb : before ≠ []) (ha : after ≠ []) :
    before ++ after ∈ pipelineShape.matches' ↔
      before ∈ pipelineShape.matches' ∧ after ∈ pipelineShape.matches' ∧
        before.getLast? ≠ some consumer ∧ after.head? ≠ some producer := by
  obtain ⟨first, before, rfl⟩ := List.exists_cons_of_ne_nil hb
  by_cases hf : first = producer
  · subst hf
    have hlast :
        (producer :: before).getLast? ≠ some consumer ↔ before.getLast? ≠ some consumer := by
      cases before <;> simp
    rw [List.cons_append, producer_cons_mem_pipelineShape, producer_cons_mem_pipelineShape,
      append_mem_tailShape ha, mem_tailShape_iff after, hlast]
    tauto
  · have hhead (rest : List Kind) :
        first :: rest ∈ pipelineShape.matches' ↔ first :: rest ∈ tailShape.matches' := by
      simp [mem_tailShape_iff, hf]
    rw [List.cons_append, hhead, hhead, ← List.cons_append, append_mem_tailShape ha,
      mem_tailShape_iff after]
    tauto

end Kind

/-! ## The calls of a run -/

namespace Invocation

variable {World Call α β : Type}

/-- The invocation in a world that also keeps a list of calls, to which it adds one. -/
def noted (call : Call) (invocation : Invocation World α) : Invocation (World × List Call) α :=
  ExceptT.mk fun (world, calls) =>
    let (result, left) := invocation.run.run world
    (result, left, calls ++ [call])

theorem run_bind (invocation : Invocation World α) (next : α → Invocation World β) (world : World) :
    (invocation >>= next).run.run world =
      match invocation.run.run world with
      | (.ok value, left) => (next value).run.run left
      | (.error e, left) => (.error e, left) := by
  rw [ExceptT.run_bind, StateT.run_bind]
  cases invocation.run.run world with
  | mk result left => cases result <;> rfl

theorem run_noted (call : Call) (invocation : Invocation World α) (world : World)
    (calls : List Call) :
    (invocation.noted call).run.run (world, calls) =
      ((invocation.run.run world).1, (invocation.run.run world).2, calls ++ [call]) := rfl

end Invocation

namespace Pipeline

variable {Obj World Payload : Type} [Host World Payload Obj]

/-- Feeds a value through stages. -/
def feed (stages : List (Registration Obj)) (input : Payload) : Invocation World Payload :=
  stages.foldlM (fun value stage => stage.target.call value) input

/-- Feeds a value through stages and notes each call, with the value that the stage is given. -/
def feedNoted (stages : List (Registration Obj)) (input : Payload) :
    Invocation (World × List (Registration Obj × Payload)) Payload :=
  stages.foldlM (fun value stage => (stage.target.call value).noted (stage, value)) input

/-- Runs a pipeline and notes its calls. -/
def applyNoted (pipeline : Pipeline Obj) (input : Payload) :
    Invocation (World × List (Registration Obj × Payload)) Payload :=
  feedNoted pipeline.stages input

theorem apply_eq_feed (pipeline : Pipeline Obj) (input : Payload) :
    (pipeline.apply input : Invocation World Payload) = feed pipeline.stages input := rfl

theorem feed_append (before after : List (Registration Obj)) (input : Payload) :
    (feed (before ++ after) input : Invocation World Payload) = feed before input >>= feed after :=
  List.foldlM_append

theorem feedNoted_append (before after : List (Registration Obj)) (input : Payload) :
    (feedNoted (before ++ after) input : Invocation (World × _) Payload) =
      feedNoted before input >>= feedNoted after :=
  List.foldlM_append

theorem run_feed_cons (stage : Registration Obj) (rest : List (Registration Obj)) (input : Payload)
    (world : World) :
    (feed (stage :: rest) input).run.run world =
      match (stage.target.call input).run.run world with
      | (.ok value, between) => (feed rest value).run.run between
      | (.error e, left) => (.error e, left) := by
  rw [feed, List.foldlM_cons, Invocation.run_bind]
  cases (stage.target.call input).run.run world with
  | mk result between => cases result <;> rfl

theorem run_feedNoted_cons (stage : Registration Obj) (rest : List (Registration Obj)) (input : Payload)
    (world : World) (calls : List (Registration Obj × Payload)) :
    (feedNoted (stage :: rest) input).run.run (world, calls) =
      match (stage.target.call input).run.run world with
      | (.ok value, between) =>
        (feedNoted rest value).run.run (between, calls ++ [(stage, input)])
      | (.error e, left) => (.error e, left, calls ++ [(stage, input)]) := by
  rw [feedNoted, List.foldlM_cons, Invocation.run_bind, Invocation.run_noted]
  cases (stage.target.call input).run.run world with
  | mk result between => cases result <;> rfl

/-- The calls that a run of stages has made when it ends with a result. -/
inductive Called (stages : List (Registration Obj)) (input : Payload) (world left : World)
    (calls : List (Registration Obj × Payload)) : Except InvocationError Payload → Prop
  /-- Every stage was called once, in order. -/
  | finished {value : Payload} (called : calls.map Prod.fst = stages) :
    Called stages input world left calls (.ok value)
  /-- A stage failed on what those before it gave, and none after it was called. -/
  | failed {error : InvocationError} {earlier later : List (Registration Obj)}
      {stage : Registration Obj} {given : Payload} {between : World}
      (stages_eq : stages = earlier ++ stage :: later)
      (called : calls.map Prod.fst = earlier ++ [stage])
      (reached : (feed earlier input).run.run world = (.ok given, between))
      (fails : (stage.target.call given).run.run between = (.error error, left)) :
    Called stages input world left calls (.error error)

theorem run_feedNoted (stages : List (Registration Obj)) (input : Payload) (world : World)
    (before : List (Registration Obj × Payload)) :
    ∃ result left calls,
      (feed stages input).run.run world = (result, left) ∧
        (feedNoted stages input).run.run (world, before) = (result, left, before ++ calls) ∧
        Called stages input world left calls result := by
  -- by induction on the stages: noting the calls changes neither result nor world
  induction stages generalizing input world before with
  | nil => exact ⟨.ok input, world, [], rfl, by rw [List.append_nil]; rfl, .finished rfl⟩
  | cons stage rest ih =>
    rw [run_feed_cons, run_feedNoted_cons]
    cases hcall : (stage.target.call input).run.run world with
    | mk outcome between =>
      cases outcome with
      | error e =>
        have hstages : stage :: rest = [] ++ stage :: rest := rfl
        exact ⟨.error e, between, [(stage, input)], rfl, rfl, .failed hstages rfl rfl hcall⟩
      | ok value =>
        obtain ⟨result, left, calls, hfeed, hnoted, hcalled⟩ :=
          ih value between (before ++ [(stage, input)])
        refine ⟨result, left, (stage, input) :: calls, hfeed, ?_, ?_⟩
        · rw [List.append_assoc, List.singleton_append] at hnoted
          exact hnoted
        · cases hcalled with
          | finished called => exact .finished (congrArg (stage :: ·) called)
          | @failed error earlier later failing given last stages_eq called reached fails =>
            have hreached : (feed (stage :: earlier) input).run.run world = (.ok given, last) := by
              rw [run_feed_cons, hcall]
              exact reached
            have hcalls : ((stage, input) :: calls).map Prod.fst = stage :: earlier ++ [failing] :=
              congrArg (stage :: ·) called
            exact .failed (congrArg (stage :: ·) stages_eq) hcalls hreached fails

end Pipeline

/-! ## Lookups in sequence -/

theorem Definition.stages_bar (first second : String) :
    stages (first ++ "|" ++ second) = stages first ++ stages second :=
  stages_append_delimiter first second (c := '|') (by decide)

namespace Store

variable {Obj : Type} {store : Store Obj}

theorem ends_of_lookup {definition : String} {outputTypes : List String} {pipeline : Pipeline Obj}
    (h : store.lookup none definition outputTypes = .ok pipeline) :
    ∃ first last, pipeline.stages.head? = some first ∧ pipeline.stages.getLast? = some last ∧
      pipeline.signature = ⟨first.signature.input, last.signature.output⟩ := by
  obtain ⟨-, -, ho, -⟩ := lookup_eq_ok_iff_stages.1 h
  obtain ⟨first, last, hfirst, hlast, he⟩ := Pipeline.ofStages?_eq_some.1 ho
  exact ⟨first, last, hfirst, hlast, congrArg Pipeline.signature he⟩

theorem stages_of_lookup_bar {first second : String} {outputTypes : List String}
    {whole before after : Pipeline Obj}
    (hw : store.lookup none (first ++ "|" ++ second) outputTypes = .ok whole)
    (hb : store.lookup none first outputTypes = .ok before)
    (ha : store.lookup none second outputTypes = .ok after) :
    whole.stages = before.stages ++ after.stages := by
  have hgets := (lookup_eq_ok_iff_stages.1 hw).1
  rw [stages_bar, List.map_append, (lookup_eq_ok_iff_stages.1 hb).1,
    (lookup_eq_ok_iff_stages.1 ha).1, ← List.map_append] at hgets
  exact (List.map_injective_iff.2 (Option.some_injective _) hgets).symm

theorem signature_of_lookup_bar {first second : String} {outputTypes : List String}
    {whole before after : Pipeline Obj}
    (hw : store.lookup none (first ++ "|" ++ second) outputTypes = .ok whole)
    (hb : store.lookup none first outputTypes = .ok before)
    (ha : store.lookup none second outputTypes = .ok after) :
    whole.signature = ⟨before.signature.input, after.signature.output⟩ := by
  obtain ⟨head, last, hhead, hlast, hwhole⟩ := ends_of_lookup hw
  obtain ⟨head', _, hhead', -, hbefore⟩ := ends_of_lookup hb
  obtain ⟨_, last', -, hlast', hafter⟩ := ends_of_lookup ha
  rw [stages_of_lookup_bar hw hb ha, List.head?_append, hhead', Option.some_or,
    Option.some.injEq] at hhead
  rw [stages_of_lookup_bar hw hb ha, List.getLast?_append, hlast', Option.some_or,
    Option.some.injEq] at hlast
  rw [hwhole, hbefore, hafter, hhead, hlast]

/-- Two definitions in sequence can be looked up when each can be for itself and no consumer and no
producer comes to stand between the two. -/
theorem exists_lookup_bar {first second : String} {outputTypes : List String}
    (hfirst : stages first ≠ []) (hsecond : stages second ≠ []) :
    (∃ whole, store.lookup none (first ++ "|" ++ second) outputTypes = .ok whole) ↔
      ∃ before after, store.lookup none first outputTypes = .ok before ∧
        store.lookup none second outputTypes = .ok after ∧
        (∀ last ∈ before.stages.getLast?, last.kind ≠ .consumer) ∧
        ∀ head ∈ after.stages.head?, head.kind ≠ .producer := by
  have hends (stage? : Option (Registration Obj)) (kind : Kind) :
      stage?.map Registration.kind ≠ some kind ↔ ∀ stage ∈ stage?, stage.kind ≠ kind := by
    cases stage? <;> simp
  have hnonempty {definition : String} {registrations : List (Registration Obj)}
      (hn : stages definition ≠ [])
      (hget : (stages definition).map store.get? = registrations.map some) :
      registrations.map Registration.kind ≠ [] := by
    intro he
    rw [List.map_eq_nil_iff.1 he] at hget
    exact hn (List.map_eq_nil_iff.1 hget)
  constructor
  · intro h
    obtain ⟨whole, hw⟩ := h
    obtain ⟨hget, hshape, -, -⟩ := lookup_eq_ok_iff_stages.1 hw
    rw [stages_bar, List.map_append, List.append_eq_map_iff] at hget
    obtain ⟨before, after, he, hb, ha⟩ := hget
    have hbn := hnonempty hfirst hb.symm
    have han := hnonempty hsecond ha.symm
    rw [he, List.map_append, Kind.append_mem_pipelineShape hbn han, List.getLast?_map,
      List.head?_map, hends, hends] at hshape
    obtain ⟨hbshape, hashape, hlast, hhead⟩ := hshape
    have hb' : before ≠ [] := fun hn => hbn (by rw [hn, List.map_nil])
    have ha' : after ≠ [] := fun hn => han (by rw [hn, List.map_nil])
    obtain ⟨b, hlookb, rfl⟩ := exists_lookup_of_stages none hb.symm hb' hbshape rfl
    obtain ⟨a, hlooka, rfl⟩ := exists_lookup_of_stages none ha.symm ha' hashape rfl
    exact ⟨b, a, hlookb, hlooka, hlast, hhead⟩
  · intro h
    obtain ⟨before, after, hb, ha, hlast, hhead⟩ := h
    obtain ⟨hgetb, hbshape, -, -⟩ := lookup_eq_ok_iff_stages.1 hb
    obtain ⟨hgeta, hashape, -, -⟩ := lookup_eq_ok_iff_stages.1 ha
    have hbn := hnonempty hfirst hgetb
    have han := hnonempty hsecond hgeta
    have hget : (stages (first ++ "|" ++ second)).map store.get? =
        (before.stages ++ after.stages).map some := by
      rw [stages_bar, List.map_append, List.map_append, hgetb, hgeta]
    have hn : before.stages ++ after.stages ≠ [] := by
      intro he
      exact hbn (by rw [(List.append_eq_nil_iff.1 he).1, List.map_nil])
    have hshape : (before.stages ++ after.stages).map Registration.kind ∈
        Kind.pipelineShape.matches' := by
      rw [List.map_append, Kind.append_mem_pipelineShape hbn han, List.getLast?_map,
        List.head?_map, hends, hends]
      exact ⟨hbshape, hashape, hlast, hhead⟩
    obtain ⟨whole, hw, -⟩ := exists_lookup_of_stages none hget hn hshape rfl
    exact ⟨whole, hw⟩

variable {World Payload : Type} [Host World Payload Obj]

/-- Two definitions are found in sequence just when each is found and neither a consumer nor a
producer comes to stand between them. To run the whole is to run the one and then the other, and a
run calls the stages in order up to the first failure. -/
theorem lookup_composes (store : Store Obj) (first second : String) (outputTypes : List String)
    (hfirst : stages first ≠ []) (hsecond : stages second ≠ []) :
    let lookup (definition : String) :=
      ((Catalog.base.lookup none definition outputTypes).run store).value
    ((lookup (first ++ "|" ++ second)).isSome = true ↔
        ∃ before after, lookup first = some before ∧ lookup second = some after ∧
          (∀ last ∈ before.stages.getLast?, last.kind ≠ .consumer) ∧
          ∀ head ∈ after.stages.head?, head.kind ≠ .producer) ∧
      ∀ whole before after, lookup (first ++ "|" ++ second) = some whole →
        lookup first = some before → lookup second = some after →
          whole.stages = before.stages ++ after.stages ∧
          whole.signature = ⟨before.signature.input, after.signature.output⟩ ∧
          ∀ input : Payload,
            (whole.apply input : Invocation World Payload) = before.apply input >>= after.apply ∧
            (whole.applyNoted input : Invocation (World × _) Payload) =
              before.applyNoted input >>= after.applyNoted ∧
            ∀ world : World, ∃ result left calls,
              (whole.apply input).run.run world = (result, left) ∧
              (whole.applyNoted input).run.run (world, []) = (result, left, calls) ∧
              Pipeline.Called whole.stages input world left calls result := by
  intro lookup
  refine ⟨?_, ?_⟩
  · simp only [lookup, value_run_lookup_eq_some, Option.isSome_iff_exists]
    exact exists_lookup_bar hfirst hsecond
  · intro whole before after hw hb ha
    rw [value_run_lookup_eq_some] at hw hb ha
    have hstages := stages_of_lookup_bar hw hb ha
    refine ⟨hstages, signature_of_lookup_bar hw hb ha, ?_⟩
    intro input
    refine ⟨?_, ?_, ?_⟩
    · rw [Pipeline.apply_eq_feed, hstages, Pipeline.feed_append]
      rfl
    · rw [Pipeline.applyNoted, hstages, Pipeline.feedNoted_append]
      rfl
    · intro world
      exact Pipeline.run_feedNoted whole.stages input world []

/-- Two stages of one object that notes values in the world, then one that fails: the object is called
twice, and not a third time for the stage after the failure. -/
theorem lookup_composes_failing :
    let note : Registration Scripted.Object :=
      { primary := "note", target := .object (.function 0 ⟨.transform, "Note", .record, none, {}⟩) }
    let stop : Registration Scripted.Object :=
      { primary := "stop",
        target := .object (.function 1 ⟨.transform, "Stop", .fail "full", none, {}⟩) }
    let store := Store.empty.offerAll [note, stop]
    let lookup (definition : String) :=
      ((Catalog.base.lookup none definition []).run store).value
    let whole : Pipeline Scripted.Object :=
      ⟨"note|note|stop|note", [note, note, stop, note], .unresolved, []⟩
    let before : Pipeline Scripted.Object := ⟨"note|note", [note, note], .unresolved, []⟩
    let after : Pipeline Scripted.Object := ⟨"stop|note", [stop, note], .unresolved, []⟩
    stages "note, note" ≠ [] ∧ stages " stop |note" ≠ [] ∧
      lookup "note, note" = some before ∧ lookup " stop |note" = some after ∧
      lookup ("note, note" ++ "|" ++ " stop |note") = some whole ∧
      whole.stages = before.stages ++ after.stages ∧
      (whole.apply (.text "a") : Invocation Scripted.World Value) =
        before.apply (.text "a") >>= after.apply ∧
      Pipeline.Called whole.stages (.text "a") {} ⟨{}, [.text "a", .text "a"]⟩
        [(note, .text "a"), (note, .text "a"), (stop, .text "a")]
        (.error (.failed "full") : Except InvocationError Value) := by
  intro note stop store lookup whole before after
  have hfirst : stages "note, note" ≠ [] := by decide
  have hsecond : stages " stop |note" ≠ [] := by decide
  have hb : lookup "note, note" = some before :=
    value_run_lookup_eq_some.2 (by unfold store note stop; rfl)
  have ha : lookup " stop |note" = some after :=
    value_run_lookup_eq_some.2 (by unfold store note stop; rfl)
  have hw : lookup ("note, note" ++ "|" ++ " stop |note") = some whole :=
    value_run_lookup_eq_some.2 (by unfold store note stop; rfl)
  obtain ⟨hstages, -, hruns⟩ :=
    (store.lookup_composes "note, note" " stop |note" [] hfirst hsecond).2 whole before after hw hb ha
  obtain ⟨happly, -, hcalls⟩ := hruns (.text "a")
  obtain ⟨result, left, calls, -, hnoted, hcalled⟩ := hcalls {}
  cases hnoted
  exact ⟨hfirst, hsecond, hb, ha, hw, hstages, happly, hcalled⟩

end Store

end NamedFunctions
