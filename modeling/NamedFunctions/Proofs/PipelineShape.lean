import Mathlib.Computability.RegularExpressions
import NamedFunctions.Proofs.LayeredLookup
import NamedFunctions.Proofs.StoreIndex

/-! # The shape of a pipeline

A lookup checks each stage against its position. What passes the check is described here as a
whole, by a regular expression over kinds: a producer or none, then any number of transforms, then a
consumer or none. The kind of a pipeline is read off its first and its last stage. So a lookup
succeeds just when the definition names something, all of it is registered, the kinds are of the
shape, and the pipeline is of the wanted kind. -/
namespace NamedFunctions

open Definition

/-! ## Kinds in sequence -/

namespace Kind

/-- Transforms, and at most one consumer after them. -/
def tailShape : RegularExpression Kind :=
  .star (.char transform) * (1 + .char consumer)

/-- At most one producer, transforms, and at most one consumer, in this order. -/
def pipelineShape : RegularExpression Kind :=
  (1 + .char producer) * tailShape

/-- The kind of what functions of these kinds make together. -/
def ofSequence (kinds : List Kind) : Kind :=
  if kinds.head? = some producer then producer
  else if kinds.getLast? = some consumer then consumer
  else transform

theorem mem_star_char {kind : Kind} {kinds : List Kind} :
    kinds ∈ (RegularExpression.star (.char kind)).matches' ↔ ∀ k ∈ kinds, k = kind := by
  rw [RegularExpression.matches'_star, Language.mem_kstar]
  constructor
  · intro h k hk
    obtain ⟨words, rfl, hwords⟩ := h
    obtain ⟨word, hw, hkw⟩ := List.mem_flatten.1 hk
    have hword : word = [kind] := hwords word hw
    rw [hword] at hkw
    exact List.mem_singleton.1 hkw
  · intro h
    have hflatten : kinds = (kinds.map fun k => [k]).flatten := by rw [← List.flatMap_def]; simp
    refine ⟨kinds.map fun k => [k], hflatten, ?_⟩
    intro word hw
    obtain ⟨k, hk, rfl⟩ := List.mem_map.1 hw
    rw [h k hk]
    rfl

theorem mem_optional_char {kind : Kind} {kinds : List Kind} :
    kinds ∈ (1 + RegularExpression.char kind).matches' ↔ kinds = [] ∨ kinds = [kind] := Iff.rfl

theorem nil_mem_tailShape : [] ∈ tailShape.matches' :=
  Language.mem_mul.2 ⟨[], mem_star_char.2 (by simp), [], mem_optional_char.2 (.inl rfl), rfl⟩

theorem cons_mem_tailShape {kind : Kind} {kinds : List Kind} :
    kind :: kinds ∈ tailShape.matches' ↔
      kind = transform ∧ kinds ∈ tailShape.matches' ∨ kind = consumer ∧ kinds = [] := by
  unfold tailShape
  rw [RegularExpression.matches'_mul, Language.mem_mul, Language.mem_mul]
  constructor
  · intro h
    obtain ⟨transforms, ht, last, hl, he⟩ := h
    rw [mem_star_char] at ht
    cases transforms with
    | nil =>
      rcases mem_optional_char.1 hl with rfl | rfl
      · cases he
      · cases he
        exact .inr ⟨rfl, rfl⟩
    | cons first transforms =>
      obtain ⟨rfl, rfl⟩ := List.cons.inj he
      obtain ⟨hfirst, hrest⟩ := List.forall_mem_cons.1 ht
      exact .inl ⟨hfirst, transforms, mem_star_char.2 hrest, last, hl, rfl⟩
  · intro h
    rcases h with ⟨rfl, transforms, ht, last, hl, rfl⟩ | ⟨rfl, rfl⟩
    · rw [mem_star_char] at ht
      refine ⟨transform :: transforms, mem_star_char.2 ?_, last, hl, rfl⟩
      exact List.forall_mem_cons.2 ⟨rfl, ht⟩
    · exact ⟨[], mem_star_char.2 (by simp), [consumer], mem_optional_char.2 (.inr rfl), rfl⟩

theorem mem_pipelineShape {kinds : List Kind} :
    kinds ∈ pipelineShape.matches' ↔
      kinds ∈ tailShape.matches' ∨ ∃ rest ∈ tailShape.matches', kinds = producer :: rest := by
  unfold pipelineShape
  rw [RegularExpression.matches'_mul, Language.mem_mul]
  constructor
  · intro h
    obtain ⟨first, hf, rest, hr, rfl⟩ := h
    rcases mem_optional_char.1 hf with rfl | rfl
    · exact .inl hr
    · exact .inr ⟨rest, hr, rfl⟩
  · intro h
    rcases h with h | ⟨rest, hr, rfl⟩
    · exact ⟨[], mem_optional_char.2 (.inl rfl), kinds, h, rfl⟩
    · exact ⟨[producer], mem_optional_char.2 (.inr rfl), rest, hr, rfl⟩

theorem producer_notMem_of_mem_tailShape {kinds : List Kind} (h : kinds ∈ tailShape.matches') :
    producer ∉ kinds := by
  induction kinds with
  | nil => simp
  | cons kind kinds ih =>
    rcases cons_mem_tailShape.1 h with ⟨rfl, hrest⟩ | ⟨rfl, rfl⟩
    · simpa using ih hrest
    · simp

end Kind

/-! ## Stages at their positions -/

namespace Pipeline

variable {Obj : Type}

/-- No stage is misplaced after the first one just when the kinds are of the shape of a tail. -/
theorem misplaced?_false_eq_none {stages : List (Registration Obj)} :
    misplaced? false stages = none ↔ stages.map Registration.kind ∈ Kind.tailShape.matches' := by
  induction stages with
  | nil => simp [misplaced?, Kind.nil_mem_tailShape]
  | cons stage rest ih =>
    rw [misplaced?, List.map_cons, Kind.cons_mem_tailShape]
    cases stage.kind with
    | producer => simp
    | transform => simpa using ih
    | consumer => simp

theorem misplaced?_true_eq_none {stages : List (Registration Obj)} :
    misplaced? true stages = none ↔ stages.map Registration.kind ∈ Kind.pipelineShape.matches' := by
  rw [Kind.mem_pipelineShape]
  cases stages with
  | nil => simp [misplaced?, Kind.nil_mem_tailShape]
  | cons stage rest =>
    rw [misplaced?, List.map_cons, Kind.cons_mem_tailShape]
    cases stage.kind with
    | producer => simp [misplaced?_false_eq_none]
    | transform => simp [misplaced?_false_eq_none]
    | consumer => simp

theorem ofStages?_eq (definition : String) (stages : List (Registration Obj))
    (outputTypes : List String) :
    ofStages? definition stages outputTypes = do
      let first ← stages.head?
      let last ← stages.getLast?
      return ⟨definition, stages, ⟨first.signature.input, last.signature.output⟩, outputTypes⟩ := by
  cases stages with
  | nil => rfl
  | cons first rest => rw [List.getLast?_eq_some_getLast (List.cons_ne_nil first rest)]; rfl

theorem ofStages?_eq_some {definition : String} {stages : List (Registration Obj)}
    {outputTypes : List String} {pipeline : Pipeline Obj} :
    ofStages? definition stages outputTypes = some pipeline ↔
      ∃ first last, stages.head? = some first ∧ stages.getLast? = some last ∧
        pipeline =
          ⟨definition, stages, ⟨first.signature.input, last.signature.output⟩, outputTypes⟩ := by
  rw [ofStages?_eq]
  simp only [bind, pure, Option.bind_eq_some_iff, Option.some.injEq, exists_and_left]
  simp only [eq_comm]

/-- The kind of a pipeline in which no stage is misplaced. Without output the last stage is a consumer,
unless it takes no input either: then it is a producer, and stands alone. -/
theorem kind_of_mem_pipelineShape {definition : String} {stages : List (Registration Obj)}
    {outputTypes : List String} {pipeline : Pipeline Obj}
    (hs : stages.map Registration.kind ∈ Kind.pipelineShape.matches')
    (hp : ofStages? definition stages outputTypes = some pipeline) :
    pipeline.kind = Kind.ofSequence (stages.map Registration.kind) := by
  obtain ⟨first, last, hfirst, hlast, rfl⟩ := ofStages?_eq_some.1 hp
  unfold Pipeline.kind Kind.ofSequence
  simp only [List.head?_map, List.getLast?_map, hfirst, hlast, Option.map_some, Option.some.injEq]
  split
  · next hk =>
    have hinput : first.signature.input = .void := Signature.kind_eq_producer.1 hk
    exact Signature.kind_eq_producer.2 hinput
  · next hk =>
    have hinput : first.signature.input ≠ .void := fun h => hk (Signature.kind_eq_producer.2 h)
    have hproducer : last.kind ≠ .producer := by
      intro h
      have hl : Kind.producer ∈ stages.map Registration.kind :=
        h ▸ List.mem_map_of_mem (List.mem_of_getLast? hlast)
      rcases Kind.mem_pipelineShape.1 hs with htail | ⟨rest, -, he⟩
      · exact Kind.producer_notMem_of_mem_tailShape htail hl
      · have hh := congrArg List.head? he
        rw [List.head?_map, hfirst] at hh
        exact hk (Option.some.inj hh)
    have hlastInput : last.signature.input ≠ .void :=
      fun h => hproducer (Signature.kind_eq_producer.2 h)
    split
    · next hc =>
      have houtput : last.signature.output = .void := (Signature.kind_eq_consumer.1 hc).2
      exact Signature.kind_eq_consumer.2 ⟨hinput, houtput⟩
    · next hc =>
      refine Signature.kind_eq_transform.2 ⟨hinput, ?_⟩
      intro ho
      exact hc (Signature.kind_eq_consumer.2 ⟨hlastInput, ho⟩)

end Pipeline

/-! ## What a lookup accepts -/

namespace Store

variable {Obj : Type} {store : Store Obj}

/-- The kinds of what is registered under the names of a definition, in order. -/
def kindsOf (store : Store Obj) (definition : String) : List Kind :=
  (stages definition).filterMap fun name => (store.get? name).map Registration.kind

theorem kindsOf_eq {definition : String} {registrations : List (Registration Obj)}
    (h : (stages definition).map store.get? = registrations.map some) :
    store.kindsOf definition = registrations.map Registration.kind := by
  calc store.kindsOf definition
      = ((stages definition).map store.get?).filterMap (Option.map Registration.kind) := by
        rw [List.filterMap_map]
        rfl
    _ = (registrations.map some).filterMap (Option.map Registration.kind) := by rw [h]
    _ = registrations.map Registration.kind := by
        rw [List.filterMap_map, ← List.filterMap_eq_map]
        rfl

theorem all_registered_iff {names : List String} :
    (∀ name ∈ names, (store.get? name).isSome = true) ↔
      ∃ registrations : List (Registration Obj), names.map store.get? = registrations.map some := by
  constructor
  · intro h
    induction names with
    | nil => exact ⟨[], rfl⟩
    | cons name rest ih =>
      obtain ⟨hname, hrest⟩ := List.forall_mem_cons.1 h
      obtain ⟨registration, hr⟩ := Option.isSome_iff_exists.1 hname
      obtain ⟨registrations, hrs⟩ := ih hrest
      exact ⟨registration :: registrations, by simp [hr, hrs]⟩
  · intro h name hm
    obtain ⟨registrations, hr⟩ := h
    have hs : store.get? name ∈ registrations.map some := hr ▸ List.mem_map_of_mem hm
    obtain ⟨registration, -, he⟩ := List.mem_map.1 hs
    rw [← he, Option.isSome_some]

theorem lookup_eq_ok_iff_stages {kind : Option Kind} {definition : String}
    {outputTypes : List String} {pipeline : Pipeline Obj} :
    store.lookup kind definition outputTypes = .ok pipeline ↔
      (stages definition).map store.get? = pipeline.stages.map some ∧
        pipeline.stages.map Registration.kind ∈ Kind.pipelineShape.matches' ∧
        Pipeline.ofStages? (canonical definition) pipeline.stages outputTypes = some pipeline ∧
        kind.all (· == pipeline.kind) = true := by
  simp only [lookup_eq_ok, getAll_eq_ok, Pipeline.misplaced?_true_eq_none]
  constructor
  · intro h
    obtain ⟨found, hget, hshape, hp, hk⟩ := h
    obtain ⟨first, last, -, -, rfl⟩ := Pipeline.ofStages?_eq_some.1 hp
    exact ⟨hget, hshape, hp, hk⟩
  · intro h
    exact ⟨pipeline.stages, h⟩

theorem exists_lookup_of_stages (kind : Option Kind) {definition : String}
    {outputTypes : List String} {registrations : List (Registration Obj)}
    (hget : (stages definition).map store.get? = registrations.map some) (hn : registrations ≠ [])
    (hshape : registrations.map Registration.kind ∈ Kind.pipelineShape.matches')
    (hk : kind.all (· == Kind.ofSequence (registrations.map Registration.kind)) = true) :
    ∃ pipeline, store.lookup kind definition outputTypes = .ok pipeline ∧
      pipeline.stages = registrations := by
  obtain ⟨first, rest, rfl⟩ := List.exists_cons_of_ne_nil hn
  obtain ⟨pipeline, ho⟩ : ∃ pipeline,
    Pipeline.ofStages? (canonical definition) (first :: rest) outputTypes = some pipeline := ⟨_, rfl⟩
  obtain ⟨_, _, -, -, he⟩ := Pipeline.ofStages?_eq_some.1 ho
  have hstages : pipeline.stages = first :: rest := congrArg Pipeline.stages he
  refine ⟨pipeline, lookup_eq_ok_iff_stages.2 ?_, hstages⟩
  rw [hstages, Pipeline.kind_of_mem_pipelineShape hshape ho]
  exact ⟨hget, hshape, ho, hk⟩

theorem value_run_lookup_eq_some {kind : Option Kind} {definition : String}
    {outputTypes : List String} {pipeline : Pipeline Obj} :
    ((Catalog.base.lookup kind definition outputTypes).run store).value = some pipeline ↔
      store.lookup kind definition outputTypes = .ok pipeline := by
  rw [(Catalog.run_lookup_base ..).1]
  cases store.lookup kind definition outputTypes <;> simp [Except.toOption]

/-- A lookup finds something just when the definition names registered functions only, at most one
producer, then transforms, then at most one consumer, and the whole is of the wanted kind. What is
found has them as its stages, and its own definition leads to it again. -/
theorem lookup_accepts (store : Store Obj) (kind : Option Kind) (definition : String)
    (outputTypes : List String) :
    let found := ((Catalog.base.lookup kind definition outputTypes).run store).value
    let kinds := store.kindsOf definition
    (found.isSome = true ↔
        stages definition ≠ [] ∧
        (∀ name ∈ stages definition, (store.get? name).isSome = true) ∧
        kinds ∈ Kind.pipelineShape.matches' ∧
        (kind = none ∨ kind = some (Kind.ofSequence kinds))) ∧
      ∀ pipeline, found = some pipeline →
        pipeline.kind = Kind.ofSequence kinds ∧
        pipeline.stages.map some = (stages definition).map store.get? ∧
        ((Catalog.base.lookup kind pipeline.definition outputTypes).run store).value =
          some pipeline := by
  intro found kinds
  have hfound : ∀ pipeline, found = some pipeline ↔
      store.lookup kind definition outputTypes = .ok pipeline := fun _ => value_run_lookup_eq_some
  have hfilter : ∀ whole : Kind,
      kind.all (· == whole) = true ↔ kind = none ∨ kind = some whole := by
    intro whole
    cases kind <;> simp
  refine ⟨⟨?_, ?_⟩, ?_⟩
  · intro h
    obtain ⟨pipeline, hp⟩ := Option.isSome_iff_exists.1 h
    obtain ⟨hget, hshape, ho, hk⟩ := lookup_eq_ok_iff_stages.1 ((hfound pipeline).1 hp)
    have hkinds : kinds = pipeline.stages.map Registration.kind := kindsOf_eq hget
    rw [Pipeline.kind_of_mem_pipelineShape hshape ho, hfilter] at hk
    rw [hkinds]
    exact ⟨stages_ne_nil_of_lookup ((hfound pipeline).1 hp),
      all_registered_iff.2 ⟨pipeline.stages, hget⟩, hshape, hk⟩
  · intro h
    obtain ⟨hnames, hall, hshape, hk⟩ := h
    obtain ⟨registrations, hget⟩ := all_registered_iff.1 hall
    have hkinds : kinds = registrations.map Registration.kind := kindsOf_eq hget
    have hn : registrations ≠ [] := by
      intro hempty
      rw [hempty] at hget
      exact hnames (List.map_eq_nil_iff.1 hget)
    rw [hkinds] at hshape hk
    obtain ⟨pipeline, hp, -⟩ := exists_lookup_of_stages kind hget hn hshape ((hfilter _).2 hk)
    exact Option.isSome_iff_exists.2 ⟨pipeline, (hfound pipeline).2 hp⟩
  · intro pipeline hp
    have hl := (hfound pipeline).1 hp
    obtain ⟨hget, hshape, ho, -⟩ := lookup_eq_ok_iff_stages.1 hl
    obtain ⟨first, last, -, -, he⟩ := Pipeline.ofStages?_eq_some.1 ho
    refine ⟨?_, hget.symm, ?_⟩
    · rw [Pipeline.kind_of_mem_pipelineShape hshape ho]
      exact congrArg Kind.ofSequence (kindsOf_eq hget).symm
    · have hd : pipeline.definition = canonical definition := congrArg Pipeline.definition he
      rw [hd, value_run_lookup_eq_some, lookup_canonical]
      exact hl

/-- A function without input is a producer even if it has no output either. Followed by transforms, one
of them under two names, and by a consumer, it makes a producer of the whole. -/
theorem lookup_accepts_tick :
    let tick : Registration Unit :=
      { primary := "tick", target := .object (), signature := ⟨.void, .void⟩ }
    let copy : Registration Unit := { primary := "copy", aliases := ["again"], target := .object () }
    let sink : Registration Unit :=
      { primary := "sink", target := .object (), signature := ⟨.any, .void⟩ }
    let store := Store.empty.offerAll [tick, copy, sink]
    let lookup (definition : String) :=
      ((Catalog.base.lookup (some .producer) definition []).run store).value
    (lookup "tick, copy | again,sink").isSome = true ∧
      ∀ pipeline, lookup "tick, copy | again,sink" = some pipeline →
        pipeline.kind = .producer ∧
          pipeline.stages.map some = [some tick, some copy, some copy, some sink] ∧
          lookup pipeline.definition = some pipeline := by
  intro tick copy sink store lookup
  have haccepts := store.lookup_accepts (some .producer) "tick, copy | again,sink" []
  have hkinds : store.kindsOf "tick, copy | again,sink" =
      [.producer, .transform, .transform, .consumer] := by decide
  rw [hkinds] at haccepts
  have hshape : [.producer, .transform, .transform, .consumer] ∈ Kind.pipelineShape.matches' :=
    (RegularExpression.rmatch_iff_matches' _ _).1 (by decide)
  refine ⟨haccepts.1.2 ⟨by decide, by decide, hshape, .inr (by decide)⟩, ?_⟩
  intro pipeline hp
  obtain ⟨hkind, hstages, hagain⟩ := haccepts.2 pipeline hp
  exact ⟨hkind.trans (by decide), hstages.trans (by decide), hagain⟩

end Store

end NamedFunctions
