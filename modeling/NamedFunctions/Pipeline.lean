import NamedFunctions.Registration

/-! # Pipelines

What a lookup finds: the registrations that a definition names, in order, run one after another. A
producer can only come first and a consumer only last. -/
namespace NamedFunctions

structure Pipeline (Obj : Type) where
  /-- The canonical form of the definition. -/
  definition : String
  stages : List (Registration Obj)
  signature : Signature
  /-- The content types that the caller accepts, carried for whoever invokes the pipeline. -/
  outputTypes : List String
  deriving DecidableEq

namespace Pipeline

variable {Obj World Payload : Type}

/-- The first stage that cannot stand where it is; `atStart` says whether the head of the list is
the first stage of the pipeline. -/
def misplaced? (atStart : Bool) : List (Registration Obj) → Option (Registration Obj)
  | [] => none
  | stage :: rest =>
    match stage.kind with
    | .producer => if atStart then misplaced? false rest else some stage
    | .consumer => if rest.isEmpty then none else some stage
    | .transform => misplaced? false rest

/-- The pipeline takes what its first stage takes and gives what its last stage gives. -/
def ofStages? (definition : String) (stages : List (Registration Obj))
    (outputTypes : List String) : Option (Pipeline Obj) :=
  match stages with
  | [] => none
  | first :: rest =>
    let last := (first :: rest).getLast (List.cons_ne_nil first rest)
    some ⟨definition, first :: rest, ⟨first.signature.input, last.signature.output⟩, outputTypes⟩

def kind (pipeline : Pipeline Obj) : Kind :=
  pipeline.signature.kind

def isComposed (pipeline : Pipeline Obj) : Bool :=
  1 < pipeline.stages.length

/-- Feeds the input through every stage and stops at the first failure. -/
def apply [Host World Payload Obj] (pipeline : Pipeline Obj) (input : Payload) :
    Invocation World Payload :=
  pipeline.stages.foldlM (fun value stage => stage.target.call value) input

/-- Runs a pipeline that needs no input. -/
def get [Host World Payload Obj] [HasNull Payload] (pipeline : Pipeline Obj) :
    Invocation World Payload :=
  pipeline.apply HasNull.null

end Pipeline

end NamedFunctions
