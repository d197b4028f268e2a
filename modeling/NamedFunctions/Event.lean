import NamedFunctions.Discovery
import NamedFunctions.Store

/-! # Events

What a catalog reports while it works: each event has a level, a message and named fields. -/
namespace NamedFunctions

inductive Level where
  | trace
  | debug
  | info
  | warn
  deriving DecidableEq, Repr

def Level.label : Level → String
  | trace => "TRACE"
  | debug => "DEBUG"
  | info => "INFO"
  | warn => "WARN"

inductive Event where
  | emptyDefinition (definition : String)
  | alreadyPresent (name : String)
  | notAvailable (name : String)
  | qualifierFailed (name : String) (error : QualifierError)
  | notAdaptable (name : String) (error : MethodError)
  | registered (name : String) (signature : Signature) (source : SignatureSource)
  | notRegistered (name : String) (error : RegisterError)
  | misplaced (definition stage : String) (kind : Kind)
  deriving DecidableEq, Repr

namespace Event

def level : Event → Level
  | qualifierFailed .. => .trace
  | emptyDefinition _ | notAvailable _ | notAdaptable .. | notRegistered .. => .debug
  | alreadyPresent _ | registered .. => .info
  | misplaced .. => .warn

def message : Event → String
  | emptyDefinition _ => "definition is empty after normalization"
  | alreadyPresent _ => "skipping function already present in the catalog"
  | notAvailable _ => "function not available in the catalog or the component registry"
  | qualifierFailed .. => "qualified lookup failed; treating as absent"
  | notAdaptable .. => "plain object cannot be adapted"
  | registered .. => "registered discovered function"
  | notRegistered .. => "discovered function not registered"
  | misplaced .. => "function cannot appear at this position of a composition"

def fields : Event → List (String × String)
  | emptyDefinition definition => [("definition", definition)]
  | alreadyPresent name | notAvailable name => [("name", name)]
  | qualifierFailed name error => [("name", name), ("err", error.message)]
  | notAdaptable name error => [("name", name), ("err", error.message)]
  | registered name signature source =>
    [("name", name), ("kind", signature.kind.label), ("signature", signature.text),
      ("source", source.label)]
  | notRegistered name error => [("name", name), ("err", error.message)]
  | misplaced definition stage kind =>
    [("definition", definition), ("stage", stage), ("kind", kind.label)]

end Event

end NamedFunctions
