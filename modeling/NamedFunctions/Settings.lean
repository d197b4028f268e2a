import NamedFunctions.Text.Blank

/-! # Settings

The definition that lookups fall back to when they name none. It comes from the environment or from a
document, and a blank setting counts as none. How a document is written is left to its format: all
that is known of a format is what it takes each text to set. -/
namespace NamedFunctions

structure Settings where
  definition : Option String := none
  deriving DecidableEq, Repr

namespace Settings

def environmentVariable : String := "FABRIC_FUNCTION_DEFINITION"

def normalized (settings : Settings) : Settings :=
  ⟨settings.definition.filter fun text => !Text.isBlankText text⟩

/-- The definition to fall back to: trimmed, and not empty. -/
def defaultDefinition (settings : Settings) : Option String :=
  (settings.definition.map Text.trim).filter (· ≠ "")

def ofEnvironment (lookUp : String → Option String) : Settings :=
  normalized ⟨lookUp environmentVariable⟩

/-! ## Documents -/

/-- What a document sets: the settings of its table `function`, and a definition at its top. -/
structure Document where
  function : Option Settings := none
  definition : Option String := none
  deriving DecidableEq, Repr

namespace Document

def nested (document : Document) : Option String :=
  document.function.bind Settings.definition

/-- The nested definition hides the outer one, even where the nested one is blank. -/
def settings (document : Document) : Settings :=
  normalized ⟨document.nested.or document.definition⟩

end Document

inductive DocumentError where
  | invalid
  deriving DecidableEq, Repr

def DocumentError.message : DocumentError → String
  | invalid => "invalid catalog configuration"

/-- A format of documents: what a text sets, unless it is refused. -/
structure Format where
  read? : String → Option Document

def Format.load (format : Format) (source : String) : Except DocumentError Settings :=
  match format.read? source with
  | some document => .ok document.settings
  | none => .error .invalid

@[simp] theorem defaultDefinition_normalized (settings : Settings) :
    settings.normalized.defaultDefinition = settings.defaultDefinition := by
  obtain ⟨definition⟩ := settings
  cases definition with
  | none => rfl
  | some text =>
    by_cases h : Text.isBlankText text = true <;> simp_all [normalized, defaultDefinition, Option.filter]

end Settings

end NamedFunctions
