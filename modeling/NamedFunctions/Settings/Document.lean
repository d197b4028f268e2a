import NamedFunctions.Settings
import NamedFunctions.Toml.Document

/-! # Settings in TOML documents

The format that documents are read with: the text `definition` at the top of a document and the one
in its table `function`. Other keys are ignored, but their numbers have to be representable. -/
namespace NamedFunctions.Settings

open NamedFunctions.Toml

/-- The text under a key, which may be missing but may be nothing else than a text. -/
def textEntry? (key : String) (entries : List (String × Item)) : Option (Option String) :=
  match entries.lookup key with
  | none => some none
  | some (.text text) => some (some text)
  | some _ => none

/-- Every entry but those of the given keys is representable. -/
def othersRepresentable (keys : List String) (entries : List (String × Item)) : Bool :=
  entriesRepresentable (entries.filter fun entry => entry.1 ∉ keys)

/-- The settings under `function`: in a table, the definition under its key; in an array, the first
item; a date or time sets none. -/
def function? : Item → Option Settings
  | .table _ entries =>
    if othersRepresentable ["definition"] entries then mk <$> textEntry? "definition" entries
    else none
  | .array _ [] => some {}
  | .array _ (.text text :: _) => some ⟨some text⟩
  | .moment _ => some {}
  | _ => none

def document? (entries : List (String × Item)) : Option Document := do
  guard (othersRepresentable ["definition", "function"] entries)
  let definition ← textEntry? "definition" entries
  let function ← (entries.lookup "function").elim (some none) fun item => (function? item).map some
  return ⟨function, definition⟩

def Format.toml : Format where
  read? source := (Toml.read? source).bind (document? ·.entries)

def ofDocument (source : String) : Except DocumentError Settings :=
  Format.toml.load source

end NamedFunctions.Settings
