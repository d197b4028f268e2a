import NamedFunctions.Text.Blank

/-! # Definitions

A definition is a text that names one function or a composition of several, as in `a|b` or `a, b`.
`stages` reads the names in order, repeats included; `names` keeps each name once, where it first
occurs; `join` writes names back in the canonical form with a bar between them. -/
namespace NamedFunctions.Definition

open NamedFunctions.Text

/-- A comma and a bar separate stages alike. -/
def isDelimiter (c : Char) : Bool :=
  c == ',' || c == '|'

/-- The names between delimiters, trimmed; blank segments name nothing. -/
def stages (raw : String) : List String :=
  (((raw.toList.splitOnP isDelimiter).map (stripChars isBlank)).filter (!·.isEmpty)).map String.ofList

/-- The distinct names of a definition, in the order of their first occurrences. -/
def names (raw : String) : List String :=
  (stages raw).eraseDups

/-- The canonical form: names with a bar between neighbours. -/
def join (names : List String) : String :=
  String.intercalate "|" names

/-- The canonical form of a definition, repeats included. -/
def canonical (raw : String) : String :=
  join (stages raw)

/-- A text that can be a stage of a definition: not empty, free of delimiters, with no white space
at either end. -/
def IsStageName (name : String) : Prop :=
  name ≠ "" ∧ (∀ c ∈ name.toList, isDelimiter c = false) ∧
    (∀ c, name.toList.head? = some c → isBlank c = false) ∧
    (∀ c, name.toList.getLast? = some c → isBlank c = false)

@[simp] theorem mem_names {raw name : String} : name ∈ names raw ↔ name ∈ stages raw := by
  simp [names]

@[simp] theorem names_eq_nil {raw : String} : names raw = [] ↔ stages raw = [] := by
  simp only [names, List.eq_nil_iff_forall_not_mem, List.mem_eraseDups]

theorem stages_append_delimiter (a b : String) {c : Char} (h : isDelimiter c = true) :
    stages (a ++ String.singleton c ++ b) = stages a ++ stages b := by
  simp [stages, List.splitOnP_append_cons _ _ h]

@[simp] theorem join_nil : join [] = "" := rfl

@[simp] theorem join_singleton (name : String) : join [name] = name := rfl

end NamedFunctions.Definition
