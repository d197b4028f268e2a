import NamedFunctions.Toml.Quoted
import NamedFunctions.Toml.Table

/-! # Documents

Reading a TOML document into its root table. A reader takes characters and gives what it read and
the characters after it. Loops are bounded by the number of characters, of which every round takes
at least one; keys have up to a fixed number of parts, and brackets and braces nest up to a fixed
depth. -/
namespace NamedFunctions.Toml

abbrev Reader (α : Type) : Type :=
  List Char → Option (α × List Char)

def isSpace (c : Char) : Bool :=
  c == ' ' || c == '\t'

def skipSpaces (cs : List Char) : List Char :=
  cs.dropWhile isSpace

/-- Spaces, line ends and comments, where these may stand between two tokens. -/
def skipBlank (inComment : Bool) : List Char → Option (List Char)
  | [] => some []
  | c :: rest =>
    if Quoting.startsLineEnd (c :: rest) then skipBlank (inComment && c == '\r') rest
    else if inComment then if Quoting.isTextChar c then skipBlank true rest else none
    else if isSpace c then skipBlank false rest
    else if c = '#' then skipBlank true rest
    else some (c :: rest)

/-- The rest of a line that holds nothing more than a comment, together with its end. -/
def endLine (cs : List Char) : Option (List Char) :=
  let afterComment :=
    match skipSpaces cs with
    | '#' :: rest => rest.dropWhile Quoting.isTextChar
    | cs => cs
  match afterComment with
  | [] => some []
  | '\n' :: rest | '\r' :: '\n' :: rest => some rest
  | _ => none

def isBareKeyChar (c : Char) : Bool :=
  c.isAlphanum || c == '_' || c == '-'

def simpleKey : Reader String := fun cs =>
  match cs.takeWhile isBareKeyChar with
  | [] => Quoting.read? false cs
  | bare => some (String.ofList bare, cs.dropWhile isBareKeyChar)

def maxKeyParts : Nat := 80

/-- At most so many keys with points between them, and the spaces after the last. -/
def keyPath : Nat → Reader (List String)
  | 0, _ => none
  | parts + 1, cs => do
    let (key, cs) ← simpleKey cs
    match skipSpaces cs with
    | '.' :: rest =>
      let (path, rest) ← keyPath parts (skipSpaces rest)
      return (key :: path, rest)
    | rest => return ([key], rest)

/-- A dotted key, as the path of the tables it leads through and its last key. -/
def dottedKey : Reader (List String × String) := fun cs => do
  let (path, rest) ← keyPath maxKeyParts cs
  return ((path.dropLast, ← path.getLast?), rest)

/-- Characters that end an unquoted scalar: marks of structure, the start of a comment and line ends.
Points are part of it. -/
def endsScalar (c : Char) : Bool :=
  c ∈ ['=', ',', '[', ']', '\x7b', '\x7d', '#', '\r', '\n']

/-- How many characters belong to an unquoted scalar or to the spaces after it. The scalar goes on after
spaces, unless a quoted text starts there; elsewhere quotes are part of it. -/
def scalarExtent (afterSpace : Bool) : List Char → Nat
  | [] => 0
  | c :: rest =>
    if endsScalar c || (afterSpace && (c == '"' || c == '\'')) then 0
    else scalarExtent (isSpace c) rest + 1

/-- The text of an unquoted scalar, without the spaces after it. -/
def scalarText (cs : List Char) : List Char × List Char :=
  let extent := scalarExtent false cs
  (((cs.take extent).reverse.dropWhile isSpace).reverse, cs.drop extent)

def scalar : Reader Item := fun cs =>
  match Quoting.read? true cs with
  | some (text, rest) => some (.text text, rest)
  | none =>
    let (text, rest) := scalarText cs
    (scalar? text).map fun item => (item, rest)

/-- The items of an array, up to its closing bracket; a comma may follow the last. -/
def arrayItems (item : Reader Item) : Nat → Reader (List Item)
  | 0, _ => none
  | bound + 1, cs => do
    match ← skipBlank false cs with
    | ']' :: rest => return ([], rest)
    | cs =>
      let (first, cs) ← item cs
      match ← skipBlank false cs with
      | ',' :: rest =>
        let (items, rest) ← arrayItems item bound rest
        return (first :: items, rest)
      | ']' :: rest => return ([first], rest)
      | _ => none

/-- What a key leads through, its last part and the value it is given. -/
structure KeyValue where
  path : List String
  key : String
  item : Item

/-- A key, an equals sign and a value, where `skip` passes over what may stand on either side of the
equals sign. -/
def keyValue (skip : List Char → Option (List Char)) (item : Reader Item) : Reader KeyValue := fun cs => do
  let ((path, key), cs) ← dottedKey cs
  let '=' :: cs ← skip cs | none
  let (item, cs) ← item (← skip cs)
  return (⟨path, key, item⟩, cs)

/-- The entries of a table between braces, up to its closing brace; a comma may follow the last. Lines
may end and comments may stand between any two tokens, save within a dotted key. -/
def inlineEntries (item : Reader Item) : Nat → Table → Reader Table
  | 0, _, _ => none
  | bound + 1, table, cs => do
    match ← skipBlank false cs with
    | '\x7d' :: rest => return (table, rest)
    | cs =>
      let (⟨path, key, first⟩, cs) ← keyValue (skipBlank false) item cs
      let table ← table.addKey path key first
      match ← skipBlank false cs with
      | ',' :: rest => inlineEntries item bound table rest
      | '\x7d' :: rest => return (table, rest)
      | _ => none

/-- A value whose brackets and braces nest at most `depth` deep. -/
def value : Nat → Reader Item
  | 0 => scalar
  | depth + 1 => fun cs =>
    match cs with
    | '[' :: rest => do
      let (items, rest) ← arrayItems (value depth) (rest.length + 1) rest
      return (.array .brackets items, rest)
    | '\x7b' :: rest => do
      let (table, rest) ← inlineEntries (value depth) (rest.length + 1) { origin := .header } rest
      return (.table .braces table.entries, rest)
    | cs => scalar cs

def maxDepth : Nat := 80

/-- A document up to some line: its root table, and the path of the header that is open. -/
structure State where
  root : Table := { origin := .header }
  header : List String := []

/-- Reads one line, or one value that runs over several, into the state. -/
def statement (state : State) (cs : List Char) : Option (State × List Char) :=
  match cs with
  | '[' :: '[' :: rest => do
    let ((path, key), ']' :: ']' :: rest) ← dottedKey (skipSpaces rest) | none
    return ({ root := ← state.root.openArray path key, header := path ++ [key] }, ← endLine rest)
  | '[' :: rest => do
    let ((path, key), ']' :: rest) ← dottedKey (skipSpaces rest) | none
    return ({ root := ← state.root.openTable path key, header := path ++ [key] }, ← endLine rest)
  | cs => do
    let (⟨path, key, item⟩, cs) ← keyValue (some ∘ skipSpaces) (value maxDepth) cs
    let root ← state.root.change false (·.addKey path key item) state.header
    return ({ state with root }, ← endLine cs)

def statements : Nat → State → List Char → Option Table
  | 0, _, _ => none
  | bound + 1, state, cs => do
    match ← skipBlank false cs with
    | [] => return state.root
    | cs =>
      let (state, rest) ← statement state cs
      statements bound state rest

/-- The root table of a document. A byte order mark in front is skipped. -/
def read? (source : String) : Option Table :=
  let cs := source.toList
  let cs := if cs.head? = some '\ufeff' then cs.tail else cs
  statements (cs.length + 1) {} cs

end NamedFunctions.Toml
