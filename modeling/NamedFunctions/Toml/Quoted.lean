import NamedFunctions.Toml.Scalar

/-! # Quoted texts

The four ways to quote a text: between double quotes, with escapes, or between single quotes,
without; on one line between single marks, or over several lines between triple marks. Within triple
marks up to two marks in a row belong to the text, also right before its end. -/
namespace NamedFunctions.Toml

structure Quoting where
  mark : Char
  escapes : Bool
  multiline : Bool
  deriving DecidableEq, Repr

namespace Quoting

def closing (quoting : Quoting) : Nat :=
  if quoting.multiline then 3 else 1

/-- How many marks can stand in a row: those of the text itself and those that close it. -/
def longestRun (quoting : Quoting) : Nat :=
  if quoting.multiline then 5 else 1

inductive Place where
  /-- After some marks in a row; `trimming` skips white space after a line-ending backslash. -/
  | plain (marks : Nat) (trimming : Bool)
  | afterBackslash
  /-- In the white space between a backslash and the end of its line. -/
  | beforeLineEnd
  /-- Some digits of a character code are still to come. -/
  | code (left : Nat) (value : Nat)

def simpleEscape? : Char → Option Char
  | 'b' => some '\x08'
  | 't' => some '\t'
  | 'n' => some '\n'
  | 'f' => some '\x0c'
  | 'r' => some '\r'
  | 'e' => some '\x1b'
  | '"' => some '"'
  | '\\' => some '\\'
  | _ => none

def codeLength? : Char → Option Nat
  | 'x' => some 2
  | 'u' => some 4
  | 'U' => some 8
  | _ => none

/-- Characters that may stand as they are: no control character but the tab. -/
def isTextChar (c : Char) : Bool :=
  c == '\t' || (0x20 ≤ c.toNat && c.toNat != 0x7F)

/-- The line ends of a document are a line feed, alone or after a carriage return. -/
def startsLineEnd : List Char → Bool
  | '\n' :: _ | '\r' :: '\n' :: _ => true
  | _ => false

def marks (quoting : Quoting) (count : Nat) : List Char :=
  List.replicate count quoting.mark

def push (cs : List Char) : Option (List Char × List Char) → Option (List Char × List Char) :=
  Option.map fun (text, rest) => (cs ++ text, rest)

/-- Reads a quoted text after its opening marks; gives the text and what follows its closing
marks. -/
def body (quoting : Quoting) : Place → List Char → Option (List Char × List Char)
  | .plain count _, [] =>
    if quoting.closing ≤ count then some (quoting.marks (count - quoting.closing), []) else none
  | _, [] => none
  | .plain count trimming, c :: rest =>
    if c = quoting.mark && count < quoting.longestRun then quoting.body (.plain (count + 1) false) rest
    else if quoting.closing ≤ count then some (quoting.marks (count - quoting.closing), c :: rest)
    else push (quoting.marks count) <|
      if quoting.multiline && startsLineEnd (c :: rest) then
        push (if trimming then [] else [c]) (quoting.body (.plain 0 trimming) rest)
      else if c = '\\' && quoting.escapes then quoting.body .afterBackslash rest
      else if trimming && (c = ' ' || c = '\t') then quoting.body (.plain 0 true) rest
      else if isTextChar c then push [c] (quoting.body (.plain 0 false) rest)
      else none
  | .afterBackslash, c :: rest =>
    if let some escaped := simpleEscape? c then push [escaped] (quoting.body (.plain 0 false) rest)
    else if let some length := codeLength? c then quoting.body (.code length 0) rest
    else if !quoting.multiline then none
    else if c = '\n' then quoting.body (.plain 0 true) rest
    else if c = ' ' || c = '\t' || startsLineEnd (c :: rest) then quoting.body .beforeLineEnd rest
    else none
  | .beforeLineEnd, c :: rest =>
    if c = '\n' then quoting.body (.plain 0 true) rest
    else if c = ' ' || c = '\t' || startsLineEnd (c :: rest) then quoting.body .beforeLineEnd rest
    else none
  | .code left value, c :: rest =>
    match digitValue? 16 c with
    | none => none
    | some digit =>
      let value := 16 * value + digit
      if 1 < left then quoting.body (.code (left - 1) value) rest
      else if h : value.isValidChar then
        push [Char.ofNatAux value h] (quoting.body (.plain 0 false) rest)
      else none

/-- A line end right after the opening marks is not part of the text. -/
def dropLineEnd : List Char → List Char
  | '\n' :: rest | '\r' :: '\n' :: rest => rest
  | cs => cs

/-- Reads a quoted text, if one starts here. -/
def read? (multiline : Bool) (cs : List Char) : Option (String × List Char) :=
  let readWith (mark : Char) (triple : Bool) (rest : List Char) :=
    (body ⟨mark, mark = '"', triple⟩ (.plain 0 false) rest).map fun (text, rest) =>
      (String.ofList text, rest)
  match cs with
  | '"' :: '"' :: '"' :: rest =>
    if multiline then readWith '"' true (dropLineEnd rest) else none
  | '\'' :: '\'' :: '\'' :: rest =>
    if multiline then readWith '\'' true (dropLineEnd rest) else none
  | '"' :: rest => readWith '"' false rest
  | '\'' :: rest => readWith '\'' false rest
  | _ => none

end Quoting

end NamedFunctions.Toml
