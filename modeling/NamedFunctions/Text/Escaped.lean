import NamedFunctions.Text.Invisible

/-! # Escaped texts

Texts between double quotes, with whatever cannot be seen spelt out. -/
namespace NamedFunctions.Text

/-- A code point in braces, in lower-case hexadecimal digits. -/
def codeEscape (c : Char) : List Char :=
  "\\u\x7b".toList ++ Nat.toDigits 16 c.toNat ++ ['\x7d']

def escapeChar (c : Char) : List Char :=
  match c with
  | '\x00' => ['\\', '0']
  | '\t' => ['\\', 't']
  | '\r' => ['\\', 'r']
  | '\n' => ['\\', 'n']
  | '\\' => ['\\', '\\']
  | '"' => ['\\', '"']
  | c => if isInvisible c then codeEscape c else [c]

/-- The text between double quotes; single quotes stay as they are. -/
def quoted (s : String) : String :=
  String.ofList ('"' :: s.toList.flatMap escapeChar ++ ['"'])

end NamedFunctions.Text
