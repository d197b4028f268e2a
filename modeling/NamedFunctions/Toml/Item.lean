/-! # Items of a document

The values that a TOML document holds. Tables and arrays remember how they were written, for that
decides what the rest of the document may still add to them. -/
namespace NamedFunctions.Toml

/-- A float as written: a decimal of any size, or one of the special values. -/
inductive FloatLiteral where
  /-- `digits` times ten to the `exponent`, with either sign. -/
  | decimal (digits : Nat) (exponent : Int)
  | infinity
  | nan
  deriving DecidableEq, Repr

inductive TableOrigin where
  /-- Written between braces: closed to additions. -/
  | braces
  /-- Defined by its own header, or the root. -/
  | header
  /-- Named only on the way to a header: its own header may follow. -/
  | implied
  /-- Made by dotted keys. -/
  | dotted
  deriving DecidableEq, Repr

inductive ArrayOrigin where
  /-- Written between brackets: closed to additions. -/
  | brackets
  /-- Made by headers in double brackets, one table each. -/
  | headers
  deriving DecidableEq, Repr

inductive Item where
  | text (value : String)
  | boolean (value : Bool)
  /-- A text may read as an integer and still have no value, as a mark of the base without digits
  does. -/
  | integer (value : Option Int)
  | float (value : FloatLiteral)
  /-- A date, a time or both, as written. -/
  | moment (written : String)
  | array (origin : ArrayOrigin) (items : List Item)
  | table (origin : TableOrigin) (entries : List (String × Item))
  deriving Inhabited

def fits128 (n : Int) : Bool :=
  -0x80000000000000000000000000000000 ≤ n && n ≤ 0xFFFFFFFFFFFFFFFFFFFFFFFFFFFFFFFF

/-- A decimal that rounds to no finite double: it reaches the midpoint between the greatest double
and the next power of two. Decimals far from that bound are told by their number of digits. -/
def FloatLiteral.overflows : FloatLiteral → Bool
  | decimal digits exponent =>
    let magnitude := (Nat.toDigits 10 digits).length + exponent
    if digits = 0 || magnitude < 300 then false
    else if 320 < magnitude then true
    else Nat.pow 2 1024 - Nat.pow 2 970 ≤
      if 0 ≤ exponent then digits * Nat.pow 10 exponent.toNat else digits / Nat.pow 10 (-exponent).toNat
  | infinity | nan => false

mutual

/-- Every number in the item has a value, and it fits the widest number types. -/
def Item.isRepresentable : Item → Bool
  | .integer value => value.any fits128
  | .float f => !f.overflows
  | .array _ items => allRepresentable items
  | .table _ entries => entriesRepresentable entries
  | .text _ | .boolean _ | .moment _ => true

def allRepresentable : List Item → Bool
  | [] => true
  | item :: rest => item.isRepresentable && allRepresentable rest

def entriesRepresentable : List (String × Item) → Bool
  | [] => true
  | (_, item) :: rest => item.isRepresentable && entriesRepresentable rest

end

end NamedFunctions.Toml
