import NamedFunctions.Toml.Item

/-! # Unquoted scalars

Booleans, numbers, dates and times, each recognised from the whole of its text. -/
namespace NamedFunctions.Toml

/-- The value of a digit in a base up to sixteen. -/
def digitValue? (base : Nat) (c : Char) : Option Nat :=
  let value? :=
    if c.isDigit then some (c.toNat - '0'.toNat)
    else if 'a' ≤ c && c ≤ 'f' then some (c.toNat - 'a'.toNat + 10)
    else if 'A' ≤ c && c ≤ 'F' then some (c.toNat - 'A'.toNat + 10)
    else none
  value?.filter (· < base)

/-- Digits of a base; an underscore may stand between two of them. -/
def digitRun? (base : Nat) : List Char → Option (List Nat)
  | [] => none
  | [c] => (digitValue? base c).map ([·])
  | c :: '_' :: rest => do return (← digitValue? base c) :: (← digitRun? base rest)
  | c :: rest => do return (← digitValue? base c) :: (← digitRun? base rest)

def ofDigits (base : Nat) (digits : List Nat) : Nat :=
  digits.foldl (fun n d => n * base + d) 0

/-- Decimal digits without a needless zero in front. -/
def wholeDigits? (cs : List Char) : Option (List Nat) := do
  let digits ← digitRun? 10 cs
  if digits.head? = some 0 ∧ digits.length ≠ 1 then none else some digits

/-- Splits off a sign; no sign counts as plus. -/
def splitSign : List Char → Bool × List Char
  | '+' :: rest => (false, rest)
  | '-' :: rest => (true, rest)
  | cs => (false, cs)

def withSign (negative : Bool) (n : Nat) : Int :=
  if negative then -n else n

/-- The value of the digits after a mark of their base, if there are any digits. -/
def radixInteger? (base : Nat) : List Char → Option (Option Int)
  | [] => some none
  | cs => (digitRun? base cs).map fun digits => some (ofDigits base digits)

/-- Every underscore stands between two digits of any base; `afterDigit` says whether a digit comes
right before the text. -/
def underscoresSeparate (afterDigit : Bool) : List Char → Bool
  | [] => true
  | '_' :: rest =>
    afterDigit && rest.head?.any (fun c => (digitValue? 16 c).isSome) && underscoresSeparate false rest
  | c :: rest => underscoresSeparate (digitValue? 16 c).isSome rest

/-- An underscore right after the first digits, of which the first is not zero, makes an integer of
any text in which underscores separate digits, without a space and without a hint at a float. -/
def hasIntegerForm (cs : List Char) : Bool :=
  let rest := cs.dropWhile Char.isDigit
  cs.head?.any (fun c => c.isDigit && c != '0') && rest.head? == some '_' &&
    !rest.any (fun c => c == '.' || c == 'e' || c == 'E' || c == ' ') && underscoresSeparate false cs

/-- The value of an integer, where it has one. Only decimal integers take a sign. -/
def integer? : List Char → Option (Option Int)
  | '0' :: 'x' :: rest => radixInteger? 16 rest
  | '0' :: 'o' :: rest => radixInteger? 8 rest
  | '0' :: 'b' :: rest => radixInteger? 2 rest
  | cs =>
    let (negative, rest) := splitSign cs
    match wholeDigits? rest with
    | some digits => some (some (withSign negative (ofDigits 10 digits)))
    | none => if hasIntegerForm rest then some none else none

/-- The text before the first of the given characters, and the text after it, if it occurs. -/
def splitAtFirst (p : Char → Bool) (cs : List Char) : List Char × Option (List Char) :=
  (cs.takeWhile (!p ·), (cs.dropWhile (!p ·)).tail?)

/-- The size of an exponent. Once it has reached 65536, far beyond any double, further digits do not
count. -/
def exponentSize (digits : List Nat) : Nat :=
  digits.foldl (fun n d => if n < 65536 then 10 * n + d else n) 0

/-- A whole part, then a fraction, an exponent or both. -/
def float? (cs : List Char) : Option FloatLiteral :=
  let (_, unsigned) := splitSign cs
  if unsigned = "inf".toList then some .infinity
  else if unsigned = "nan".toList then some .nan
  else do
    let (mantissa, exponent?) := splitAtFirst (fun c => c == 'e' || c == 'E') unsigned
    let (whole, fraction?) := splitAtFirst (· == '.') mantissa
    guard (exponent?.isSome || fraction?.isSome)
    let whole ← wholeDigits? whole
    let fraction ← fraction?.elim (some []) (digitRun? 10)
    let exponent ← exponent?.elim (some 0) fun cs =>
      let (negative, digits) := splitSign cs
      (digitRun? 10 digits).map fun digits => withSign negative (exponentSize digits)
    return .decimal (ofDigits 10 (whole ++ fraction)) (exponent - fraction.length)

/-- Exactly `count` decimal digits, and the text after them. -/
def fixedDigits : Nat → List Char → Option (Nat × List Char)
  | count, cs => do
    let digits ← (cs.take count).mapM (digitValue? 10)
    if digits.length = count then some (ofDigits 10 digits, cs.drop count) else none

def daysInMonth (year month : Nat) : Nat :=
  if month = 2 then
    if year % 4 = 0 && (year % 100 != 0 || year % 400 = 0) then 29 else 28
  else if month ∈ [4, 6, 9, 11] then 30 else 31

/-- Year, month and day with bars between them; the text after the date is given back. -/
def date? (cs : List Char) : Option (List Char) := do
  let (year, '-' :: cs) ← fixedDigits 4 cs | none
  let (month, '-' :: cs) ← fixedDigits 2 cs | none
  let (day, cs) ← fixedDigits 2 cs
  guard (1 ≤ month && month ≤ 12 && 1 ≤ day && day ≤ daysInMonth year month)
  return cs

/-- A fraction of a second is at least one digit after a point. -/
def secondFraction? : List Char → Option (List Char)
  | '.' :: rest => if (rest.head?.any Char.isDigit) then some (rest.dropWhile Char.isDigit) else none
  | cs => some cs

/-- Hour, minute and, if given, second; the text after the time is given back. -/
def time? (cs : List Char) : Option (List Char) := do
  let (hour, ':' :: cs) ← fixedDigits 2 cs | none
  let (minute, cs) ← fixedDigits 2 cs
  guard (hour ≤ 23 && minute ≤ 59)
  match cs with
  | ':' :: cs =>
    let (second, cs) ← fixedDigits 2 cs
    guard (second ≤ 60)
    secondFraction? cs
  | cs => return cs

/-- The distance from universal time, up to the end of the text. -/
def isOffset : List Char → Bool
  | ['Z'] | ['z'] => true
  | sign :: cs =>
    (sign == '+' || sign == '-') &&
      match fixedDigits 2 cs with
      | some (hour, ':' :: cs) =>
        match fixedDigits 2 cs with
        | some (minute, []) => hour ≤ 23 && minute ≤ 59
        | _ => false
      | _ => false
  | [] => false

/-- A date, a time, or both with or without an offset. -/
def isMoment (cs : List Char) : Bool :=
  match date? cs with
  | some [] => true
  | some (separator :: cs) =>
    (separator == 'T' || separator == 't' || separator == ' ') &&
      match time? cs with
      | some rest => rest.isEmpty || isOffset rest
      | none => false
  | none => time? cs == some []

/-- The item that an unquoted text stands for. -/
def scalar? (cs : List Char) : Option Item :=
  if cs = "true".toList then some (.boolean true)
  else if cs = "false".toList then some (.boolean false)
  else if let some n := integer? cs then some (.integer n)
  else if let some f := float? cs then some (.float f)
  else if isMoment cs then some (.moment (String.ofList cs))
  else none

end NamedFunctions.Toml
