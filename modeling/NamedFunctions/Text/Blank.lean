/-! # White space

The Unicode property White_Space and the trimming of texts by it. Zero-width
spaces, the byte order mark and the information separators do not have the
property, so a name may begin or end with one of them. -/
namespace NamedFunctions.Text

/-- The characters with the Unicode property White_Space. -/
def isBlank (c : Char) : Bool :=
  let n := c.toNat
  (0x09 ≤ n && n ≤ 0x0D) || n == 0x20 || n == 0x85 || n == 0xA0 || n == 0x1680 ||
    (0x2000 ≤ n && n ≤ 0x200A) || n == 0x2028 || n == 0x2029 || n == 0x202F || n == 0x205F ||
    n == 0x3000

theorem isBlank_of_isWhitespace {c : Char} (h : c.isWhitespace = true) : isBlank c = true := by
  simp only [Char.isWhitespace, Bool.or_eq_true, decide_eq_true_eq] at h
  rcases h with ((rfl | rfl) | rfl) | rfl <;> rfl

/-- Drops the characters satisfying `p` from both ends. -/
def stripChars (p : Char → Bool) (cs : List Char) : List Char :=
  ((cs.dropWhile p).reverse.dropWhile p).reverse

/-- The text without the white space at its ends. -/
def trim (s : String) : String :=
  String.ofList (stripChars isBlank s.toList)

/-- A text that holds nothing but white space. -/
def isBlankText (s : String) : Bool :=
  s.toList.all isBlank

@[simp] theorem stripChars_nil (p : Char → Bool) : stripChars p [] = [] := rfl

private theorem dropWhile_eq_nil {p : Char → Bool} {cs : List Char} :
    cs.dropWhile p = [] ↔ cs.all p = true := by
  induction cs with
  | nil => simp
  | cons c cs ih => by_cases h : p c = true <;> simp_all

theorem stripChars_eq_nil {p : Char → Bool} {cs : List Char} :
    stripChars p cs = [] ↔ cs.all p = true := by
  constructor
  · intro h
    have h' : ((cs.dropWhile p).reverse).all p = true := dropWhile_eq_nil.1 (by simpa [stripChars] using h)
    cases hd : cs.dropWhile p with
    | nil => exact dropWhile_eq_nil.1 hd
    | cons c rest =>
      have hc : p c = true := List.all_eq_true.1 h' c (by simp [hd])
      have hn := @List.head_dropWhile_not _ p cs (by simp [hd])
      simp [hd, hc] at hn
  · intro h
    simp [stripChars, dropWhile_eq_nil.2 h]

@[simp] theorem trim_eq_empty {s : String} : trim s = "" ↔ isBlankText s = true := by
  rw [trim, isBlankText, ← stripChars_eq_nil (p := isBlank)]
  constructor
  · intro h
    simpa using congrArg String.toList h
  · intro h
    simp [h]

end NamedFunctions.Text
