import NamedFunctions.Settings.Document

/-! # Documents of quoted texts

What the TOML reader makes of the plainest documents: lines that give a bare key a text between single
quotes, and lines that open a table. The reader takes one such line after the other, and a document
that sets both definitions in this way is read as setting these two texts, whatever they are. -/
namespace NamedFunctions

namespace Toml

/-! ## Lines -/

/-- A key that needs no quotes. -/
def IsBareKey (key : List Char) : Prop :=
  key ≠ [] ∧ ∀ c ∈ key, isBareKeyChar c = true

theorem isBareKey_iff {key : List Char} :
    (!key.isEmpty && key.all isBareKeyChar) = true ↔ IsBareKey key := by
  simp [IsBareKey]

instance (key : List Char) : Decidable (IsBareKey key) :=
  decidable_of_iff _ isBareKey_iff

/-- A text that can stand as it is between single quotes on one line. -/
def IsLiteral (text : List Char) : Prop :=
  ∀ c ∈ text, Quoting.isTextChar c = true ∧ c ≠ '\''

theorem isLiteral_iff {text : List Char} :
    (text.all fun c => Quoting.isTextChar c && c != '\'') = true ↔ IsLiteral text := by
  simp [IsLiteral]

instance (text : List Char) : Decidable (IsLiteral text) :=
  decidable_of_iff _ isLiteral_iff

/-- A line that gives a key a text between single quotes, and what comes after it. -/
def textLine (key text rest : List Char) : List Char :=
  key ++ ([' ', '=', ' ', '\''] ++ (text ++ '\'' :: '\n' :: rest))

/-- A line that opens a table, and what comes after it. -/
def headerLine (key rest : List Char) : List Char :=
  '[' :: (key ++ ']' :: '\n' :: rest)

/-! ## Keys -/

theorem ne_of_isBareKeyChar {c other : Char} (h : isBareKeyChar c = true)
    (hother : isBareKeyChar other = false) : c ≠ other := by
  rintro rfl
  rw [h] at hother
  cases hother

theorem isSpace_of_isBareKeyChar {c : Char} (h : isBareKeyChar c = true) : isSpace c = false := by
  have hblank : c ≠ ' ' := ne_of_isBareKeyChar h (by decide)
  have htab : c ≠ '\t' := ne_of_isBareKeyChar h (by decide)
  simp [isSpace, hblank, htab]

theorem simpleKey_bare {key cs : List Char} (h : IsBareKey key)
    (hcs : ∀ c ∈ cs.head?, isBareKeyChar c = false) :
    simpleKey (key ++ cs) = some (String.ofList key, cs) := by
  have hstops : cs.takeWhile isBareKeyChar = [] ∧ cs.dropWhile isBareKeyChar = cs := by
    cases cs with
    | nil => exact ⟨rfl, rfl⟩
    | cons c cs => simp [hcs c rfl]
  have hkey : (key ++ cs).takeWhile isBareKeyChar = key := by
    rw [List.takeWhile_append_of_pos h.2, hstops.1, List.append_nil]
  have hrest : (key ++ cs).dropWhile isBareKeyChar = cs := by
    rw [List.dropWhile_append_of_pos h.2, hstops.2]
  obtain ⟨c, key, rfl⟩ := List.exists_cons_of_ne_nil h.1
  rw [simpleKey, hkey, hrest]

theorem dottedKey_bare {key cs : List Char} (h : IsBareKey key)
    (hcs : ∀ c ∈ cs.head?, isBareKeyChar c = false) (hdot : (skipSpaces cs).head? ≠ some '.') :
    dottedKey (key ++ cs) = some (([], String.ofList key), skipSpaces cs) := by
  have hpath : keyPath maxKeyParts (key ++ cs) = some ([String.ofList key], skipSpaces cs) := by
    rw [maxKeyParts, keyPath, simpleKey_bare h hcs]
    simp only [bind, Option.bind]
    split
    · next heq => exact absurd (congrArg List.head? heq) hdot
    · rfl
  rw [dottedKey, hpath]
  rfl

/-! ## Texts between single quotes -/

theorem Quoting.body_literal {text : List Char} (h : IsLiteral text) (rest : List Char) :
    body ⟨'\'', false, false⟩ (.plain 0 false) (text ++ '\'' :: rest) = some (text, rest) := by
  induction text with
  | nil =>
    cases rest with
    | nil => rfl
    | cons c rest =>
      show (if (c = '\'' && false) = true then _ else some ([], c :: rest)) = _
      rw [Bool.and_false]
      rfl
  | cons c text ih =>
    obtain ⟨hchar, hmark⟩ := h c List.mem_cons_self
    have htext := ih fun c hm => h c (List.mem_cons_of_mem _ hm)
    -- neither a mark nor a backslash that escapes, the character stands for itself
    show (if (c = '\'' && true) = true then _ else
      push [] (if (c = '\\' && false) = true then _ else
        if isTextChar c then
          push [c] (body ⟨'\'', false, false⟩ (.plain 0 false) (text ++ '\'' :: rest))
        else none)) = _
    rw [Bool.and_true, if_neg (by simpa using hmark), Bool.and_false, if_neg Bool.false_ne_true,
      if_pos hchar, htext]
    rfl

theorem Quoting.read?_literal {text rest : List Char} (h : IsLiteral text)
    (hrest : rest.head? ≠ some '\'') :
    read? true ('\'' :: (text ++ '\'' :: rest)) = some (String.ofList text, rest) := by
  have hsingle : ∀ after, text ++ '\'' :: rest ≠ '\'' :: '\'' :: after := by
    intro after heq
    cases text with
    | nil => exact hrest (congrArg List.head? (List.cons.inj heq).2)
    | cons c text => exact (h c List.mem_cons_self).2 (List.cons.inj heq).1
  unfold read?
  split
  · next heq => cases heq
  · next after heq => exact absurd (List.cons.inj heq).2 (hsingle after)
  · next heq => cases heq
  · next heq =>
    cases heq
    show ((body ⟨'\'', false, false⟩ _ _).map _) = _
    rw [body_literal h rest]
    rfl
  · next heq => exact absurd rfl (heq _)

/-! ## Statements -/

theorem statement_textLine (state : State) {key text rest : List Char} (hkey : IsBareKey key)
    (htext : IsLiteral text) :
    statement state (textLine key text rest) =
      (state.root.change false (·.addKey [] (String.ofList key) (.text (String.ofList text)))
        state.header).map fun root => ({ state with root }, rest) := by
  have hdotted : dottedKey (textLine key text rest) =
      some (([], String.ofList key), skipSpaces (' ' :: '=' :: ' ' :: '\'' :: _)) :=
    dottedKey_bare hkey (by simp; decide) (by simp [skipSpaces, isSpace])
  have hvalue : value maxDepth ('\'' :: (text ++ '\'' :: '\n' :: rest)) =
      some (.text (String.ofList text), '\n' :: rest) := by
    show scalar _ = _
    rw [scalar, Quoting.read?_literal htext (by simp)]
  have hkeyValue : keyValue (some ∘ skipSpaces) (value maxDepth) (textLine key text rest) =
      some (⟨[], String.ofList key, .text (String.ofList text)⟩, '\n' :: rest) := by
    rw [keyValue, hdotted]
    show (value maxDepth ('\'' :: (text ++ '\'' :: '\n' :: rest)) >>= _) = _
    rw [hvalue]
    rfl
  have hbracket : (textLine key text rest).head? ≠ some '[' := by
    obtain ⟨c, key, rfl⟩ := List.exists_cons_of_ne_nil hkey.1
    simpa [textLine] using ne_of_isBareKeyChar (hkey.2 c List.mem_cons_self) (by decide)
  unfold statement
  split
  · next heq => exact absurd (congrArg List.head? heq) hbracket
  · next heq => exact absurd (congrArg List.head? heq) hbracket
  · rw [hkeyValue]
    show (state.root.change false _ state.header >>= _) = _
    cases state.root.change false
      (·.addKey [] (String.ofList key) (.text (String.ofList text))) state.header <;> rfl

theorem statement_headerLine (state : State) {key rest : List Char} (hkey : IsBareKey key) :
    statement state (headerLine key rest) =
      (state.root.openTable [] (String.ofList key)).map fun root =>
        ({ root, header := [String.ofList key] }, rest) := by
  have hdotted : dottedKey (key ++ ']' :: '\n' :: rest) =
      some (([], String.ofList key), ']' :: '\n' :: rest) :=
    dottedKey_bare hkey (by simp; decide) (by simp [skipSpaces, isSpace])
  obtain ⟨c, key, rfl⟩ := List.exists_cons_of_ne_nil hkey.1
  have hc : isBareKeyChar c = true := hkey.2 c List.mem_cons_self
  have hspaces : skipSpaces (c :: key ++ ']' :: '\n' :: rest) = c :: key ++ ']' :: '\n' :: rest := by
    simp [skipSpaces, isSpace_of_isBareKeyChar hc]
  unfold statement headerLine
  split
  · next heq =>
    have hbracket : c = '[' := (List.cons.inj (List.cons.inj heq).2).1
    exact absurd hbracket (ne_of_isBareKeyChar hc (by decide))
  · next heq =>
    cases heq
    rw [hspaces, hdotted]
    show (state.root.openTable [] _ >>= _) = _
    cases state.root.openTable [] (String.ofList (c :: key)) <;> rfl
  · next heq => exact absurd rfl (heq _)

theorem skipBlank_textLine {key text rest : List Char} (hkey : IsBareKey key) :
    skipBlank false (textLine key text rest) = some (textLine key text rest) := by
  obtain ⟨c, key, rfl⟩ := List.exists_cons_of_ne_nil hkey.1
  have hc : isBareKeyChar c = true := hkey.2 c List.mem_cons_self
  have hmark : c ≠ '#' := ne_of_isBareKeyChar hc (by decide)
  have hline : Quoting.startsLineEnd (textLine (c :: key) text rest) = false := by
    unfold Quoting.startsLineEnd
    split
    · next heq => exact absurd (List.cons.inj heq).1 (ne_of_isBareKeyChar hc (by decide))
    · next heq => exact absurd (List.cons.inj heq).1 (ne_of_isBareKeyChar hc (by decide))
    · rfl
  rw [textLine, List.cons_append] at hline ⊢
  rw [skipBlank, hline]
  simp [isSpace_of_isBareKeyChar hc, hmark]

/-- One round of the loop takes one statement. -/
theorem statements_of_statement {bound : Nat} {state next : State} {cs rest : List Char}
    (hskip : skipBlank false cs = some cs) (hne : cs ≠ [])
    (h : statement state cs = some (next, rest)) :
    statements (bound + 1) state cs = statements bound next rest := by
  obtain ⟨c, cs, rfl⟩ := List.exists_cons_of_ne_nil hne
  rw [statements, hskip]
  show (statement state (c :: cs) >>= _) = _
  rw [h]
  rfl

end Toml

/-! ## Documents -/

namespace Settings

open Toml

/-- A document that sets both definitions, each between single quotes. -/
def quotedDocument (nested outer : String) : String :=
  "definition = '" ++ outer ++ "'\n[function]\ndefinition = '" ++ nested ++ "'\n"

theorem toList_quotedDocument (nested outer : String) :
    (quotedDocument nested outer).toList =
      textLine "definition".toList outer.toList
        (headerLine "function".toList (textLine "definition".toList nested.toList [])) := by
  have hopens : "definition = '".toList = "definition".toList ++ [' ', '=', ' ', '\''] := rfl
  have hturns : "'\n[function]\ndefinition = '".toList =
      ['\'', '\n'] ++ headerLine "function".toList ("definition".toList ++ [' ', '=', ' ', '\'']) :=
    rfl
  have hends : "'\n".toList = ['\'', '\n'] := rfl
  show ("definition = '" ++ outer ++ "'\n[function]\ndefinition = '" ++ nested ++ "'\n").toList = _
  simp only [String.toList_append, hopens, hturns, hends, textLine, headerLine, List.append_assoc,
    List.cons_append, List.nil_append]

/-- The two texts are read as they are. -/
theorem Format.read?_toml_quoted {nested outer : String} (hnested : IsLiteral nested.toList)
    (houter : IsLiteral outer.toList) :
    Format.toml.read? (quotedDocument nested outer) = some ⟨some ⟨some nested⟩, some outer⟩ := by
  have hdefinition : IsBareKey "definition".toList := by decide
  have hfunction : IsBareKey "function".toList := by decide
  let root : Table := { origin := .header, entries := [("definition", .text outer)] }
  let opened : Table := root.put "function" (.table .header [])
  let full : Table := root.put "function" (.table .header [("definition", .text nested)])
  have hread : Toml.read? (quotedDocument nested outer) = some full := by
    rw [Toml.read?, toList_quotedDocument]
    generalize hthird : textLine "definition".toList nested.toList [] = third
    have hlast : statement ⟨opened, ["function"]⟩ third = some (⟨full, ["function"]⟩, []) := by
      rw [← hthird, statement_textLine ⟨opened, ["function"]⟩ hdefinition hnested,
        String.ofList_toList, String.ofList_toList]
      rfl
    generalize hsecond : headerLine "function".toList third = second
    have hheader : statement ⟨root, []⟩ second = some (⟨opened, ["function"]⟩, third) := by
      rw [← hsecond, statement_headerLine ⟨root, []⟩ hfunction, String.ofList_toList]
      rfl
    generalize hfirst : textLine "definition".toList outer.toList second = first
    have hopening : statement {} first = some (⟨root, []⟩, second) := by
      rw [← hfirst, statement_textLine {} hdefinition houter, String.ofList_toList,
        String.ofList_toList]
      rfl
    have hmark : first.head? ≠ some '\ufeff' := by simp [← hfirst, textLine]
    -- every line has a character, so the loop is never cut short
    have hlong : 3 ≤ first.length := by
      rw [← hfirst, ← hsecond, ← hthird]
      simp only [textLine, headerLine, List.length_append, List.length_cons]
      omega
    obtain ⟨bound, hbound⟩ := Nat.exists_eq_add_of_le' hlong
    rw [if_neg hmark, hbound,
      statements_of_statement (hfirst ▸ skipBlank_textLine hdefinition)
        (by simp [← hfirst, textLine]) hopening,
      statements_of_statement (by rw [← hsecond]; rfl) (by simp [← hsecond, headerLine]) hheader,
      statements_of_statement (hthird ▸ skipBlank_textLine hdefinition)
        (by simp [← hthird, textLine]) hlast]
    rfl
  show (Toml.read? (quotedDocument nested outer)).bind _ = _
  rw [hread]
  rfl

end Settings

end NamedFunctions
