import Mathlib.Data.List.DropRight
import Mathlib.Data.List.Induction
import Mathlib.Data.List.Nodup
import NamedFunctions.Definition

/-! # The canonical form of a definition

Writing stage names with bars between them and reading them back gives the same names. The names
that a reading gives are stage names themselves, so a definition and its canonical form read alike,
however often the form is taken. Nor does it matter for a reading which of the two delimiters stands
where. -/
namespace NamedFunctions.Text

/-! ## Trimmed characters -/

theorem mem_of_mem_stripChars {p : Char → Bool} {cs : List Char} {c : Char}
    (h : c ∈ stripChars p cs) : c ∈ cs :=
  List.dropWhile_subset p (List.rdropWhile_prefix p (cs.dropWhile p) |>.subset h)

theorem head?_stripChars {p : Char → Bool} {cs : List Char} {c : Char}
    (h : (stripChars p cs).head? = some c) : p c = false := by
  have hne : stripChars p cs ≠ [] := by
    intro he
    simp [he] at h
  have hpre : stripChars p cs <+: cs.dropWhile p := List.rdropWhile_prefix p _
  have hne' : cs.dropWhile p ≠ [] := fun he => hne (List.prefix_nil.1 (he ▸ hpre))
  rw [List.head?_eq_some_head hne, Option.some.injEq, hpre.head hne] at h
  rw [← h]
  exact List.head_dropWhile_not p hne'

theorem getLast?_stripChars {p : Char → Bool} {cs : List Char} {c : Char}
    (h : (stripChars p cs).getLast? = some c) : p c = false := by
  have hne : stripChars p cs ≠ [] := by
    intro he
    simp [he] at h
  rw [List.getLast?_eq_some_getLast hne, Option.some.injEq] at h
  rw [← h, ← Bool.not_eq_true]
  exact List.rdropWhile_last_not p _ hne

theorem stripChars_eq_self {p : Char → Bool} {cs : List Char}
    (hh : ∀ c, cs.head? = some c → p c = false)
    (hl : ∀ c, cs.getLast? = some c → p c = false) : stripChars p cs = cs := by
  have hd : cs.dropWhile p = cs := by
    cases cs with
    | nil => rfl
    | cons c rest => simp [hh c rfl]
  show (cs.dropWhile p).rdropWhile p = cs
  rw [hd, List.rdropWhile_eq_self_iff]
  intro hne
  simpa using hl _ (List.getLast?_eq_some_getLast hne)

end NamedFunctions.Text

namespace NamedFunctions.Definition

open NamedFunctions.Text

/-! ## Reading what was written -/

theorem not_isDelimiter_of_mem_splitOnP {cs segment : List Char}
    (h : segment ∈ cs.splitOnP isDelimiter) : ∀ c ∈ segment, isDelimiter c = false := by
  induction cs generalizing segment with
  | nil => simp_all
  | cons c rest ih =>
    obtain ⟨first, others, he⟩ := List.exists_cons_of_ne_nil (List.splitOnP_ne_nil isDelimiter rest)
    have hfirst := @ih first (he ▸ List.mem_cons_self ..)
    have hothers : ∀ segment ∈ others, ∀ d ∈ segment, isDelimiter d = false :=
      fun _ hm => ih (he ▸ List.mem_cons_of_mem _ hm)
    rw [List.splitOnP_cons_eq_if_modifyHead, he, List.modifyHead_cons] at h
    split at h
    · grind
    · grind

/-- What a reading gives can be read again as it stands. -/
theorem isStageName_of_mem_stages {raw name : String} (h : name ∈ stages raw) :
    IsStageName name := by
  simp only [stages, List.mem_map, List.mem_filter] at h
  obtain ⟨cs, ⟨⟨segment, hseg, rfl⟩, hne⟩, rfl⟩ := h
  refine ⟨?_, ?_, ?_, ?_⟩
  · intro he
    simp [String.ofList_eq_empty_iff.1 he] at hne
  · intro c hc
    rw [String.toList_ofList] at hc
    exact not_isDelimiter_of_mem_splitOnP hseg c (mem_of_mem_stripChars hc)
  · intro c hc
    rw [String.toList_ofList] at hc
    exact head?_stripChars hc
  · intro c hc
    rw [String.toList_ofList] at hc
    exact getLast?_stripChars hc

theorem stages_of_isStageName {name : String} (h : IsStageName name) : stages name = [name] := by
  obtain ⟨hne, hdelim, hhead, hlast⟩ := h
  have hcs : name.toList ≠ [] := by simpa using hne
  simp [stages, List.splitOnP_eq_singleton hdelim, stripChars_eq_self hhead hlast, hcs]

theorem join_cons_cons (first second : String) (rest : List String) :
    join (first :: second :: rest) = first ++ String.singleton '|' ++ join (second :: rest) :=
  String.intercalate_cons_cons

theorem stages_join {names : List String} (h : ∀ name ∈ names, IsStageName name) :
    stages (join names) = names := by
  induction names with
  | nil => rfl
  | cons first rest ih =>
    have hfirst := stages_of_isStageName (h first (List.mem_cons_self ..))
    cases rest with
    | nil => simpa using hfirst
    | cons second rest =>
      rw [join_cons_cons, stages_append_delimiter _ _ rfl, hfirst,
        ih fun name hm => h name (List.mem_cons_of_mem _ hm), List.singleton_append]

@[simp] theorem stages_canonical (raw : String) : stages (canonical raw) = stages raw :=
  stages_join fun _ => isStageName_of_mem_stages

@[simp] theorem canonical_canonical (raw : String) : canonical (canonical raw) = canonical raw := by
  rw [canonical, stages_canonical, ← canonical]

theorem names_canonical (raw : String) : names (canonical raw) = names raw := by
  rw [names, stages_canonical, names]

/-- Going on by one name: a name that occurs before is left out. -/
theorem eraseDups_concat (earlier : List String) (last : String) :
    (earlier ++ [last]).eraseDups =
      if last ∈ earlier then earlier.eraseDups else earlier.eraseDups ++ [last] := by
  rw [List.eraseDups_append]
  split
  · next h => simp [List.removeAll, h]
  · next h => simp [List.removeAll, h, List.eraseDups_cons]

theorem nodup_names (raw : String) : (names raw).Nodup := by
  -- by induction from the end: a name that is there already is dropped
  rw [names]
  induction stages raw using List.reverseRecOn with
  | nil => exact List.nodup_nil
  | append_singleton earlier last ih =>
    rw [eraseDups_concat]
    split
    · exact ih
    · next hnew => exact List.nodup_append_comm.1 (List.nodup_cons.2 ⟨by simpa using hnew, ih⟩)

theorem stages_of_isBlankText {raw : String} (h : isBlankText raw = true) : stages raw = [] := by
  have hdelim : ∀ c ∈ raw.toList, isDelimiter c = false := by
    intro c hc
    have hb : isBlank c = true := List.all_eq_true.1 h c hc
    cases hd : isDelimiter c with
    | false => rfl
    | true =>
      rcases (by simpa [isDelimiter] using hd : c = ',' ∨ c = '|') with rfl | rfl
      · exact absurd hb (by decide)
      · exact absurd hb (by decide)
  simp [stages, List.splitOnP_eq_singleton hdelim, stripChars_eq_nil.2 h]

theorem isBlankText_of_stages_ne_nil {raw : String} (h : stages raw ≠ []) :
    isBlankText raw = false := by
  cases hb : isBlankText raw with
  | false => rfl
  | true => exact absurd (stages_of_isBlankText hb) h

theorem isBlankText_canonical {raw : String} (h : stages raw ≠ []) :
    isBlankText (canonical raw) = false :=
  isBlankText_of_stages_ne_nil (by rwa [stages_canonical])

theorem isBlankText_of_mem_names {raw name : String} (h : name ∈ names raw) :
    isBlankText name = false := by
  have hname := stages_of_isStageName (isStageName_of_mem_stages (mem_names.1 h))
  exact isBlankText_of_stages_ne_nil (by simp [hname])

/-! ## Texts that are one stage -/

section OneStage

variable {name : String} (h : stages name = [name])
include h

theorem isBlankText_of_stages_eq : isBlankText name = false :=
  isBlankText_of_stages_ne_nil (by simp [h])

theorem names_of_stages_eq : names name = [name] := by
  rw [names, h]
  rfl

theorem canonical_of_stages_eq : canonical name = name := by
  rw [canonical, h, join_singleton]

end OneStage

/-! ## Delimiters -/

/-- Characters that a reading cannot tell apart. -/
def Interchangeable (c d : Char) : Prop :=
  c = d ∨ isDelimiter c = true ∧ isDelimiter d = true

/-- Two texts that differ at most in which delimiter stands where. -/
def SameButDelimiters (raw other : String) : Prop :=
  List.Forall₂ Interchangeable raw.toList other.toList

theorem splitOnP_eq_of_interchangeable {cs ds : List Char} (h : List.Forall₂ Interchangeable cs ds) :
    cs.splitOnP isDelimiter = ds.splitOnP isDelimiter := by
  induction h with
  | nil => rfl
  | cons hcd _ ih =>
    rw [List.splitOnP_cons_eq_if_modifyHead, List.splitOnP_cons_eq_if_modifyHead, ih]
    rcases hcd with rfl | ⟨hc, hd⟩
    · rfl
    · rw [if_pos hc, if_pos hd]

theorem stages_eq_of_sameButDelimiters {raw other : String} (h : SameButDelimiters raw other) :
    stages raw = stages other := by
  rw [stages, stages, splitOnP_eq_of_interchangeable h]

theorem isDelimiter_iff {c : Char} : isDelimiter c = true ↔ c = ',' ∨ c = '|' := by
  simp [isDelimiter]

/-! ## Reading and writing -/

/-- A reading gives stage names only, and stage names that are written are read back as they were.
The delimiters read alike, and each parts a text into two that are read one after the other. -/
theorem stages_inverts_join :
    (∀ raw : String, ∀ name ∈ stages raw, IsStageName name) ∧
      (∀ names : List String, (∀ name ∈ names, IsStageName name) → stages (join names) = names) ∧
      (∀ names others : List String, (∀ name ∈ names, IsStageName name) →
        (∀ name ∈ others, IsStageName name) → join names = join others → names = others) ∧
      (∀ raw : String, join (stages (join (stages raw))) = join (stages raw)) ∧
      (∀ raw other : String, SameButDelimiters raw other → stages raw = stages other) ∧
      ∀ (a b : String) (c : Char), c = ',' ∨ c = '|' →
        stages (a ++ String.singleton c ++ b) = stages a ++ stages b := by
  refine ⟨fun _ _ => isStageName_of_mem_stages, fun _ => stages_join, ?_, canonical_canonical,
    fun _ _ => stages_eq_of_sameButDelimiters, ?_⟩
  · intro names others hnames hothers he
    calc names
        = stages (join names) := (stages_join hnames).symm
      _ = stages (join others) := by rw [he]
      _ = others := stages_join hothers
  · intro a b c hc
    exact stages_append_delimiter a b (isDelimiter_iff.2 hc)

/-- An ideographic space is trimmed, a space inside of a name is kept, and so is a zero-width space at
its end. -/
theorem stages_inverts_join_spaced :
    let names := ["a", "b c", "a", "d\u200b"]
    let raw := ",a ,\u3000b c||a|  |d\u200b"
    let other := "|a |\u3000b c,|a,  ,d\u200b"
    stages raw = names ∧ stages (join names) = names ∧ join names = "a|b c|a|d\u200b" ∧
      SameButDelimiters raw other ∧ stages other = names := by
  intro names raw other
  have hraw : stages raw = names := by decide
  have hnames : ∀ name ∈ names, IsStageName name := by
    intro name hm
    exact stages_inverts_join.1 raw name (hraw ▸ hm)
  have hsame : SameButDelimiters raw other := by
    unfold SameButDelimiters Interchangeable
    decide
  exact ⟨hraw, stages_inverts_join.2.1 names hnames, by decide, hsame,
    (stages_inverts_join.2.2.2.2.1 raw other hsame).symm.trans hraw⟩

end NamedFunctions.Definition
