import Mathlib.Data.List.Basic
import NamedFunctions.Proofs.CanonicalForm

/-! # The names of a definition

A definition may mention a name several times. Its names are its stages with only the first occurrence
of each kept, and they stand in the order of these occurrences. They go by the stages alone, so a
definition has the names of its canonical form, and also of the shorter text in which each name stands
once. Two definitions in a row have the names of the first, and after them what the second adds. -/
namespace NamedFunctions.Definition

/-! ## Lists without repetitions -/

/-- What is added at the end of a list does not change where its members first occur. -/
theorem pairwise_idxOf_eraseDups (list : List String) :
    list.eraseDups.Pairwise fun name later => list.idxOf name < list.idxOf later := by
  induction list using List.reverseRecOn with
  | nil => exact .nil
  | append_singleton earlier last ih =>
    have hkept : earlier.eraseDups.Pairwise fun name later =>
        (earlier ++ [last]).idxOf name < (earlier ++ [last]).idxOf later := by
      refine ih.imp_of_mem fun {name later} hname hlater hlt => ?_
      rw [List.idxOf_append_of_mem (List.mem_eraseDups.1 hname),
        List.idxOf_append_of_mem (List.mem_eraseDups.1 hlater)]
      exact hlt
    rw [eraseDups_concat]
    split
    · exact hkept
    · next hnew =>
      refine List.pairwise_append.2 ⟨hkept, List.pairwise_singleton .., ?_⟩
      intro name hname later hlater
      obtain rfl := List.mem_singleton.1 hlater
      have hm : name ∈ earlier := List.mem_eraseDups.1 hname
      rw [List.idxOf_append_of_mem hm, List.idxOf_append_of_notMem hnew]
      exact Nat.lt_add_right _ (List.idxOf_lt_length_of_mem hm)

theorem eraseDups_of_nodup {list : List String} (h : list.Nodup) : list.eraseDups = list := by
  induction list using List.reverseRecOn with
  | nil => rfl
  | append_singleton earlier last ih =>
    obtain ⟨hearlier, -, hapart⟩ := List.nodup_append.1 h
    have hnew : last ∉ earlier := fun hm => hapart last hm last (List.mem_singleton_self last) rfl
    rw [eraseDups_concat, if_neg hnew, ih hearlier]

theorem eraseDups_filter (p : String → Bool) (list : List String) :
    (list.filter p).eraseDups = list.eraseDups.filter p := by
  induction list using List.reverseRecOn with
  | nil => rfl
  | append_singleton earlier last ih =>
    rw [eraseDups_concat, List.filter_append, List.filter_singleton]
    cases hp : p last with
    | false => split <;> simp [hp, ih]
    | true =>
      rw [cond_true, eraseDups_concat, ih]
      by_cases hm : last ∈ earlier <;> simp [hm, hp]

/-! ## Names -/

theorem names_join_names (raw : String) : names (join (names raw)) = names raw := by
  have hstages : stages (join (names raw)) = names raw :=
    stages_join fun _ hm => isStageName_of_mem_stages (mem_names.1 hm)
  rw [names, hstages, eraseDups_of_nodup (nodup_names raw)]

theorem names_append_delimiter (a b : String) {c : Char} (h : isDelimiter c = true) :
    names (a ++ String.singleton c ++ b) = names a ++ (names b).filter (· ∉ names a) := by
  have hadded : (stages b).removeAll (stages a) = (stages b).filter (· ∉ names a) := by
    simp [List.removeAll]
  calc names (a ++ String.singleton c ++ b)
      = (stages a ++ stages b).eraseDups := by rw [names, stages_append_delimiter a b h]
    _ = names a ++ ((stages b).removeAll (stages a)).eraseDups := List.eraseDups_append ..
    _ = names a ++ (names b).filter (· ∉ names a) := by rw [hadded, eraseDups_filter, ← names]

/-- No name is repeated, just the stages are among the names, and one stands before another if it
occurs first. Written back, a definition keeps its names; after a comma it adds those that were
not there before. -/
theorem names_first_occurrences :
    (∀ raw : String, (names raw).Nodup ∧ (∀ name, name ∈ names raw ↔ name ∈ stages raw) ∧
        ((names raw).Pairwise fun name later =>
          (stages raw).idxOf name < (stages raw).idxOf later) ∧
        names (join (stages raw)) = names raw ∧ names (join (names raw)) = names raw) ∧
      ∀ a b : String, names (a ++ "," ++ b) = names a ++ (names b).filter (· ∉ names a) := by
  constructor
  · intro raw
    exact ⟨nodup_names raw, fun _ => mem_names, pairwise_idxOf_eraseDups (stages raw),
      names_canonical raw, names_join_names raw⟩
  · intro a b
    exact names_append_delimiter a b (c := ',') rfl

example : names ("b|a, b |c" ++ "," ++ "d,,a") = ["b", "a", "c", "d"] := by decide

end NamedFunctions.Definition
