import NamedFunctions.Proofs.PipelineShape
import NamedFunctions.Proofs.RegisteredNames

/-! # Names that a lookup can reach

A store accepts any name that is not blank and not taken, while a lookup reads its definition as
stages: it parts it at delimiters and trims what is between them. The two agree on stage names only.
A name with a delimiter in it, or with white space at an end, is known to the store but read as
something else: as other names, which may lead to another registration or nowhere. It leads to its
registration all the same if it reads as another name of that very registration. -/
namespace NamedFunctions.Store

open Definition

variable {Obj : Type} {store : Store Obj} {name own : String} {registration : Registration Obj}

theorem lookup_of_stages_eq_singleton (hname : stages name = [own])
    (hget : store.get? own = some registration) (outputTypes : List String) :
    store.lookup none name outputTypes =
      .ok ⟨own, [registration], registration.signature, outputTypes⟩ := by
  have hown : stages own = [own] :=
    stages_of_isStageName (isStageName_of_mem_stages (hname ▸ List.mem_singleton_self own))
  have hcanonical : canonical name = own := by rw [canonical, hname, join_singleton]
  rw [← lookup_canonical, hcanonical]
  exact lookup_single hown hget outputTypes

namespace WellFormed

/-- A name is found to lead to a registration that lists it just when it reads as one of the names
of that registration. -/
theorem lookup_leads_iff (h : store.WellFormed) (hr : registration ∈ store.registrations)
    (outputTypes : List String) :
    (∃ found, store.lookup none name outputTypes = .ok found ∧ found.stages = [registration]) ↔
      ∃ own ∈ registration.names, stages name = [own] := by
  constructor
  · rintro ⟨found, hfound, hstages⟩
    obtain ⟨hget, -⟩ := lookup_eq_ok_iff_stages.1 hfound
    rw [hstages, List.map_singleton, List.map_eq_singleton_iff] at hget
    obtain ⟨own, hname, hown⟩ := hget
    exact ⟨own, (h.get?_eq_some.1 hown).2, hname⟩
  · rintro ⟨own, hm, hname⟩
    have hget : store.get? own = some registration := h.get?_eq_some.2 ⟨hr, hm⟩
    exact ⟨_, lookup_of_stages_eq_singleton hname hget outputTypes, rfl⟩

end WellFormed

/-- A lookup of a name finds the registration under it just when the name, taken as a definition,
is a single stage and one of the registration's own names. Every stage name is read as it stands.
-/
theorem lookup_reaches_name (registrations : List (Registration Obj)) (name : String)
    (outputTypes : List String)
    (hname : name ∈ ((Store.empty : Store Obj).offerAll registrations).names none) :
    let store := (Store.empty : Store Obj).offerAll registrations
    let found := ((Catalog.base.lookup none name outputTypes).run store).value
    ∃ registration, store.get? name = some registration ∧
      ((∃ pipeline, found = some pipeline ∧ pipeline.stages = [registration]) ↔
        ∃ own ∈ registration.names, stages name = [own]) ∧
      (IsStageName name →
        found = some ⟨name, [registration], registration.signature, outputTypes⟩) := by
  intro store found
  have h : store.WellFormed := WellFormed.empty.offerAll registrations
  obtain ⟨registration, hget, -⟩ := h.mem_names.1 hname
  have hregistered := (h.get?_eq_some.1 hget).1
  refine ⟨registration, hget, ?_, ?_⟩
  · rw [← h.lookup_leads_iff hregistered outputTypes]
    simp only [found, value_run_lookup_eq_some]
  · intro hstage
    exact value_run_lookup_eq_some.2
      (lookup_of_stages_eq_singleton (stages_of_isStageName hstage) hget outputTypes)

/-- The second registration has an alias that reads as its primary name. -/
theorem lookup_reaches_name_spaced :
    let first : Registration Unit := { primary := "a", target := .object () }
    let second : Registration Unit :=
      { primary := "b c", aliases := ["b c\u3000"], target := .object (), signature := ⟨.void, .any⟩ }
    let store := Store.empty.offerAll [first, second]
    let lookup (name : String) := ((Catalog.base.lookup none name []).run store).value
    "b c" ∈ store.names none ∧ "b c\u3000" ∈ store.names none ∧
      lookup "b c" = some ⟨"b c", [second], ⟨.void, .any⟩, []⟩ ∧
      ∃ pipeline, lookup "b c\u3000" = some pipeline ∧ pipeline.stages = [second] := by
  intro first second store lookup
  have hplain : "b c" ∈ store.names none := by decide
  have hspaced : "b c\u3000" ∈ store.names none := by decide
  have hstage : IsStageName "b c" :=
    isStageName_of_mem_stages (show "b c" ∈ stages "b c" by decide)
  have hknown : store.get? "b c" = some second ∧ store.get? "b c\u3000" = some second := by decide
  obtain ⟨registration, hget, -, hfound⟩ := lookup_reaches_name [first, second] "b c" [] hplain
  obtain rfl : second = registration := Option.some.inj (hknown.1.symm.trans hget)
  obtain ⟨same, hsame, hleads, -⟩ := lookup_reaches_name [first, second] "b c\u3000" [] hspaced
  obtain rfl : second = same := Option.some.inj (hknown.2.symm.trans hsame)
  exact ⟨hplain, hspaced, hfound hstage, hleads.2 ⟨"b c", by decide, by decide⟩⟩

/-- A name with a delimiter is accepted and found by no lookup, and a name with a space before it is
found to lead to the registration under the name without the space. -/
theorem lookup_misses_name :
    let listed : Registration Unit := { primary := "a,b", target := .object () }
    let plain : Registration Unit := { primary := "c", target := .object () }
    let spaced : Registration Unit :=
      { primary := " c", target := .object (), signature := ⟨.void, .any⟩ }
    let store := Store.empty.offerAll [listed, plain, spaced]
    let lookup (name : String) := ((Catalog.base.lookup none name []).run store).value
    "a,b" ∈ store.names none ∧ store.get? "a,b" = some listed ∧ lookup "a,b" = none ∧
      " c" ∈ store.names none ∧ store.get? " c" = some spaced ∧
      (lookup " c").map Pipeline.stages = some [plain] := by
  decide

end NamedFunctions.Store
