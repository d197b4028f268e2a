import NamedFunctions.Proofs.AliasResolution

/-! # What a qualifier matches

A qualifier is attached to names, and a name or the one it leads to may or may not hold a component.
What is looked up by a qualifier should be settled by the components that its names come to: none, the
only one, or an ambiguity between several. An answer that is a component or nothing is settled in that
way. But an ambiguity is answered for every qualifier that was attached twice, be it to one name, to a
name and its alias, or to names without a component. So the answer is as it should be exactly if the
qualifier was attached at most once or matches several names. -/
namespace NamedFunctions

variable {Obj : Type}

/-- The name that the declaration attaches the qualifier to. -/
def Declaration.attached? (qualifier : String) : Declaration Obj → Option String
  | .qualifier name own => if own = qualifier then some name else none
  | .component .. | .defined .. | .definition .. | .aliased .. | .factory .. => none

namespace Declarations

/-- The names that a run attaches a qualifier to, in order, each as often as it does. -/
def attachedTo (list : List (Declaration Obj)) (qualifier : String) : List String :=
  list.filterMap (Declaration.attached? qualifier)

/-- The qualifier is attached to a name that leads to this one, which holds the component. -/
def Matches (list : List (Declaration Obj)) (qualifier name : String) (component : Component Obj) :
    Prop :=
  (∃ attached, .qualifier attached qualifier ∈ list ∧ (ofList list).canonical attached = name) ∧
    lastComponent list name = some component

def SeveralMatch (list : List (Declaration Obj)) (qualifier : String) : Prop :=
  ∃ first second component other, first ≠ second ∧ Matches list qualifier first component ∧
    Matches list qualifier second other

/-- The answer is an ambiguity exactly between several matching names; the only one's component, and
nothing if there is none, is answered as such. -/
structure SettledByMatches (list : List (Declaration Obj)) (qualifier : String)
    (answer : Except QualifierError (Option (Component Obj))) : Prop where
  error_iff : (∃ matched, answer = .error (.ambiguous qualifier matched)) ↔
    SeveralMatch list qualifier
  ok_some : ∀ name component, Matches list qualifier name component →
    (∀ other componentToo, Matches list qualifier other componentToo → other = name) →
    answer = .ok (some component)
  ok_none : (∀ name component, ¬Matches list qualifier name component) → answer = .ok none

variable {list : List (Declaration Obj)} {qualifier name : String} {component : Component Obj}

/-! ## What a qualifier is attached to -/

theorem mem_attachedTo : name ∈ attachedTo list qualifier ↔ .qualifier name qualifier ∈ list := by
  rw [attachedTo, List.mem_filterMap]
  constructor
  · rintro ⟨declaration, hm, hattached⟩
    cases declaration with
    | qualifier own other =>
      obtain ⟨rfl, rfl⟩ : other = qualifier ∧ own = name := by
        simpa [Declaration.attached?] using hattached
      exact hm
    | component | defined | definition | aliased | factory => cases hattached
  · exact fun hm => ⟨_, hm, if_pos rfl⟩

theorem getD_qualifiers_add (declarations : Declarations Obj) (declaration : Declaration Obj)
    (qualifier : String) :
    (declarations.add declaration).qualifiers.getD qualifier [] =
      declarations.qualifiers.getD qualifier [] ++ (declaration.attached? qualifier).toList := by
  cases declaration with
  | qualifier => exact getD_push ..
  | component | defined | definition | aliased | factory => exact (List.append_nil _).symm

theorem getD_qualifiers (list : List (Declaration Obj)) (qualifier : String) :
    (ofList list).qualifiers.getD qualifier [] = attachedTo list qualifier := by
  induction list using List.reverseRecOn with
  | nil => rfl
  | append_singleton earlier last ih =>
    rw [ofList_concat, getD_qualifiers_add, ih, attachedTo, attachedTo, List.filterMap_append]
    cases h : last.attached? qualifier <;> simp [h]

theorem qualified_ofList (list : List (Declaration Obj)) (qualifier : String) :
    (ofList list).qualified qualifier =
      match attachedTo list qualifier with
      | [] => .ok none
      | [name] => .ok (lastComponent list ((ofList list).canonical name))
      | names => .error (.ambiguous qualifier names.length) := by
  rw [qualified, getD_qualifiers]
  match attachedTo list qualifier with
  | [] => rfl
  | [name] => exact congrArg Except.ok (getElem?_entries list _).1
  | _ :: _ :: _ => rfl

/-! ## What it matches -/

theorem Matches.unique {other : Component Obj} (h : Matches list qualifier name component)
    (hother : Matches list qualifier name other) : component = other :=
  Option.some.inj (h.2.symm.trans hother.2)

theorem not_matches_of_attachedTo_eq_nil (h : attachedTo list qualifier = []) :
    ¬Matches list qualifier name component := by
  rintro ⟨⟨attached, hm, -⟩, -⟩
  rw [← mem_attachedTo, h] at hm
  cases hm

theorem matches_iff_of_attachedTo_eq {attached : String} (h : attachedTo list qualifier = [attached]) :
    Matches list qualifier name component ↔
      name = (ofList list).canonical attached ∧ lastComponent list name = some component := by
  refine and_congr_left fun _ => ?_
  simp only [← mem_attachedTo, h, List.mem_singleton, exists_eq_left]
  exact eq_comm

theorem not_severalMatch_of_length_le (h : (attachedTo list qualifier).length ≤ 1) :
    ¬SeveralMatch list qualifier := by
  rintro ⟨first, second, component, other, hne, hfirst, hsecond⟩
  cases hattached : attachedTo list qualifier with
  | nil => exact not_matches_of_attachedTo_eq_nil hattached hfirst
  | cons attached rest =>
    obtain rfl : rest = [] := by simpa [hattached] using h
    rw [matches_iff_of_attachedTo_eq hattached] at hfirst hsecond
    exact hne (hfirst.1.trans hsecond.1.symm)

theorem qualified_eq_error_iff (list : List (Declaration Obj)) (qualifier : String) (matched : Nat) :
    (ofList list).qualified qualifier = .error (.ambiguous qualifier matched) ↔
      matched = (attachedTo list qualifier).length ∧ 2 ≤ matched := by
  rw [qualified_ofList]
  match attachedTo list qualifier with
  | [] | [_] =>
    refine iff_of_false (by simp) ?_
    rintro ⟨rfl, htwo⟩
    simp at htwo
  | _ :: _ :: _ =>
    simp only [Except.error.injEq, QualifierError.ambiguous.injEq, true_and, List.length_cons]
    omega

theorem settledByMatches_of_length_le (h : (attachedTo list qualifier).length ≤ 1) :
    SettledByMatches list qualifier ((ofList list).qualified qualifier) := by
  have hseveral := not_severalMatch_of_length_le h
  refine ⟨iff_of_false ?_ hseveral, fun name component hm _ => ?_, fun hnone => ?_⟩
  · rintro ⟨matched, herror⟩
    obtain ⟨rfl, htwo⟩ := (qualified_eq_error_iff list qualifier matched).1 herror
    omega
  · rw [qualified_ofList]
    cases hattached : attachedTo list qualifier with
    | nil => exact (not_matches_of_attachedTo_eq_nil hattached hm).elim
    | cons attached rest =>
      obtain rfl : rest = [] := by simpa [hattached] using h
      obtain ⟨rfl, hcomponent⟩ := (matches_iff_of_attachedTo_eq hattached).1 hm
      exact congrArg Except.ok hcomponent
  · rw [qualified_ofList]
    cases hattached : attachedTo list qualifier with
    | nil => rfl
    | cons attached rest =>
      obtain rfl : rest = [] := by simpa [hattached] using h
      refine congrArg Except.ok (Option.eq_none_iff_forall_ne_some.2 fun component hcomponent => ?_)
      exact hnone _ component ((matches_iff_of_attachedTo_eq hattached).2 ⟨rfl, hcomponent⟩)

theorem settledByMatches_of_severalMatch (h : SeveralMatch list qualifier) :
    SettledByMatches list qualifier ((ofList list).qualified qualifier) := by
  have htwo : 2 ≤ (attachedTo list qualifier).length := by
    by_contra hfew
    exact not_severalMatch_of_length_le (by omega) h
  have herror := (qualified_eq_error_iff list qualifier _).2 ⟨rfl, htwo⟩
  obtain ⟨first, second, component, other, hne, hfirst, hsecond⟩ := id h
  refine ⟨iff_of_true ⟨_, herror⟩ h, fun name _ _ honly => ?_, fun hnone => ?_⟩
  · exact (hne ((honly first component hfirst).trans (honly second other hsecond).symm)).elim
  · exact (hnone first component hfirst).elim

variable [Described Obj]

/-- A qualifier is ambiguous exactly if it was attached more than once, and otherwise it is
settled by the names that it matches. An ambiguity between several matches is never missed. -/
theorem qualifier_settled_iff (list : List (Declaration Obj)) (qualifier : String) :
    let answer := (ofList list).registry (.qualified qualifier)
    let attached := attachedTo list qualifier
    (∀ matched, answer = .error (.ambiguous qualifier matched) ↔
        matched = attached.length ∧ 2 ≤ matched) ∧
      (∀ found, answer = .ok found → SettledByMatches list qualifier answer) ∧
      (SettledByMatches list qualifier answer ↔
        attached.length ≤ 1 ∨ SeveralMatch list qualifier) := by
  intro answer attached
  have herror := qualified_eq_error_iff list qualifier
  refine ⟨herror, fun found hok => ?_, fun h => ?_, ?_⟩
  · refine settledByMatches_of_length_le (Nat.le_of_not_lt fun htwo => ?_)
    have hambiguous := (herror _).2 ⟨rfl, htwo⟩
    exact absurd (hok.symm.trans hambiguous) (by simp)
  · rcases Nat.lt_or_ge attached.length 2 with hone | htwo
    · exact .inl (Nat.le_of_lt_succ hone)
    · exact .inr (h.error_iff.1 ⟨_, (herror _).2 ⟨rfl, htwo⟩⟩)
  · rintro (hone | hseveral)
    · exact settledByMatches_of_length_le hone
    · exact settledByMatches_of_severalMatch hseveral

/-- One qualifier is attached to an alias alone, the other to the alias and to another component. -/
theorem qualifier_settled_iff_alias :
    let upper : Component Scripted.Object :=
      .bare (.object (.function 0 ⟨.transform, "Upper", .upper, none, {}⟩))
    let list : List (Declaration Scripted.Object) :=
      [.qualifier "b" "loud", .component "a" upper, .aliased "a" "b", .component "c" upper,
        .qualifier "b" "both", .qualifier "c" "both"]
    let registry := (ofList list).registry
    registry (.qualified "loud") = .ok (some upper) ∧
      SettledByMatches list "loud" (registry (.qualified "loud")) ∧
      Matches list "both" "a" upper ∧ Matches list "both" "c" upper ∧
      SettledByMatches list "both" (registry (.qualified "both")) ∧
      registry (.qualified "both") = .error (.ambiguous "both" 2) := by
  intro upper list registry
  have hloud : registry (.qualified "loud") = .ok (some upper) := by
    unfold registry list upper
    rfl
  have halias : Matches list "both" "a" upper := ⟨⟨"b", by simp [list], by decide⟩, rfl⟩
  have hother : Matches list "both" "c" upper := ⟨⟨"c", by simp [list], by decide⟩, rfl⟩
  have hseveral : SeveralMatch list "both" :=
    ⟨"a", "c", upper, upper, by decide, halias, hother⟩
  obtain ⟨-, hok, -⟩ := qualifier_settled_iff list "loud"
  obtain ⟨herror, -, hsettled⟩ := qualifier_settled_iff list "both"
  exact ⟨hloud, hok _ hloud, halias, hother, hsettled.2 (.inr hseveral),
    (herror 2).2 ⟨by decide, Nat.le_refl 2⟩⟩

/-- A qualifier that was attached to a component and to its alias is ambiguous though it matches one
component, and so is one that matches nothing. -/
theorem qualifier_ambiguous_alone :
    let upper : Component Scripted.Object :=
      .bare (.object (.function 0 ⟨.transform, "Upper", .upper, none, {}⟩))
    let list : List (Declaration Scripted.Object) :=
      [.component "a" upper, .aliased "a" "b", .qualifier "a" "loud", .qualifier "b" "loud",
        .qualifier "x" "quiet", .qualifier "y" "quiet"]
    let registry := (ofList list).registry
    (Matches list "loud" "a" upper ∧
        (∀ name component, Matches list "loud" name component → name = "a") ∧
        registry (.qualified "loud") = .error (.ambiguous "loud" 2)) ∧
      (∀ name component, ¬Matches list "quiet" name component) ∧
        registry (.qualified "quiet") = .error (.ambiguous "quiet" 2) := by
  intro upper list registry
  have hambiguous {qualifier : String} (h : (attachedTo list qualifier).length = 2) :
      registry (.qualified qualifier) = .error (.ambiguous qualifier 2) :=
    (qualified_eq_error_iff list qualifier 2).2 ⟨h.symm, Nat.le_refl 2⟩
  refine ⟨⟨⟨⟨"a", by simp [list], by decide⟩, rfl⟩, ?_, hambiguous rfl⟩, ?_, hambiguous rfl⟩
  · rintro name component ⟨⟨attached, hm, rfl⟩, -⟩
    have hattached : attached = "a" ∨ attached = "b" := by simpa [list] using hm
    rcases hattached with rfl | rfl <;> decide
  · rintro name component ⟨⟨attached, hm, rfl⟩, hcomponent⟩
    have hattached : attached = "x" ∨ attached = "y" := by simpa [list] using hm
    have hnone : lastComponent list ((ofList list).canonical attached) = none := by
      rcases hattached with rfl | rfl <;> rfl
    rw [hnone] at hcomponent
    cases hcomponent

end Declarations

end NamedFunctions
