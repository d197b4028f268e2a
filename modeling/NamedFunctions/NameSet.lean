import Std.Data.TreeSet

/-! # Sets of names

Names in the order of their code points. -/
namespace NamedFunctions

abbrev NameSet := Std.TreeSet String

namespace NameSet

def ofList (names : List String) : NameSet :=
  Std.TreeSet.ofList names

def union (a b : NameSet) : NameSet :=
  a.insertMany b.toList

@[simp] theorem mem_ofList {names : List String} {name : String} :
    name ∈ ofList names ↔ name ∈ names := by
  simp [ofList, Std.TreeSet.mem_ofList]

@[simp] theorem mem_union {a b : NameSet} {name : String} : name ∈ a.union b ↔ name ∈ a ∨ name ∈ b := by
  simp [union, Std.TreeSet.mem_insertMany_list]

end NameSet

end NamedFunctions
