import NamedFunctions.Registry.Basic
import Std.Data.TreeMap

/-! # Declared registries

A registry held in memory, built by declarations one after another. A component replaces an earlier
one of its name and an alias leads to the name it was last declared for; alias groups and qualifiers
only ever grow. An alias is followed once: an alias of an alias does not lead further. -/
namespace NamedFunctions

inductive Declaration (Obj : Type) where
  | component (name : String) (component : Component Obj)
  /-- A component together with its definition. -/
  | defined (name : String) (component : Component Obj) (declared : Option Signature)
  | definition (name : String) (declared : Option Signature)
  /-- Makes a further name lead to a name. -/
  | aliased (name extra : String)
  /-- A component that a factory produced, and what the factory says it produces. -/
  | factory (name : String) (component : Component Obj) (produced : Option ObjectClass)
  /-- Attaches a qualifier to a name. -/
  | qualifier (name qualifier : String)

structure Declarations (Obj : Type) where
  components : Std.TreeMap String (Component Obj) := {}
  /-- Alias to the name it leads to. -/
  aliasTargets : Std.TreeMap String String := {}
  /-- Name to the aliases declared for it, in order of declaration. -/
  aliasGroups : Std.TreeMap String (List String) := {}
  definitions : Std.TreeMap String (Option Signature) := {}
  factories : Std.TreeMap String (Option ObjectClass) := {}
  /-- Qualifier to the names it was attached to, in order of declaration. -/
  qualifiers : Std.TreeMap String (List String) := {}

namespace Declarations

variable {Obj : Type}

def push (lists : Std.TreeMap String (List String)) (key item : String) :
    Std.TreeMap String (List String) :=
  lists.insert key (lists.getD key [] ++ [item])

def withComponent (declarations : Declarations Obj) (name : String) (component : Component Obj) :
    Declarations Obj :=
  { declarations with components := declarations.components.insert name component }

def withDefinition (declarations : Declarations Obj) (name : String)
    (declared : Option Signature) : Declarations Obj :=
  { declarations with definitions := declarations.definitions.insert name declared }

def add (declarations : Declarations Obj) : Declaration Obj → Declarations Obj
  | .component name component => declarations.withComponent name component
  | .defined name component declared =>
    (declarations.withComponent name component).withDefinition name declared
  | .definition name declared => declarations.withDefinition name declared
  | .aliased name extra =>
    { declarations with
      aliasTargets := declarations.aliasTargets.insert extra name
      aliasGroups := push declarations.aliasGroups name extra }
  | .factory name component produced =>
    { declarations.withComponent name component with
      factories := declarations.factories.insert name produced }
  | .qualifier name qualifier =>
    { declarations with qualifiers := push declarations.qualifiers qualifier name }

def ofList (list : List (Declaration Obj)) : Declarations Obj :=
  list.foldl add {}

/-- The name that an alias leads to; any other name stands for itself. -/
def canonical (declarations : Declarations Obj) (name : String) : String :=
  declarations.aliasTargets.getD name name

def fetch (declarations : Declarations Obj) (name : String) : Option (Component Obj) :=
  declarations.components[declarations.canonical name]?

/-- A qualifier attached more than once is ambiguous, whatever it was attached to. -/
def qualified (declarations : Declarations Obj) (qualifier : String) :
    Except QualifierError (Option (Component Obj)) :=
  match declarations.qualifiers.getD qualifier [] with
  | [] => .ok none
  | [name] => .ok (declarations.fetch name)
  | names => .error (.ambiguous qualifier names.length)

/-- A bare component whose class has the capability. -/
def isCapable [Described Obj] (kind : Kind) : Component Obj → Bool
  | .bare target => target.classOf.capabilities.has kind
  | .registration _ => false

def capable [Described Obj] (declarations : Declarations Obj) (kind : Kind) : NameSet :=
  .ofList <| (declarations.components.toList.filter fun entry => isCapable kind entry.2).map Prod.fst

/-- The other members of the alias group, its head first; a name without aliases has no group. -/
def aliasesOf (declarations : Declarations Obj) (name : String) : List String :=
  let head := declarations.canonical name
  match declarations.aliasGroups[head]? with
  | none => []
  | some group => (head :: group).filter (· ≠ name)

def registry [Described Obj] (declarations : Declarations Obj) : Registry Obj
  | .contains name => (declarations.fetch name).isSome
  | .fetch name => declarations.fetch name
  | .qualified qualifier => declarations.qualified qualifier
  | .capable kind => declarations.capable kind
  | .aliases name => declarations.aliasesOf name
  | .hasDefinition name => declarations.definitions.contains name
  | .isFactory name => declarations.factories.contains (declarations.canonical name)
  | .produced name => (declarations.factories[declarations.canonical name]?).join
  | .declared name => (declarations.definitions[name]?).join

theorem getD_push (lists : Std.TreeMap String (List String)) (key item other : String) :
    (push lists key item).getD other [] =
      lists.getD other [] ++ (if key = other then some item else none).toList := by
  rw [push, Std.TreeMap.getD_insert]
  by_cases h : key = other
  · simp [h]
  · simp [h]

@[simp] theorem ofList_nil : ofList ([] : List (Declaration Obj)) = {} := rfl

theorem ofList_concat (list : List (Declaration Obj)) (last : Declaration Obj) :
    ofList (list ++ [last]) = (ofList list).add last := by
  simp [ofList]

end Declarations

end NamedFunctions
