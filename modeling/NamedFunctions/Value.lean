import NamedFunctions.Payload

/-! # Values

The payload of scripted objects. Integers have any size here, and a key may be given more than once;
there are no floats. -/
namespace NamedFunctions

inductive Value where
  | null
  | bool (value : Bool)
  | int (value : Int)
  | text (value : String)
  | array (items : List Value)
  /-- Keyed values, in the order in which they were given. -/
  | object (entries : List (String × Value))
  deriving Inhabited

instance : HasNull Value := ⟨.null⟩

end NamedFunctions
