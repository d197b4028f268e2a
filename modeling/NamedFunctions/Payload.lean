/-! # Payloads

The values that functions take and give belong to the host of the objects. A function passes them on
and never looks into them, so a type of payloads only has to name one that stands for no value. -/
namespace NamedFunctions

class HasNull (Payload : Type) where
  null : Payload

end NamedFunctions
