import NamedFunctions.Component
import NamedFunctions.FunctionObject
import NamedFunctions.Text.Escaped

/-! # Descriptions

The one-line texts that show a component to people. Names and classes are quoted. -/
namespace NamedFunctions

open NamedFunctions.Text

/-- A type name and its named parts between braces. -/
def describeFields (name : String) (parts : List String) : String :=
  name ++ " \x7b " ++ String.intercalate ", " parts ++ " \x7d"

def Shape.describe : Shape → String
  | unresolved => "Unresolved"
  | any => "Any"
  | void => "Void"
  | named name => "Named(" ++ quoted name ++ ")"

def Signature.describe (signature : Signature) : String :=
  describeFields "FunctionType"
    ["input: " ++ signature.input.describe, "output: " ++ signature.output.describe]

def Registration.describe {Obj : Type} [Described Obj] (registration : Registration Obj) : String :=
  describeFields "Registration"
    ["names: [" ++ String.intercalate ", " (registration.names.map quoted) ++ "]",
      "class: " ++ quoted registration.target.classOf.name,
      "type: " ++ registration.signature.describe]

/-- A registration in full; of a bare target only the class. -/
def Component.describe {Obj : Type} [Described Obj] : Component Obj → String
  | registration r => "Registration(" ++ r.describe ++ ")"
  | bare target => "Instance(" ++ quoted target.classOf.name ++ ")"

/-- A function object shows its class and hides its body. -/
def FunctionObject.describe {Body : Type} (object : FunctionObject Body) : String :=
  describeFields "FnInstance" ["class: " ++ quoted object.className, ".."]

end NamedFunctions
