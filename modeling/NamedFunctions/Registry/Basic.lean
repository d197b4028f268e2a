import NamedFunctions.Component
import NamedFunctions.NameSet

/-! # Component registries

A component registry is known only by its answers to nine kinds of query. An inquiry is a
computation that may ask; it keeps the queries it asked, in order, beside its result. -/
namespace NamedFunctions

inductive Query where
  /-- Is there a component, or an alias of one, with this name? -/
  | contains (name : String)
  /-- The component with this name or alias. -/
  | fetch (name : String)
  /-- The component that carries this qualifier. -/
  | qualified (qualifier : String)
  /-- The names of the components that natively have this capability. -/
  | capable (kind : Kind)
  /-- The other names of the alias group that this name belongs to. -/
  | aliases (name : String)
  /-- Is there a definition under exactly this name? -/
  | hasDefinition (name : String)
  /-- Is this name bound to a factory? -/
  | isFactory (name : String)
  /-- The class of what the factory bound to this name produces. -/
  | produced (name : String)
  /-- The signature declared on the definition of this name. -/
  | declared (name : String)
  deriving DecidableEq, Repr

/-- Why a qualifier does not lead to one component. -/
inductive QualifierError where
  | ambiguous (qualifier : String) (matched : Nat)
  deriving DecidableEq, Repr

namespace QualifierError

def message : QualifierError → String
  | ambiguous qualifier matched =>
    "qualifier '" ++ qualifier ++ "' matches " ++ toString matched ++ " components"

end QualifierError

@[reducible] def Query.Answer (Obj : Type) : Query → Type
  | contains _ | hasDefinition _ | isFactory _ => Bool
  | fetch _ => Option (Component Obj)
  | qualified _ => Except QualifierError (Option (Component Obj))
  | capable _ => NameSet
  | aliases _ => List String
  | produced _ => Option ObjectClass
  | declared _ => Option Signature

abbrev Registry (Obj : Type) : Type :=
  (query : Query) → query.Answer Obj

/-- A result together with the queries that were asked on the way to it. -/
structure Inquiry (α : Type) where
  value : α
  asked : List Query

namespace Inquiry

variable {α β : Type}

instance : Monad Inquiry where
  pure a := ⟨a, []⟩
  bind i next := ⟨(next i.value).value, i.asked ++ (next i.value).asked⟩

@[simp] theorem value_pure (a : α) : (pure a : Inquiry α).value = a := rfl

@[simp] theorem asked_pure (a : α) : (pure a : Inquiry α).asked = [] := rfl

@[simp] theorem value_bind (i : Inquiry α) (next : α → Inquiry β) :
    (i >>= next).value = (next i.value).value := rfl

@[simp] theorem asked_bind (i : Inquiry α) (next : α → Inquiry β) :
    (i >>= next).asked = i.asked ++ (next i.value).asked := rfl

@[simp] theorem value_map (f : α → β) (i : Inquiry α) : (f <$> i).value = f i.value := rfl

@[simp] theorem asked_map (f : α → β) (i : Inquiry α) : (f <$> i).asked = i.asked := by
  simp [Functor.map]

instance : LawfulMonad Inquiry :=
  LawfulMonad.mk' Inquiry
    (fun _ => by simp [Functor.map])
    (fun _ _ => by simp [Bind.bind, Pure.pure])
    (fun _ _ _ => by simp [Bind.bind, List.append_assoc])

end Inquiry

namespace Registry

variable {Obj : Type}

def ask (registry : Registry Obj) (query : Query) : Inquiry (query.Answer Obj) :=
  ⟨registry query, [query]⟩

@[simp] theorem value_ask (registry : Registry Obj) (query : Query) :
    (registry.ask query).value = registry query := rfl

@[simp] theorem asked_ask (registry : Registry Obj) (query : Query) :
    (registry.ask query).asked = [query] := rfl

def empty : Registry Obj
  | .contains _ | .hasDefinition _ | .isFactory _ => false
  | .fetch _ | .produced _ | .declared _ => none
  | .qualified _ => .ok none
  | .capable _ => {}
  | .aliases _ => []

/-- Answers as before, except that it hands nothing out under the given names. -/
def withholding (registry : Registry Obj) (names : List String) : Registry Obj
  | .fetch name => if name ∈ names then none else registry (.fetch name)
  | query => registry query

end Registry

end NamedFunctions
