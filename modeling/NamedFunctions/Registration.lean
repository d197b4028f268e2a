import NamedFunctions.Target

/-! # Registrations

A registration offers a target under a primary name and any number of aliases, no name twice. -/
namespace NamedFunctions

structure Registration (Obj : Type) where
  primary : String
  aliases : List String := []
  target : Target Obj
  signature : Signature := .unresolved
  names_nodup : (primary :: aliases).Nodup := by simp
  deriving DecidableEq

namespace Registration

variable {Obj : Type}

/-- The primary name followed by the aliases. -/
def names (registration : Registration Obj) : List String :=
  registration.primary :: registration.aliases

def kind (registration : Registration Obj) : Kind :=
  registration.signature.kind

def withSignature (registration : Registration Obj) (signature : Signature) : Registration Obj :=
  { registration with signature }

/-- Adds a name at the end; a name that is already there stays where it is. -/
def withAlias (registration : Registration Obj) (extra : String) : Registration Obj :=
  if h : extra ∈ registration.names then registration
  else
    { registration with
      aliases := registration.aliases ++ [extra]
      names_nodup := by
        rw [← List.cons_append]
        exact List.nodup_append.2 ⟨registration.names_nodup, by simp, by grind [names]⟩ }

def withAliases (registration : Registration Obj) (extra : List String) : Registration Obj :=
  extra.foldl withAlias registration

theorem nodup_names (registration : Registration Obj) : registration.names.Nodup :=
  registration.names_nodup

theorem names_withAlias (registration : Registration Obj) (extra : String) :
    (registration.withAlias extra).names =
      if extra ∈ registration.names then registration.names else registration.names ++ [extra] := by
  unfold withAlias
  split <;> simp_all [names]

end Registration

end NamedFunctions
