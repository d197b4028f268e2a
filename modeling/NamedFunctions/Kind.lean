/-! # Kinds of function

A function is a producer, a transform or a consumer, and a class implements any set of these
capabilities natively. -/
namespace NamedFunctions

inductive Kind where
  /-- Takes no input. -/
  | producer
  /-- Maps an input to an output. -/
  | transform
  /-- Takes an input and yields no output. -/
  | consumer
  deriving DecidableEq, Repr

namespace Kind

def all : List Kind := [producer, transform, consumer]

/-- The word that events and answers use for the kind. -/
def label : Kind → String
  | producer => "producer"
  | transform => "transform"
  | consumer => "consumer"

theorem mem_all (kind : Kind) : kind ∈ all := by cases kind <;> decide

end Kind

/-- The kinds in which a class can be called natively. There are no members but the three kinds: a mask
with other bits set is no set of capabilities here. -/
structure Capabilities where
  producer : Bool := false
  transform : Bool := false
  consumer : Bool := false
  deriving DecidableEq, Repr

namespace Capabilities

def none : Capabilities := {}

def has (capabilities : Capabilities) : Kind → Bool
  | .producer => capabilities.producer
  | .transform => capabilities.transform
  | .consumer => capabilities.consumer

def insert (capabilities : Capabilities) : Kind → Capabilities
  | .producer => { capabilities with producer := true }
  | .transform => { capabilities with transform := true }
  | .consumer => { capabilities with consumer := true }

def only (kind : Kind) : Capabilities :=
  none.insert kind

def ofList (kinds : List Kind) : Capabilities :=
  kinds.foldl insert none

/-- The set as a bit mask: producer 1, transform 2, consumer 4. -/
def bits (capabilities : Capabilities) : Nat :=
  capabilities.producer.toNat + 2 * capabilities.transform.toNat + 4 * capabilities.consumer.toNat

@[simp] theorem has_none (kind : Kind) : none.has kind = false := by cases kind <;> rfl

@[simp] theorem has_insert (capabilities : Capabilities) (a b : Kind) :
    (capabilities.insert a).has b = (capabilities.has b || a == b) := by
  cases a <;> cases b <;> simp [insert, has]

@[simp] theorem only_inj {a b : Kind} : only a = only b ↔ a = b := by
  cases a <;> cases b <;> decide

theorem has_foldl_insert (kinds : List Kind) (capabilities : Capabilities) (kind : Kind) :
    (kinds.foldl insert capabilities).has kind = (capabilities.has kind || kinds.contains kind) := by
  induction kinds generalizing capabilities with
  | nil => simp
  | cons k kinds ih => rw [List.foldl_cons, ih, has_insert, List.contains_cons, Bool.or_assoc, Bool.beq_comm]

@[simp] theorem has_ofList (kinds : List Kind) (kind : Kind) :
    (ofList kinds).has kind = kinds.contains kind := by
  simp [ofList, has_foldl_insert]

end Capabilities

end NamedFunctions
