import NamedFunctions.Kind

/-! # Signatures

The shape of one side of a function, and the pair of shapes that is its signature. The kind of a
function is read off its signature. -/
namespace NamedFunctions

/-- What is known about the input or the output of a function. -/
inductive Shape where
  /-- Nothing is known yet. -/
  | unresolved
  /-- The top type: any value. -/
  | any
  /-- No value: the input of a producer, the output of a consumer. -/
  | void
  /-- A concrete type, by name. -/
  | named (name : String)
  deriving DecidableEq, Repr

namespace Shape

def isUnresolved : Shape → Bool
  | unresolved => true
  | _ => false

/-- A shape that says something more precise than "any value". -/
def isConcrete : Shape → Bool
  | void | named _ => true
  | unresolved | any => false

/-- A resolved shape is kept; an unresolved one takes the other. -/
def orElse (shape other : Shape) : Shape :=
  if shape.isUnresolved then other else shape

def text : Shape → String
  | unresolved => "?"
  | any => "any"
  | void => "()"
  | named name => name

@[simp] theorem isUnresolved_iff {shape : Shape} : shape.isUnresolved = true ↔ shape = unresolved := by
  cases shape <;> simp [isUnresolved]

@[simp] theorem unresolved_orElse (other : Shape) : unresolved.orElse other = other := rfl

@[simp] theorem orElse_unresolved (shape : Shape) : shape.orElse unresolved = shape := by
  cases shape <;> rfl

theorem orElse_eq_void {shape other : Shape} :
    shape.orElse other = void ↔ shape = void ∨ shape = unresolved ∧ other = void := by
  cases shape <;> simp [orElse, isUnresolved]

theorem orElse_of_isConcrete {shape : Shape} (other : Shape) (h : shape.isConcrete = true) :
    shape.orElse other = shape := by
  cases shape <;> simp_all [orElse, isUnresolved, isConcrete]

end Shape

structure Signature where
  input : Shape := .unresolved
  output : Shape := .unresolved
  deriving DecidableEq, Repr

namespace Signature

def unresolved : Signature := {}

def producer (output : Shape) : Signature := ⟨.void, output⟩

def transform (input output : Shape) : Signature := ⟨input, output⟩

def consumer (input : Shape) : Signature := ⟨input, .void⟩

/-- No input makes a producer, even without an output; else no output makes a consumer. -/
def kind : Signature → Kind
  | ⟨.void, _⟩ => .producer
  | ⟨_, .void⟩ => .consumer
  | _ => .transform

def isUnresolved (signature : Signature) : Bool :=
  signature.input.isUnresolved && signature.output.isUnresolved

/-- Fills the unresolved sides from another signature. -/
def refine (signature other : Signature) : Signature :=
  ⟨signature.input.orElse other.input, signature.output.orElse other.output⟩

def text (signature : Signature) : String :=
  signature.input.text ++ " -> " ++ signature.output.text

theorem kind_eq_producer {signature : Signature} :
    signature.kind = .producer ↔ signature.input = .void := by
  rcases signature with ⟨input, output⟩
  cases input <;> cases output <;> simp [kind]

theorem kind_eq_consumer {signature : Signature} :
    signature.kind = .consumer ↔ signature.input ≠ .void ∧ signature.output = .void := by
  rcases signature with ⟨input, output⟩
  cases input <;> cases output <;> simp [kind]

theorem kind_eq_transform {signature : Signature} :
    signature.kind = .transform ↔ signature.input ≠ .void ∧ signature.output ≠ .void := by
  rcases signature with ⟨input, output⟩
  cases input <;> cases output <;> simp [kind]

@[simp] theorem refine_unresolved (signature : Signature) : signature.refine unresolved = signature := by
  simp [refine, unresolved]

end Signature

end NamedFunctions
