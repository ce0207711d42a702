import SchemaFold.Assoc
import SchemaFold.Grammar.Name
import SchemaFold.Text.Quoted

/-! Scalars and the types they stand for. The five built-in scalars always have the same type. A
custom scalar is declared under its own name, with the type registered for it or with any type. -/

namespace SchemaFold

def Scalar.builtins : List (String × String) :=
  [("ID", "string"), ("String", "string"), ("Boolean", "boolean"), ("Int", "number"),
    ("Float", "number")]

def Scalar.isBuiltin (name : String) : Bool :=
  (Assoc.get? name Scalar.builtins).isSome

/-- The type name that a reference to `name` is written as. -/
def Scalar.resolve (name : String) : String :=
  (Assoc.get? name Scalar.builtins).getD name

/-- Scalars whose type is written by hand elsewhere unless settings say otherwise. -/
def Scalar.defaultHandTyped : List String :=
  ["Date"]

/-- The type of a custom scalar with none registered. -/
def Scalar.anyType : String :=
  "any"

structure Registry where
  custom : List (String × String)
  handTyped : List String
  deriving DecidableEq, Repr

/-- Why a scalar is not registered. -/
inductive Registry.Refusal where
  | builtin (name : String)
  | invalidName (name : String)
  deriving DecidableEq, Repr

def Registry.Refusal.message : Registry.Refusal → String
  | .builtin name => "Cannot remap built-in scalar " ++ Text.quoted name
  | .invalidName name => "Invalid GraphQL name: " ++ Text.quoted name

def Registry.register (r : Registry) (name type : String) : Except Registry.Refusal Registry :=
  if Scalar.isBuiltin name then .error (.builtin name)
  else if !Name.accepted name then .error (.invalidName name)
  else .ok { r with custom := Assoc.put name type r.custom }

/-- A registry with these types, registered in order. -/
def Registry.build (custom : List (String × String))
    (handTyped : List String := Scalar.defaultHandTyped) : Except Registry.Refusal Registry :=
  custom.foldlM (fun r (name, type) => r.register name type) ⟨[], handTyped⟩

def Registry.get? (r : Registry) (name : String) : Option String :=
  Assoc.get? name r.custom

def Registry.isHandTyped (r : Registry) (name : String) : Bool :=
  r.handTyped.contains name

/-- The right-hand side of a custom scalar's alias. An empty type counts as none. -/
def Registry.declaredType (r : Registry) (name : String) : String :=
  match r.get? name with
  | some type => if type.isEmpty then Scalar.anyType else type
  | none => Scalar.anyType

end SchemaFold
