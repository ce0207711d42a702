import SchemaFold.Settings
import SchemaFold.Template.Render
import SchemaFold.Template.Set

/-! What a node folds into, once its children are folded: names and types become text, field
definitions become lines, type definitions become declarations or are left out. -/

namespace SchemaFold

namespace Fold

/-- What a tree can have that no document has. -/
inductive Fault where
  | missingType (node found : Value)
  | untypedField (name found : Value)
  | notDocument (found : Value)
  | notNode (found : Value)
  | notList (found : Value)
  | notKey
  | noPart (part : Part) (found : Value)
  | noRule (label : String)
  | template (f : Template.Fault)

def Fault.message : Fault → String
  | .missingType node found =>
    "Expected a folded type inside " ++ node.label ++ ", got " ++ found.quoted
  | .untypedField name found =>
    "Field " ++ name.quoted ++ " has no usable type, got " ++ found.quoted
  | .notDocument found => "Expected the document to fold into a list, got " ++ found.quoted
  | .notNode found => "Invalid AST Node: " ++ found.exhibit ++ "."
  | .notList found => "'" ++ found.sort ++ "' object is not iterable"
  | .notKey => "unhashable type: 'list'"
  | .noPart part found => "'" ++ found.sort ++ "' object has no attribute '" ++ part.key ++ "'"
  | .noRule label => "'TypeScriptFolder' object has no attribute 'leave_" ++ label ++ "'"
  | .template f => f.message

structure Rules where
  settings : Settings
  registry : Registry
  roots : List Value
  templates : TemplateSet

def items (v : Value) : Except Fault (List Value) :=
  match v.items? with
  | some items => .ok items
  | none => .error (.notList v)

/-- The items of a part that may be left out. -/
def itemsOrNone (v : Value) : Except Fault (List Value) :=
  if v.isEmpty then .ok [] else items v

/-- A part of a node. What a type has in common with a node is its text. -/
def partOf (p : Part) : Value → Except Fault Value
  | .node kind parts =>
    match parts.find? (·.1 == p) with
    | some (_, v) => .ok v
    | none => .error (.noPart p (.node kind parts))
  | .type t => if p = .type then .ok (.text t.text) else .error (.noPart p (.type t))
  | v => .error (.noPart p v)

/-- A value that is to be looked up. -/
def key (v : Value) : Except Fault Value :=
  if v.isKey then .ok v else .error .notKey

def resolve : Value → Value
  | .text s => .text (Scalar.resolve s)
  | v => v

def isHandTyped (r : Registry) : Value → Bool
  | .text s => r.isHandTyped s
  | _ => false

def declaredType (r : Registry) : Value → String
  | .text s => r.declaredType s
  | _ => Scalar.anyType

def isRoot (roots : List Value) (name : Value) : Bool :=
  roots.any (·.same name)

/-- The text of the type inside a node. -/
def typeText (node : Value) : Except Fault String := do
  let inner ← partOf .type node
  match inner.asType? with
  | some t => .ok t.text
  | none => .error (.missingType node inner)

namespace Rules

/-- The line of a field: its name, the marker unless null is excluded, and its type. -/
def fieldLine (r : Rules) (name type : Value) : Except Fault Value :=
  match type.asType? with
  | some t =>
    let marker := if t.required then "" else r.settings.optionalMarker
    .ok (.text (name.display ++ marker ++ ": " ++ t.text))
  | none => .error (.untypedField name type)

def fill (t : Template) (scope : List (String × Value)) : Except Fault Value :=
  match t.render (scope.map fun (name, v) => (name, .value v)) with
  | .ok text => .ok (.text text)
  | .error f => .error (.template f)

def aliasOf (r : Rules) (name : Value) (members : List Value) : Except Fault Value :=
  fill r.templates.aliasText [("name", name), ("members", .entries members)]

def interfaceOf (r : Rules) (name : Value) (interfaces fields : List Value) :
    Except Fault Value :=
  fill r.templates.interfaceText
    [("name", name), ("interfaces", .entries interfaces), ("fields", .entries fields),
      ("indent", .text r.settings.indent)]

def skip (what : String) (name : Value) : Traced Fault Value := do
  Traced.note .debug .fold ("Skipping " ++ what ++ " " ++ name.display)
  return .suppressed

def scalarAlias (r : Rules) (name : Value) : Traced Fault Value :=
  if isHandTyped r.registry name then skip "opaque scalar" name
  else .ofExcept (r.aliasOf name [.text (declaredType r.registry name)])

/-- Enum values are written as string literals. -/
def enumAlias (r : Rules) (name values : Value) : Except Fault Value := do
  let names ← (← itemsOrNone values).mapM (partOf .name)
  r.aliasOf name (names.map fun n => .text ("\"" ++ n.display ++ "\""))

def unionAlias (r : Rules) (name types : Value) : Except Fault Value := do
  r.aliasOf name (← itemsOrNone types)

def objectInterface (r : Rules) (node name : Value) : Traced Fault Value :=
  if isRoot r.roots name then skip "operation root type" name
  else .ofExcept do
    let fields ← partOf .fields node
    let interfaces ← itemsOrNone (← partOf .interfaces node)
    r.interfaceOf name interfaces (← itemsOrNone fields)

def plainInterface (r : Rules) (node : Value) : Except Fault Value := do
  let name ← partOf .name node
  r.interfaceOf name [] (← itemsOrNone (← partOf .fields node))

/-- The kinds of nodes that there are rules for. -/
def ruled : List Kind :=
  [.name, .namedType, .nonNullType, .listType, .fieldDefinition, .inputValueDefinition,
    .scalarTypeDefinition, .enumTypeDefinition, .unionTypeDefinition, .objectTypeDefinition,
    .interfaceTypeDefinition, .inputObjectTypeDefinition, .document]

/-- What the rule for nodes of a kind makes of a node whose children are folded; `absent` where
there is no rule, or where the rule finds nothing to put in the node's place. -/
def leave (r : Rules) (rule : Kind) (node : Value) : Traced Fault Value :=
  match rule with
  | .name => .ofExcept (partOf .value node)
  | .namedType => .ofExcept do return resolve (← key (← partOf .name node))
  | .nonNullType => .ofExcept do return .type ⟨← typeText node, true⟩
  | .listType => .ofExcept do return .text ((← typeText node) ++ "[]")
  | .fieldDefinition | .inputValueDefinition => .ofExcept do
    let type ← partOf .type node
    r.fieldLine (← partOf .name node) type
  | .scalarTypeDefinition => do
    r.scalarAlias (← .ofExcept (partOf .name node >>= key))
  | .enumTypeDefinition => .ofExcept do
    let name ← partOf .name node
    r.enumAlias name (← partOf .values node)
  | .unionTypeDefinition => .ofExcept do
    let name ← partOf .name node
    r.unionAlias name (← partOf .types node)
  | .objectTypeDefinition => do
    r.objectInterface node (← .ofExcept (partOf .name node >>= key))
  | .interfaceTypeDefinition | .inputObjectTypeDefinition => .ofExcept (r.plainInterface node)
  | .document => .ofExcept do return .entries (← items (← partOf .definitions node))
  | _ => pure .absent

end Rules
end Fold
end SchemaFold
