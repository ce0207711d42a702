import SchemaFold.Grammar.Document
import SchemaFold.Tree.Value

/-! A document as a tree of nodes. Every node has all the parts of its kind. -/

namespace SchemaFold

def Value.ofOption {α : Type} (f : α → Value) : Option α → Value
  | some a => f a
  | none => .absent

def Name.toTree (n : Name) : Value :=
  .node .name [(.value, .text n.text)]

/-- A type named without any mark. -/
def Name.toTypeTree (n : Name) : Value :=
  .node .namedType [(.name, n.toTree)]

def TypeRef.marked (required : Bool) (type : Value) : Value :=
  if required then .node .nonNullType [(.type, type)] else type

def TypeRef.toTree : TypeRef → Value
  | .named n required => TypeRef.marked required n.toTypeTree
  | .list item required => TypeRef.marked required (.node .listType [(.type, item.toTree)])

def Value.variableReference (n : Name) : Value :=
  .node .variableReference [(.name, n.toTree)]

def Value.string (value : String) (block : Bool) : Value :=
  .node .stringValue [(.value, .text value), (.block, .flag block)]

mutual

def Literal.toTree : Literal → Value
  | .reference n => Value.variableReference n
  | .int digits => .node .intValue [(.value, .text digits)]
  | .float digits => .node .floatValue [(.value, .text digits)]
  | .string value block => Value.string value block
  | .boolean b => .node .booleanValue [(.value, .flag b)]
  | .null => .node .nullValue []
  | .enum n => .node .enumValue [(.value, .text n.text)]
  | .list values => .node .listValue [(.values, .list (Literal.toTrees values))]
  | .object fields => .node .objectValue [(.fields, .list (Literal.fieldTrees fields))]

def Literal.toTrees : List Literal → List Value
  | [] => []
  | v :: vs => v.toTree :: Literal.toTrees vs

def Literal.fieldTrees : List (Name × Literal) → List Value
  | [] => []
  | (n, v) :: fields =>
    .node .objectField [(.name, n.toTree), (.value, v.toTree)] :: Literal.fieldTrees fields

end

def Argument.toTree (a : Argument) : Value :=
  .node .argument [(.name, a.name.toTree), (.value, a.value.toTree)]

def Directive.toTree (d : Directive) : Value :=
  .node .directive [(.name, d.name.toTree), (.arguments, .list (d.arguments.map Argument.toTree))]

def Description.toTree (d : Description) : Value :=
  Value.string d.text d.block

def directiveTrees (directives : List Directive) : Value :=
  .list (directives.map Directive.toTree)

def Value.selectionSet (selections : List Value) : Value :=
  .node .selectionSet [(.selections, .list selections)]

mutual

def Selection.toTree : Selection → Value
  | .field label name arguments directives selections =>
    .node .field
      [(.label, Value.ofOption Name.toTree label), (.name, name.toTree),
        (.arguments, .list (arguments.map Argument.toTree)),
        (.directives, directiveTrees directives),
        (.selectionSet,
          if selections.isEmpty then .absent
          else Value.selectionSet (Selection.toTrees selections))]
  | .spread fragment directives =>
    .node .fragmentSpread [(.name, fragment.toTree), (.directives, directiveTrees directives)]
  | .inline onType directives selections =>
    .node .inlineFragment
      [(.typeCondition, Value.ofOption Name.toTypeTree onType),
        (.directives, directiveTrees directives),
        (.selectionSet, Value.selectionSet (Selection.toTrees selections))]

def Selection.toTrees : List Selection → List Value
  | [] => []
  | s :: rest => s.toTree :: Selection.toTrees rest

end

def VariableDefinition.toTree (v : VariableDefinition) : Value :=
  .node .variableDefinition
    [(.description, Value.ofOption Description.toTree v.description),
      (.reference, Value.variableReference v.name), (.type, v.type.toTree),
      (.defaultValue, Value.ofOption Literal.toTree v.defaultValue),
      (.directives, directiveTrees v.directives)]

def Operation.toTree (o : Operation) : Value :=
  .node .operationDefinition
    [(.description, Value.ofOption Description.toTree o.description),
      (.name, Value.ofOption Name.toTree o.name),
      (.variableDefinitions, .list (o.parameters.map VariableDefinition.toTree)),
      (.directives, directiveTrees o.directives),
      (.selectionSet, Value.selectionSet (Selection.toTrees o.selections)),
      (.operation, .text o.kind.text)]

def Fragment.toTree (f : Fragment) : Value :=
  .node .fragmentDefinition
    [(.description, Value.ofOption Description.toTree f.description), (.name, f.name.toTree),
      (.variableDefinitions, .absent), (.typeCondition, f.onType.toTypeTree),
      (.directives, directiveTrees f.directives),
      (.selectionSet, Value.selectionSet (Selection.toTrees f.selections))]

def InputValue.toTree (v : InputValue) : Value :=
  .node .inputValueDefinition
    [(.description, Value.ofOption Description.toTree v.description), (.name, v.name.toTree),
      (.type, v.type.toTree), (.defaultValue, Value.ofOption Literal.toTree v.defaultValue),
      (.directives, directiveTrees v.directives)]

def FieldDefinition.toTree (f : FieldDefinition) : Value :=
  .node .fieldDefinition
    [(.description, Value.ofOption Description.toTree f.description), (.name, f.name.toTree),
      (.arguments, .list (f.arguments.map InputValue.toTree)), (.type, f.type.toTree),
      (.directives, directiveTrees f.directives)]

def EnumValue.toTree (v : EnumValue) : Value :=
  .node .enumValueDefinition
    [(.description, Value.ofOption Description.toTree v.description), (.name, v.name.toTree),
      (.directives, directiveTrees v.directives)]

def OperationType.toTree (o : OperationType) : Value :=
  .node .operationTypeDefinition [(.type, o.type.toTypeTree), (.operation, .text o.kind.text)]

def DirectiveDefinition.toTree (d : DirectiveDefinition) : Value :=
  .node .directiveDefinition
    [(.description, Value.ofOption Description.toTree d.description), (.name, d.name.toTree),
      (.arguments, .list (d.arguments.map InputValue.toTree)), (.directives, .list []),
      (.locations, .list (d.locations.map Name.toTree)), (.repeatable, .flag d.repeatable)]

def TypeBody.definitionKind : TypeBody → Kind
  | .scalar => .scalarTypeDefinition
  | .object .. => .objectTypeDefinition
  | .interface .. => .interfaceTypeDefinition
  | .union _ => .unionTypeDefinition
  | .enum _ => .enumTypeDefinition
  | .input _ => .inputObjectTypeDefinition

def TypeBody.extensionKind : TypeBody → Kind
  | .scalar => .scalarTypeExtension
  | .object .. => .objectTypeExtension
  | .interface .. => .interfaceTypeExtension
  | .union _ => .unionTypeExtension
  | .enum _ => .enumTypeExtension
  | .input _ => .inputObjectTypeExtension

/-- The parts from a type's name on, in source order. -/
def TypeBody.parts (name : Name) (directives : List Directive) :
    TypeBody → List (Part × Value)
  | .scalar => [(.name, name.toTree), (.directives, directiveTrees directives)]
  | .object interfaces fields | .interface interfaces fields =>
    [(.name, name.toTree), (.interfaces, .list (interfaces.map Name.toTypeTree)),
      (.directives, directiveTrees directives),
      (.fields, .list (fields.map FieldDefinition.toTree))]
  | .union members =>
    [(.name, name.toTree), (.directives, directiveTrees directives),
      (.types, .list (members.map Name.toTypeTree))]
  | .enum values =>
    [(.name, name.toTree), (.directives, directiveTrees directives),
      (.values, .list (values.map EnumValue.toTree))]
  | .input fields =>
    [(.name, name.toTree), (.directives, directiveTrees directives),
      (.fields, .list (fields.map InputValue.toTree))]

def Definition.kind : Definition → Kind
  | .operation _ => .operationDefinition
  | .fragment _ => .fragmentDefinition
  | .schema .. => .schemaDefinition
  | .type _ _ _ body => body.definitionKind
  | .directive _ => .directiveDefinition
  | .extendSchema .. => .schemaExtension
  | .extendType _ _ body => body.extensionKind

def Definition.toTree : Definition → Value
  | .operation o => o.toTree
  | .fragment f => f.toTree
  | .schema description directives operationTypes =>
    .node .schemaDefinition
      [(.description, Value.ofOption Description.toTree description),
        (.directives, directiveTrees directives),
        (.operationTypes, .list (operationTypes.map OperationType.toTree))]
  | .type description name directives body =>
    .node body.definitionKind
      ((.description, Value.ofOption Description.toTree description) ::
        body.parts name directives)
  | .directive d => d.toTree
  | .extendSchema directives operationTypes =>
    .node .schemaExtension
      [(.directives, directiveTrees directives),
        (.operationTypes, .list (operationTypes.map OperationType.toTree))]
  | .extendType name directives body => .node body.extensionKind (body.parts name directives)

def Document.toTree (d : Document) : Value :=
  .node .document [(.definitions, .list (d.map Definition.toTree))]

end SchemaFold
