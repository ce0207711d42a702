import SchemaFold.Proofs.BuiltinTemplates

/-! What the definitions of a document fold into, said of the document itself. Names and types
become text, fields and arguments become lines, and type definitions become declarations. All other
definitions keep their shape. -/

namespace SchemaFold

/-- The name that a reference to a type is written as. -/
def Name.resolved (n : Name) : String :=
  Scalar.resolve n.text

/-- A pair of brackets stands for each list. What is inside a list loses its mark. -/
def TypeRef.text : TypeRef → String
  | .named n _ => n.resolved
  | .list item _ => item.text ++ "[]"

def TypeRef.isRequired : TypeRef → Bool
  | .named _ required | .list _ required => required

def TypeRef.folded (t : TypeRef) : Value :=
  if t.isRequired then .type ⟨t.text, true⟩ else .text t.text

def TypeRef.line (t : TypeRef) (marker : String) (name : Name) : String :=
  name.text ++ (if t.isRequired then "" else marker) ++ ": " ++ t.text

def FieldDefinition.line (marker : String) (f : FieldDefinition) : String :=
  f.type.line marker f.name

def InputValue.line (marker : String) (v : InputValue) : String :=
  v.type.line marker v.name

mutual

def Literal.folded : Literal → Value
  | .reference n => .node .variableReference [(.name, .text n.text)]
  | .int digits => .node .intValue [(.value, .text digits)]
  | .float digits => .node .floatValue [(.value, .text digits)]
  | .string value block => Value.string value block
  | .boolean b => .node .booleanValue [(.value, .flag b)]
  | .null => .node .nullValue []
  | .enum n => .node .enumValue [(.value, .text n.text)]
  | .list values => .node .listValue [(.values, .list (Literal.foldedAll values))]
  | .object fields => .node .objectValue [(.fields, .list (Literal.foldedFields fields))]

def Literal.foldedAll : List Literal → List Value
  | [] => []
  | v :: vs => v.folded :: Literal.foldedAll vs

def Literal.foldedFields : List (Name × Literal) → List Value
  | [] => []
  | (n, v) :: fields =>
    .node .objectField [(.name, .text n.text), (.value, v.folded)] :: Literal.foldedFields fields

end

def Argument.folded (a : Argument) : Value :=
  .node .argument [(.name, .text a.name.text), (.value, a.value.folded)]

def Directive.folded (d : Directive) : Value :=
  .node .directive
    [(.name, .text d.name.text), (.arguments, .list (d.arguments.map Argument.folded))]

def foldedDirectives (directives : List Directive) : Value :=
  .list (directives.map Directive.folded)

/-- A type named without any mark, where a node is kept. -/
def Name.foldedType (n : Name) : Value :=
  .text n.resolved

mutual

def Selection.folded : Selection → Value
  | .field label name arguments directives selections =>
    .node .field
      [(.label, Value.ofOption (fun n => .text n.text) label), (.name, .text name.text),
        (.arguments, .list (arguments.map Argument.folded)),
        (.directives, foldedDirectives directives),
        (.selectionSet,
          if selections.isEmpty then .absent
          else Value.selectionSet (Selection.foldedAll selections))]
  | .spread fragment directives =>
    .node .fragmentSpread
      [(.name, .text fragment.text), (.directives, foldedDirectives directives)]
  | .inline onType directives selections =>
    .node .inlineFragment
      [(.typeCondition, Value.ofOption Name.foldedType onType),
        (.directives, foldedDirectives directives),
        (.selectionSet, Value.selectionSet (Selection.foldedAll selections))]

def Selection.foldedAll : List Selection → List Value
  | [] => []
  | s :: rest => s.folded :: Selection.foldedAll rest

end

def VariableDefinition.folded (v : VariableDefinition) : Value :=
  .node .variableDefinition
    [(.description, Value.ofOption Description.toTree v.description),
      (.reference, .node .variableReference [(.name, .text v.name.text)]), (.type, v.type.folded),
      (.defaultValue, Value.ofOption Literal.folded v.defaultValue),
      (.directives, foldedDirectives v.directives)]

def Operation.folded (o : Operation) : Value :=
  .node .operationDefinition
    [(.description, Value.ofOption Description.toTree o.description),
      (.name, Value.ofOption (fun n => .text n.text) o.name),
      (.variableDefinitions, .list (o.parameters.map VariableDefinition.folded)),
      (.directives, foldedDirectives o.directives),
      (.selectionSet, Value.selectionSet (Selection.foldedAll o.selections)),
      (.operation, .text o.kind.text)]

def Fragment.folded (f : Fragment) : Value :=
  .node .fragmentDefinition
    [(.description, Value.ofOption Description.toTree f.description), (.name, .text f.name.text),
      (.variableDefinitions, .absent), (.typeCondition, f.onType.foldedType),
      (.directives, foldedDirectives f.directives),
      (.selectionSet, Value.selectionSet (Selection.foldedAll f.selections))]

def EnumValue.folded (v : EnumValue) : Value :=
  .node .enumValueDefinition
    [(.description, Value.ofOption Description.toTree v.description), (.name, .text v.name.text),
      (.directives, foldedDirectives v.directives)]

def OperationType.folded (o : OperationType) : Value :=
  .node .operationTypeDefinition [(.type, o.type.foldedType), (.operation, .text o.kind.text)]

def DirectiveDefinition.folded (marker : String) (d : DirectiveDefinition) : Value :=
  .node .directiveDefinition
    [(.description, Value.ofOption Description.toTree d.description), (.name, .text d.name.text),
      (.arguments, .list (d.arguments.map fun v => .text (v.line marker))), (.directives, .list []),
      (.locations, .list (d.locations.map fun n => .text n.text)),
      (.repeatable, .flag d.repeatable)]

/-- The parts from a type's name on, in source order. -/
def TypeBody.folded (marker : String) (name : Name) (directives : List Directive) :
    TypeBody → List (Part × Value)
  | .scalar => [(.name, .text name.text), (.directives, foldedDirectives directives)]
  | .object interfaces fields | .interface interfaces fields =>
    [(.name, .text name.text), (.interfaces, .list (interfaces.map Name.foldedType)),
      (.directives, foldedDirectives directives),
      (.fields, .list (fields.map fun f => .text (f.line marker)))]
  | .union members =>
    [(.name, .text name.text), (.directives, foldedDirectives directives),
      (.types, .list (members.map Name.foldedType))]
  | .enum values =>
    [(.name, .text name.text), (.directives, foldedDirectives directives),
      (.values, .list (values.map EnumValue.folded))]
  | .input fields =>
    [(.name, .text name.text), (.directives, foldedDirectives directives),
      (.fields, .list (fields.map fun v => .text (v.line marker)))]

/-- The declaration of a type with this name, or nothing where it is left out. -/
def TypeBody.entry (settings : Settings) (registry : Registry) (roots : List String)
    (name : Name) : TypeBody → Value
  | .scalar =>
    if registry.isHandTyped name.text then .suppressed
    else .text (Declarations.aliasText name.text [registry.declaredType name.text])
  | .enum values =>
    .text (Declarations.aliasText name.text (values.map fun v => "\"" ++ v.name.text ++ "\""))
  | .union members => .text (Declarations.aliasText name.text (members.map Name.resolved))
  | .object interfaces fields =>
    if name.text ∈ roots then .suppressed
    else
      .text (Declarations.interfaceText settings.indent name.text (interfaces.map Name.resolved)
        (fields.map (FieldDefinition.line settings.optionalMarker)))
  | .interface _ fields =>
    .text (Declarations.interfaceText settings.indent name.text []
      (fields.map (FieldDefinition.line settings.optionalMarker)))
  | .input fields =>
    .text (Declarations.interfaceText settings.indent name.text []
      (fields.map (InputValue.line settings.optionalMarker)))

/-- The entry of a definition in a document whose operation roots are `roots`. -/
def Definition.entry (settings : Settings) (registry : Registry) (roots : List String) :
    Definition → Value
  | .operation o => o.folded
  | .fragment f => f.folded
  | .schema description directives operationTypes =>
    .node .schemaDefinition
      [(.description, Value.ofOption Description.toTree description),
        (.directives, foldedDirectives directives),
        (.operationTypes, .list (operationTypes.map OperationType.folded))]
  | .type _ name _ body => body.entry settings registry roots name
  | .directive d => d.folded settings.optionalMarker
  | .extendSchema directives operationTypes =>
    .node .schemaExtension
      [(.directives, foldedDirectives directives),
        (.operationTypes, .list (operationTypes.map OperationType.folded))]
  | .extendType name directives body =>
    .node body.extensionKind (body.folded settings.optionalMarker name directives)

/-- The types that a definition names as operation types. Only a schema definition does. -/
def Definition.operationTypeNames : Definition → List String
  | .schema _ _ operationTypes => operationTypes.map fun o => o.type.text
  | _ => []

def Document.operationRoots (settings : Settings) (d : Document) : List String :=
  settings.operationRoots ++ d.flatMap Definition.operationTypeNames

end SchemaFold
