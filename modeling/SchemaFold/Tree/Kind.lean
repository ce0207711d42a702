/-! The kinds of nodes in a document's tree, and the parts that a node of each kind has. -/

namespace SchemaFold

inductive Kind where
  | name
  | document
  | operationDefinition
  | variableDefinition
  | selectionSet
  | field
  | argument
  | fragmentSpread
  | inlineFragment
  | fragmentDefinition
  | variableReference
  | intValue
  | floatValue
  | stringValue
  | booleanValue
  | nullValue
  | enumValue
  | listValue
  | objectValue
  | objectField
  | directive
  | namedType
  | listType
  | nonNullType
  | schemaDefinition
  | operationTypeDefinition
  | scalarTypeDefinition
  | objectTypeDefinition
  | fieldDefinition
  | inputValueDefinition
  | interfaceTypeDefinition
  | unionTypeDefinition
  | enumTypeDefinition
  | enumValueDefinition
  | inputObjectTypeDefinition
  | directiveDefinition
  | schemaExtension
  | scalarTypeExtension
  | objectTypeExtension
  | interfaceTypeExtension
  | unionTypeExtension
  | enumTypeExtension
  | inputObjectTypeExtension
  deriving DecidableEq, Repr

inductive Part where
  | description
  | name
  | label
  | value
  | block
  | definitions
  | directives
  | arguments
  | variableDefinitions
  | selectionSet
  | selections
  | operation
  | reference
  | type
  | typeCondition
  | defaultValue
  | values
  | fields
  | operationTypes
  | interfaces
  | types
  | repeatable
  | locations
  deriving DecidableEq, Repr

def Part.key : Part → String
  | .description => "description"
  | .name => "name"
  | .label => "alias"
  | .value => "value"
  | .block => "block"
  | .definitions => "definitions"
  | .directives => "directives"
  | .arguments => "arguments"
  | .variableDefinitions => "variable_definitions"
  | .selectionSet => "selection_set"
  | .selections => "selections"
  | .operation => "operation"
  | .reference => "variable"
  | .type => "type"
  | .typeCondition => "type_condition"
  | .defaultValue => "default_value"
  | .values => "values"
  | .fields => "fields"
  | .operationTypes => "operation_types"
  | .interfaces => "interfaces"
  | .types => "types"
  | .repeatable => "repeatable"
  | .locations => "locations"

namespace Kind

def label : Kind → String
  | name => "name"
  | document => "document"
  | operationDefinition => "operation_definition"
  | variableDefinition => "variable_definition"
  | selectionSet => "selection_set"
  | field => "field"
  | argument => "argument"
  | fragmentSpread => "fragment_spread"
  | inlineFragment => "inline_fragment"
  | fragmentDefinition => "fragment_definition"
  | variableReference => "variable"
  | intValue => "int_value"
  | floatValue => "float_value"
  | stringValue => "string_value"
  | booleanValue => "boolean_value"
  | nullValue => "null_value"
  | enumValue => "enum_value"
  | listValue => "list_value"
  | objectValue => "object_value"
  | objectField => "object_field"
  | directive => "directive"
  | namedType => "named_type"
  | listType => "list_type"
  | nonNullType => "non_null_type"
  | schemaDefinition => "schema_definition"
  | operationTypeDefinition => "operation_type_definition"
  | scalarTypeDefinition => "scalar_type_definition"
  | objectTypeDefinition => "object_type_definition"
  | fieldDefinition => "field_definition"
  | inputValueDefinition => "input_value_definition"
  | interfaceTypeDefinition => "interface_type_definition"
  | unionTypeDefinition => "union_type_definition"
  | enumTypeDefinition => "enum_type_definition"
  | enumValueDefinition => "enum_value_definition"
  | inputObjectTypeDefinition => "input_object_type_definition"
  | directiveDefinition => "directive_definition"
  | schemaExtension => "schema_extension"
  | scalarTypeExtension => "scalar_type_extension"
  | objectTypeExtension => "object_type_extension"
  | interfaceTypeExtension => "interface_type_extension"
  | unionTypeExtension => "union_type_extension"
  | enumTypeExtension => "enum_type_extension"
  | inputObjectTypeExtension => "input_object_type_extension"

def all : List Kind :=
  [name, document, operationDefinition, variableDefinition, selectionSet, field, argument,
    fragmentSpread, inlineFragment, fragmentDefinition, variableReference, intValue, floatValue,
    stringValue, booleanValue, nullValue, enumValue, listValue, objectValue, objectField,
    directive, namedType, listType, nonNullType, schemaDefinition, operationTypeDefinition,
    scalarTypeDefinition, objectTypeDefinition, fieldDefinition, inputValueDefinition,
    interfaceTypeDefinition, unionTypeDefinition, enumTypeDefinition, enumValueDefinition,
    inputObjectTypeDefinition, directiveDefinition, schemaExtension, scalarTypeExtension,
    objectTypeExtension, interfaceTypeExtension, unionTypeExtension, enumTypeExtension,
    inputObjectTypeExtension]

def ofLabel? (text : String) : Option Kind :=
  all.find? (·.label == text)

/-- The title of a kind in messages: its words run together, each with a capital letter. -/
def title (k : Kind) : String :=
  String.join ((k.label.splitOn "_").map String.capitalize) ++ "Node"

/-- The parts that hold nodes or lists of nodes, in the order they are visited. -/
def children : Kind → List Part
  | name | intValue | floatValue | stringValue | booleanValue | nullValue | enumValue => []
  | document => [.definitions]
  | operationDefinition =>
    [.description, .name, .variableDefinitions, .directives, .selectionSet]
  | variableDefinition => [.description, .reference, .type, .defaultValue, .directives]
  | variableReference => [.name]
  | selectionSet => [.selections]
  | field => [.label, .name, .arguments, .directives, .selectionSet]
  | argument => [.name, .value]
  | fragmentSpread => [.name, .directives]
  | inlineFragment => [.typeCondition, .directives, .selectionSet]
  | fragmentDefinition =>
    [.description, .name, .variableDefinitions, .typeCondition, .directives, .selectionSet]
  | listValue => [.values]
  | objectValue => [.fields]
  | objectField => [.name, .value]
  | directive => [.name, .arguments]
  | namedType => [.name]
  | listType | nonNullType => [.type]
  | schemaDefinition => [.description, .directives, .operationTypes]
  | operationTypeDefinition => [.type]
  | scalarTypeDefinition => [.description, .name, .directives]
  | objectTypeDefinition | interfaceTypeDefinition =>
    [.description, .name, .interfaces, .directives, .fields]
  | fieldDefinition => [.description, .name, .arguments, .type, .directives]
  | inputValueDefinition => [.description, .name, .type, .defaultValue, .directives]
  | unionTypeDefinition => [.description, .name, .directives, .types]
  | enumTypeDefinition => [.description, .name, .directives, .values]
  | enumValueDefinition => [.description, .name, .directives]
  | inputObjectTypeDefinition => [.description, .name, .directives, .fields]
  | directiveDefinition => [.description, .name, .arguments, .directives, .locations]
  | schemaExtension => [.directives, .operationTypes]
  | scalarTypeExtension => [.name, .directives]
  | objectTypeExtension | interfaceTypeExtension => [.name, .interfaces, .directives, .fields]
  | unionTypeExtension => [.name, .directives, .types]
  | enumTypeExtension => [.name, .directives, .values]
  | inputObjectTypeExtension => [.name, .directives, .fields]

/-- The parts that hold plain values. -/
def attributes : Kind → List Part
  | name | intValue | floatValue | booleanValue | enumValue => [.value]
  | stringValue => [.value, .block]
  | operationDefinition | operationTypeDefinition => [.operation]
  | directiveDefinition => [.repeatable]
  | _ => []

def parts (k : Kind) : List Part :=
  k.children ++ k.attributes

end Kind
end SchemaFold
