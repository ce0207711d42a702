import SchemaFold.Grammar.Name

/-! Documents as the grammar has them: type system definitions and their extensions, operations
and fragments. Parts of a definition that may be left out are empty lists or `none`. -/

namespace SchemaFold

/-- A reference to a type. `required` is the mark that excludes null. -/
inductive TypeRef where
  | named (name : Name) (required : Bool)
  | list (item : TypeRef) (required : Bool)
  deriving DecidableEq

/-- A value. Numbers keep their digits as written. -/
inductive Literal where
  | reference (variableName : Name)
  | int (digits : String)
  | float (digits : String)
  | string (value : String) (block : Bool)
  | boolean (value : Bool)
  | null
  | enum (name : Name)
  | list (values : List Literal)
  | object (fields : List (Name × Literal))

structure Argument where
  name : Name
  value : Literal

structure Directive where
  name : Name
  arguments : List Argument

structure Description where
  text : String
  block : Bool
  deriving DecidableEq

/-- A selection in an operation. A field without selections of its own has an empty list. -/
inductive Selection where
  | field (label : Option Name) (name : Name) (arguments : List Argument)
      (directives : List Directive) (selections : List Selection)
  | spread (fragment : Name) (directives : List Directive)
  | inline (onType : Option Name) (directives : List Directive) (selections : List Selection)

inductive OperationKind where
  | query
  | mutation
  | subscription
  deriving DecidableEq

def OperationKind.text : OperationKind → String
  | .query => "query"
  | .mutation => "mutation"
  | .subscription => "subscription"

def OperationKind.ofText? : String → Option OperationKind
  | "query" => some .query
  | "mutation" => some .mutation
  | "subscription" => some .subscription
  | _ => none

structure VariableDefinition where
  description : Option Description
  name : Name
  type : TypeRef
  defaultValue : Option Literal
  directives : List Directive

structure Operation where
  description : Option Description
  kind : OperationKind
  name : Option Name
  parameters : List VariableDefinition
  directives : List Directive
  selections : List Selection

structure Fragment where
  description : Option Description
  name : Name
  onType : Name
  directives : List Directive
  selections : List Selection

/-- An argument of a field or directive definition, or a field of an input type. -/
structure InputValue where
  description : Option Description
  name : Name
  type : TypeRef
  defaultValue : Option Literal
  directives : List Directive

structure FieldDefinition where
  description : Option Description
  name : Name
  arguments : List InputValue
  type : TypeRef
  directives : List Directive

structure EnumValue where
  description : Option Description
  name : Name
  directives : List Directive

/-- What sets the sorts of types apart. The definition of a type and an extension of it have the
same sort of body. -/
inductive TypeBody where
  | scalar
  | object (interfaces : List Name) (fields : List FieldDefinition)
  | interface (interfaces : List Name) (fields : List FieldDefinition)
  | union (members : List Name)
  | enum (values : List EnumValue)
  | input (fields : List InputValue)

structure OperationType where
  kind : OperationKind
  type : Name
  deriving DecidableEq

structure DirectiveDefinition where
  description : Option Description
  name : Name
  arguments : List InputValue
  repeatable : Bool
  locations : List Name

inductive Definition where
  | operation (operation : Operation)
  | fragment (fragment : Fragment)
  | schema (description : Option Description) (directives : List Directive)
      (operationTypes : List OperationType)
  | type (description : Option Description) (name : Name) (directives : List Directive)
      (body : TypeBody)
  | directive (definition : DirectiveDefinition)
  | extendSchema (directives : List Directive) (operationTypes : List OperationType)
  | extendType (name : Name) (directives : List Directive) (body : TypeBody)

def Definition.name? : Definition → Option Name
  | .operation o => o.name
  | .fragment f => some f.name
  | .schema .. => none
  | .type _ name _ _ => some name
  | .directive d => some d.name
  | .extendSchema .. => none
  | .extendType name _ _ => some name

abbrev Document := List Definition

end SchemaFold
