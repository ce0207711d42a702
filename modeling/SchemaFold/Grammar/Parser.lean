import SchemaFold.Grammar.Document
import SchemaFold.Grammar.Tokens

/-! Reading a document from its words. A reader takes words from the front and looks at the next
one to decide how to go on. It is told a number of words that the whole text does not exceed, which
no list of items can exceed either. Selections, list and object values and list types may be nested
200 deep, counted together; readers of such parts are given how many levels are left. -/

namespace SchemaFold

abbrev Parser := ReaderT Nat (StateT Tokens (Except SyntaxError))

namespace Parser

/-- The word to be taken next. -/
def peek : Parser Lexeme :=
  return (← get).lexeme

def failHere {α : Type} (cause : SyntaxError.Cause) : Parser α := do
  throw ⟨cause, (← get).start⟩

def unexpected {α : Type} : Parser α := do
  failHere (.unexpected (← peek))

def advance : Parser Unit := do
  set (← (← get).next)

def expected {α : Type} (wanted : SyntaxError.Wanted) : Parser α := do
  failHere (.expected wanted (← peek))

def expect (p : Punctuator) : Parser Unit := do
  if (← peek) = .punctuator p then advance else expected (.punctuator p)

/-- Takes the punctuator if it is next. -/
def accept (p : Punctuator) : Parser Bool := do
  if (← peek) = .punctuator p then
    advance
    return true
  return false

def isKeyword (word : String) : Lexeme → Bool
  | .name n => n.text == word
  | _ => false

def expectKeyword (word : String) : Parser Unit := do
  if isKeyword word (← peek) then advance else expected (.keyword word)

def acceptKeyword (word : String) : Parser Bool := do
  if isKeyword word (← peek) then
    advance
    return true
  return false

def name : Parser Name := do
  match ← peek with
  | .name n =>
    advance
    return n
  | _ => expected .name

/-- Items up to a closing punctuator, if they are fewer than some number. Every item takes a word
at least. -/
def itemsUntil {α : Type} (close : Punctuator) (item : Parser α) : Nat → Parser (List α)
  | 0 => unexpected
  | n + 1 => do
    if ← accept close then return []
    let first ← item
    return first :: (← itemsUntil close item n)

/-- More items than a list can have. -/
def bound : Parser Nat :=
  return (← read) + 1

/-- Any number of items between two punctuators. -/
def enclosed {α : Type} (opening close : Punctuator) (item : Parser α) : Parser (List α) := do
  expect opening
  itemsUntil close item (← bound)

/-- One item at least between two punctuators. -/
def enclosedSome {α : Type} (opening close : Punctuator) (item : Parser α) : Parser (List α) := do
  expect opening
  let first ← item
  return first :: (← itemsUntil close item (← bound))

/-- Nothing, or one item at least between two punctuators. -/
def enclosedOptional {α : Type} (opening close : Punctuator) (item : Parser α) :
    Parser (List α) := do
  if (← peek) = .punctuator opening then enclosedSome opening close item else return []

def separatedRest {α : Type} (separator : Punctuator) (item : Parser α) : Nat → Parser (List α)
  | 0 => return []
  | n + 1 => do
    if ← accept separator then
      let first ← item
      return first :: (← separatedRest separator item n)
    return []

/-- One item at least, with a separator between them and perhaps before the first. -/
def separated {α : Type} (separator : Punctuator) (item : Parser α) : Parser (List α) := do
  let _ ← accept separator
  let first ← item
  return first :: (← separatedRest separator item (← bound))

def maxDepth : Nat := 200

def variableName : Parser Name := do
  expect .dollar
  name

/-- A variable where only constants may stand. -/
def refusedVariable {α : Type} : Parser α := do
  let dollar := (← get).start
  expect .dollar
  match ← peek with
  | .name n => throw ⟨.constantVariable n, dollar⟩
  | _ => throw ⟨.unexpected (.punctuator .dollar), dollar⟩

def namedValue (n : Name) : Literal :=
  match n.text with
  | "true" => .boolean true
  | "false" => .boolean false
  | "null" => .null
  | _ => .enum n

def objectField (value : Parser Literal) : Parser (Name × Literal) := do
  let n ← name
  expect .colon
  return (n, ← value)

def literal (constant : Bool) (levels : Nat) : Parser Literal := do
  match ← peek with
  | .punctuator .bracketLeft =>
    match levels with
    | 0 => failHere .nestedTooDeeply
    | levels + 1 =>
      return .list (← enclosed .bracketLeft .bracketRight (literal constant levels))
  | .punctuator .braceLeft =>
    match levels with
    | 0 => failHere .nestedTooDeeply
    | levels + 1 =>
      return .object (← enclosed .braceLeft .braceRight (objectField (literal constant levels)))
  | .int digits =>
    advance
    return .int digits
  | .float digits =>
    advance
    return .float digits
  | .string value =>
    advance
    return .string value false
  | .blockString value =>
    advance
    return .string value true
  | .name n =>
    advance
    return namedValue n
  | .punctuator .dollar =>
    if constant then refusedVariable else return .reference (← variableName)
  | _ => unexpected

def argument (constant : Bool) (levels : Nat) : Parser Argument := do
  let n ← name
  expect .colon
  return ⟨n, ← literal constant levels⟩

def arguments (constant : Bool) (levels : Nat) : Parser (List Argument) :=
  enclosedOptional .parenLeft .parenRight (argument constant levels)

def directivesRest (constant : Bool) (levels : Nat) : Nat → Parser (List Directive)
  | 0 => return []
  | n + 1 => do
    if ← accept .atSign then
      let first : Directive := ⟨← name, ← arguments constant levels⟩
      return first :: (← directivesRest constant levels n)
    return []

def directives (constant : Bool) (levels : Nat) : Parser (List Directive) := do
  directivesRest constant levels (← bound)

/-- Takes the mark that excludes null if it is next. -/
def required : Parser Bool :=
  accept .bang

def typeRef (levels : Nat) : Parser TypeRef := do
  if ← accept .bracketLeft then
    match levels with
    | 0 => failHere .nestedTooDeeply
    | levels + 1 =>
      let item ← typeRef levels
      expect .bracketRight
      return .list item (← required)
  else
    let n ← name
    return .named n (← required)

/-- A fragment's name, which is not `on`. -/
def fragmentName : Parser Name := do
  if (← peek).value? = some "on" then unexpected else name

def selectionField (levels : Nat) (nested : Parser (List Selection)) : Parser Selection := do
  let first ← name
  let labelled ← accept .colon
  let fieldName ← if labelled then name else pure first
  let label := if labelled then some first else none
  let arguments ← arguments false levels
  let directives ← directives false levels
  let selections ← if (← peek) = .punctuator .braceLeft then nested else pure []
  return .field label fieldName arguments directives selections

def selectionSpread (levels : Nat) (nested : Parser (List Selection)) : Parser Selection := do
  expect .spread
  if ← acceptKeyword "on" then
    let onType ← name
    let directives ← directives false levels
    return .inline (some onType) directives (← nested)
  match ← peek with
  | .name _ =>
    let fragment ← fragmentName
    return .spread fragment (← directives false levels)
  | _ =>
    let directives ← directives false levels
    return .inline none directives (← nested)

def selection (levels : Nat) (nested : Parser (List Selection)) : Parser Selection := do
  if (← peek) = .punctuator .spread then selectionSpread levels nested
  else selectionField levels nested

def selectionSet : Nat → Parser (List Selection)
  | 0 => failHere .nestedTooDeeply
  | levels + 1 =>
    enclosedSome .braceLeft .braceRight (selection levels (selectionSet levels))

def description : Parser (Option Description) := do
  match ← peek with
  | .string value =>
    advance
    return some ⟨value, false⟩
  | .blockString value =>
    advance
    return some ⟨value, true⟩
  | _ => return none

/-- Takes a name that is one of some words and is refused, once taken, when it is none of them. -/
def oneOf {α : Type} (choose : Name → Option α) : Parser α := do
  let start := (← get).start
  let n ← name
  match choose n with
  | some a => return a
  | none => throw ⟨.unexpected (.name n), start⟩

def operationKind : Parser OperationKind :=
  oneOf fun n => OperationKind.ofText? n.text

def defaultValue : Parser (Option Literal) := do
  if ← accept .equals then return some (← literal true maxDepth) else return none

def constDirectives : Parser (List Directive) :=
  directives true maxDepth

def variableDefinition : Parser VariableDefinition := do
  let description ← description
  let name ← variableName
  expect .colon
  let type ← typeRef maxDepth
  let defaultValue ← defaultValue
  let directives ← constDirectives
  return { description, name, type, defaultValue, directives }

def shorthandQuery : Parser Definition := do
  let selections ← selectionSet maxDepth
  return .operation
    { description := none, kind := .query, name := none, parameters := [], directives := [],
      selections }

def optionalName : Parser (Option Name) := do
  match ← peek with
  | .name n =>
    advance
    return some n
  | _ => return none

def operation : Parser Definition := do
  let description ← description
  let kind ← operationKind
  let name ← optionalName
  let parameters ← enclosedOptional .parenLeft .parenRight variableDefinition
  let directives ← directives false maxDepth
  let selections ← selectionSet maxDepth
  return .operation { description, kind, name, parameters, directives, selections }

def fragment : Parser Definition := do
  let description ← description
  expectKeyword "fragment"
  let name ← fragmentName
  expectKeyword "on"
  let onType ← Parser.name
  let directives ← directives false maxDepth
  let selections ← selectionSet maxDepth
  return .fragment { description, name, onType, directives, selections }

def inputValue : Parser InputValue := do
  let description ← description
  let name ← name
  expect .colon
  let type ← typeRef maxDepth
  let defaultValue ← defaultValue
  let directives ← constDirectives
  return { description, name, type, defaultValue, directives }

def fieldDefinition : Parser FieldDefinition := do
  let description ← description
  let name ← name
  let arguments ← enclosedOptional .parenLeft .parenRight inputValue
  expect .colon
  let type ← typeRef maxDepth
  let directives ← constDirectives
  return { description, name, arguments, type, directives }

def isReserved (word : String) : Bool :=
  word == "true" || word == "false" || word == "null"

def enumValueName : Parser Name := do
  let next ← peek
  if next.value?.any isReserved then failHere (.reservedEnumValue next) else name

def enumValue : Parser EnumValue := do
  let description ← description
  let name ← enumValueName
  let directives ← constDirectives
  return { description, name, directives }

def operationType : Parser OperationType := do
  let kind ← operationKind
  expect .colon
  let type ← name
  return { kind, type }

def implementedInterfaces : Parser (List Name) := do
  if ← acceptKeyword "implements" then separated .ampersand name else return []

def unionMembers : Parser (List Name) := do
  if ← accept .equals then separated .pipe name else return []

def fieldDefinitions : Parser (List FieldDefinition) :=
  enclosedOptional .braceLeft .braceRight fieldDefinition

/-- The sorts of types, by the word that introduces them. -/
inductive TypeSort where
  | scalar
  | object
  | interface
  | union
  | enum
  | input

def TypeSort.ofWord? : String → Option TypeSort
  | "scalar" => some .scalar
  | "type" => some .object
  | "interface" => some .interface
  | "union" => some .union
  | "enum" => some .enum
  | "input" => some .input
  | _ => none

/-- The directives and body that follow a type's name. Interfaces stand before the directives,
everything else after them. -/
def typeBody : TypeSort → Parser (List Directive × TypeBody)
  | .scalar => return (← constDirectives, .scalar)
  | .object => do
    let interfaces ← implementedInterfaces
    let directives ← constDirectives
    return (directives, .object interfaces (← fieldDefinitions))
  | .interface => do
    let interfaces ← implementedInterfaces
    let directives ← constDirectives
    return (directives, .interface interfaces (← fieldDefinitions))
  | .union => do
    let directives ← constDirectives
    return (directives, .union (← unionMembers))
  | .enum => do
    let directives ← constDirectives
    return (directives, .enum (← enclosedOptional .braceLeft .braceRight enumValue))
  | .input => do
    let directives ← constDirectives
    return (directives, .input (← enclosedOptional .braceLeft .braceRight inputValue))

def typeDefinition (sort : TypeSort) : Parser Definition := do
  let description ← description
  advance
  let name ← name
  let (directives, body) ← typeBody sort
  return .type description name directives body

def schemaDefinition : Parser Definition := do
  let description ← description
  advance
  let directives ← constDirectives
  return .schema description directives
    (← enclosedSome .braceLeft .braceRight operationType)

def directiveLocations : List String :=
  ["QUERY", "MUTATION", "SUBSCRIPTION", "FIELD", "FRAGMENT_DEFINITION", "FRAGMENT_SPREAD",
    "INLINE_FRAGMENT", "VARIABLE_DEFINITION", "SCHEMA", "SCALAR", "OBJECT", "FIELD_DEFINITION",
    "ARGUMENT_DEFINITION", "INTERFACE", "UNION", "ENUM", "ENUM_VALUE", "INPUT_OBJECT",
    "INPUT_FIELD_DEFINITION", "DIRECTIVE_DEFINITION"]

def directiveLocation : Parser Name :=
  oneOf fun n => if directiveLocations.contains n.text then some n else none

def directiveDefinition : Parser Definition := do
  let description ← description
  advance
  expect .atSign
  let name ← name
  let arguments ← enclosedOptional .parenLeft .parenRight inputValue
  let repeatable ← acceptKeyword "repeatable"
  expectKeyword "on"
  let locations ← separated .pipe directiveLocation
  return .directive { description, name, arguments, repeatable, locations }

/-- A body that adds nothing. -/
def isEmptyBody : TypeBody → Bool
  | .scalar => true
  | .object interfaces fields | .interface interfaces fields =>
    interfaces.isEmpty && fields.isEmpty
  | .union members => members.isEmpty
  | .enum values => values.isEmpty
  | .input fields => fields.isEmpty

/-- An extension adds something to a type. -/
def typeExtension (sort : TypeSort) : Parser Definition := do
  advance
  advance
  let name ← name
  let (directives, body) ← typeBody sort
  if directives.isEmpty && isEmptyBody body then unexpected
  else return .extendType name directives body

def schemaExtension : Parser Definition := do
  advance
  advance
  let directives ← constDirectives
  let operationTypes ← enclosedOptional .braceLeft .braceRight operationType
  if directives.isEmpty && operationTypes.isEmpty then unexpected
  else return .extendSchema directives operationTypes

/-- The word after `extend` decides; it is where an error is reported. -/
def extension : Parser Definition := do
  let ahead ← (← get).next
  match ahead.lexeme with
  | .name n =>
    match TypeSort.ofWord? n.text with
    | some sort => typeExtension sort
    | none =>
      if n.text = "schema" then schemaExtension
      else throw ⟨.unexpected ahead.lexeme, ahead.start⟩
  | found => throw ⟨.unexpected found, ahead.start⟩

/-- The reader of the definition that a word introduces, other than an extension. -/
def definitionOf? (word : String) : Option (Parser Definition) :=
  match TypeSort.ofWord? word with
  | some sort => some (typeDefinition sort)
  | none =>
    match word with
    | "schema" => some schemaDefinition
    | "directive" => some directiveDefinition
    | "query" | "mutation" | "subscription" => some operation
    | "fragment" => some fragment
    | _ => none

/-- A definition is recognised by its first word, or by the one after its description. -/
def definition : Parser Definition := do
  let next ← peek
  if next = .punctuator .braceLeft then shorthandQuery
  else
    let described := next.isString
    let ahead ← if described then (← get).next else get
    match ahead.lexeme with
    | .name n =>
      match definitionOf? n.text with
      | some read => read
      | none =>
        if described then failHere .unexpectedDescription
        else if n.text = "extend" then extension
        else unexpected
    | .punctuator .braceLeft => failHere .describedShorthand
    | found => throw ⟨.unexpected found, ahead.start⟩

def definitionsUntilEnd : Nat → Parser (List Definition)
  | 0 => return []
  | n + 1 => do
    if (← peek) = .eof then return []
    let first ← definition
    return first :: (← definitionsUntilEnd n)

/-- A document holds one definition at least. -/
def document : Parser Document := do
  let first ← definition
  return first :: (← definitionsUntilEnd (← bound))

end Parser

def Document.parse (source : String) : Except SyntaxError Document := do
  let ts ← (Tokens.ofSource source).checked
  return (← (Parser.document.run ts.size).run ts).1

end SchemaFold
