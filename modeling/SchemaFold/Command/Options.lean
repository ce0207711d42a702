import SchemaFold.Text.Quoted

/-! Options on a command line. Long names may carry a value after an equals sign; names of one
letter may be run together, with a value after the last. -/

namespace SchemaFold.Command

/-- A set of options: the names that each is known by, and whether it takes a value. -/
structure OptionTable (ι : Type) where
  all : List ι
  names : ι → List String
  takesValue : ι → Bool

inductive OptionError where
  | unknown (name : String)
  | needsArgument (name : String)
  | takesNoValue (name : String)
  deriving DecidableEq, Repr

def OptionError.message : OptionError → String
  | .unknown name => "No such option " ++ Text.quoted name ++ "."
  | .needsArgument name => "Option " ++ Text.quoted name ++ " requires an argument."
  | .takesNoValue name => "Option " ++ Text.quoted name ++ " does not take a value."

/-- Options in the order given, with their values, and the arguments that are left. -/
structure Parsed (ι : Type) where
  options : List (ι × String)
  arguments : List String

namespace Parsed

def addOptions {ι : Type} (options : List (ι × String)) (p : Parsed ι) : Parsed ι :=
  { p with options := options ++ p.options }

def addArgument {ι : Type} (argument : String) (p : Parsed ι) : Parsed ι :=
  { p with arguments := argument :: p.arguments }

end Parsed

/-- What a word of a command line is: the two dashes that end the options, an argument, options, or
options of which the last takes the next word as its value. -/
inductive Word (ι : Type) where
  | dashes
  | argument
  | options (options : List (ι × String))
  | valued (options : List (ι × String)) (last : ι) (name : String)

namespace OptionTable

def find? {ι : Type} (t : OptionTable ι) (name : String) : Option ι :=
  t.all.find? fun option => (t.names option).contains name

/-- Letters after one dash: the options they name, and the one whose value is the next argument. -/
def letters {ι : Type} (t : OptionTable ι) :
    List Char → Except OptionError (List (ι × String) × Option (ι × String))
  | [] => .ok ([], none)
  | c :: cs =>
    let name := String.ofList ['-', c]
    match t.find? name with
    | none => .error (.unknown name)
    | some option =>
      if t.takesValue option then
        if cs.isEmpty then .ok ([], some (option, name))
        else .ok ([(option, String.ofList cs)], none)
      else do
        let (options, open') ← t.letters cs
        return ((option, "") :: options, open')

def isLong (argument : String) : Bool :=
  ['-', '-'].isPrefixOf argument.toList

def isOption (argument : String) : Bool :=
  argument.toList.head? == some '-' && 1 < argument.length

/-- A long name, and what follows its equals sign. -/
def splitValue (argument : String) : String × Option String :=
  let name := argument.toList.takeWhile (· != '=')
  match argument.toList.drop name.length with
  | [] => (argument, none)
  | _ :: value => (String.ofList name, some (String.ofList value))

def word {ι : Type} (t : OptionTable ι) (text : String) : Except OptionError (Word ι) :=
  if text = "--" then .ok .dashes
  else if !isOption text then .ok .argument
  else
    let (name, value) := splitValue text
    match if isLong name then t.find? name else none with
    | some option =>
      if t.takesValue option then
        match value with
        | some value => .ok (.options [(option, value)])
        | none => .ok (.valued [] option name)
      else if value.isSome then .error (.takesNoValue name)
      else .ok (.options [(option, "")])
    | none =>
      if isLong text then .error (.unknown name)
      else do
        match ← t.letters (text.toList.drop 1) with
        | (options, none) => return .options options
        | (options, some (last, name)) => return .valued options last name

/-- Reads a command line. Two dashes alone end the options; if options and arguments do not mix,
so does the first argument. -/
def parse {ι : Type} (t : OptionTable ι) (mixed : Bool) :
    List String → Except OptionError (Parsed ι)
  | [] => .ok ⟨[], []⟩
  | text :: rest =>
    match t.word text with
    | .error e => .error e
    | .ok .dashes => .ok ⟨[], rest⟩
    | .ok .argument =>
      if mixed then Parsed.addArgument text <$> t.parse mixed rest else .ok ⟨[], text :: rest⟩
    | .ok (.options options) => Parsed.addOptions options <$> t.parse mixed rest
    | .ok (.valued options last name) =>
      match rest with
      | [] => .error (.needsArgument name)
      | value :: rest => Parsed.addOptions (options ++ [(last, value)]) <$> t.parse mixed rest

end OptionTable
end SchemaFold.Command
