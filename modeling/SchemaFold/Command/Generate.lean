import SchemaFold.Command.Help
import SchemaFold.Command.Options
import SchemaFold.Generator

/-! The `generate` command: its options, what they ask for, and carrying it out. -/

namespace SchemaFold.Command

inductive GenerateOption where
  | schema
  | output
  | scalar
  | handTyped
  | root
  | header
  | excludePrefix
  | templateDir
  | verbose
  | help
  deriving DecidableEq, Repr

namespace GenerateOption

/-- In the order of their declaration. -/
def all : List GenerateOption :=
  [schema, output, scalar, handTyped, root, header, excludePrefix, templateDir, verbose, help]

def names : GenerateOption → List String
  | schema => ["--schema", "-s"]
  | output => ["--output", "-o"]
  | scalar => ["--scalar"]
  | handTyped => ["--opaque"]
  | root => ["--root"]
  | header => ["--header"]
  | excludePrefix => ["--exclude-prefix"]
  | templateDir => ["--template-dir"]
  | verbose => ["--verbose", "-v"]
  | help => ["--help"]

def takesValue : GenerateOption → Bool
  | verbose | help => false
  | _ => true

def table : OptionTable GenerateOption :=
  ⟨all, names, takesValue⟩

/-- An option's names as messages show them. -/
def shown (o : GenerateOption) : String :=
  " / ".intercalate (o.names.map Text.quoted)

end GenerateOption

/-- How a command line is misused, apart from its options' syntax. -/
inductive Misuse where
  | missing (option : GenerateOption)
  | noSuchPath (option : GenerateOption) (path : String)
  | isFile (option : GenerateOption) (path : String)
  | notReadable (option : GenerateOption) (path : String)
  | notMapping (value : String)
  | extra (arguments : List String)
  | settings (complaints : List Settings.Complaint)

def complaintText (c : Settings.Complaint) : String :=
  c.field.label ++ "\n  " ++ c.cause.message

def settingsText (complaints : List Settings.Complaint) : String :=
  let count := complaints.length
  toString count ++ (if count = 1 then " validation error" else " validation errors") ++
    " for GeneratorConfig\n" ++ "\n".intercalate (complaints.map complaintText)

def mappingText (value : String) : String :=
  "expected NAME=TYPE, got " ++ Text.quoted value

def Misuse.message : Misuse → String
  | .missing option => "Missing option " ++ option.shown ++ "."
  | .noSuchPath option path =>
    "Invalid value for " ++ option.shown ++ ": Path " ++ Text.quoted path ++ " does not exist."
  | .isFile option path =>
    "Invalid value for " ++ option.shown ++ ": Directory " ++ Text.quoted path ++ " is a file."
  | .notReadable option path =>
    "Invalid value for " ++ option.shown ++
      (if option = .templateDir then ": Directory " else ": Path ") ++ Text.quoted path ++
      " is not readable."
  | .notMapping value =>
    "Invalid value for " ++ GenerateOption.scalar.shown ++ ": " ++ mappingText value
  | .extra [argument] => "Got unexpected extra argument (" ++ argument ++ ")"
  | .extra arguments => "Got unexpected extra arguments (" ++ " ".intercalate arguments ++ ")"
  | .settings complaints => settingsText complaints

/-- A name and its type around the first equals sign, both without the white space at their
ends. -/
def scalarMapping? (value : String) : Option (String × String) :=
  let name := value.toList.takeWhile (· != '=')
  match value.toList.drop name.length with
  | [] => none
  | _ :: type =>
    let name := Text.trim (String.ofList name)
    let type := Text.trim (String.ofList type)
    if name.isEmpty || type.isEmpty then none else some (name, type)

/-- The mapping that the values give, or the first value that gives none. -/
def scalarMappings (values : List String) : Except String (List (String × String)) := do
  let pairs ← values.mapM fun value =>
    match scalarMapping? value with
    | some pair => .ok pair
    | none => .error value
  return Assoc.ofPairs pairs

/-- Why a command line is not carried out. -/
inductive Refusal where
  | misuse (m : Misuse)
  | failure (f : Failure)

/-- What a well-formed command line asks for. -/
structure GenerateRequest where
  schema : String
  output : String
  scalars : List (String × String)
  handTyped : List String
  roots : List String
  header : Option String
  excludePrefix : Option String
  templateDir : Option String
  verbose : Bool

namespace GenerateRequest

/-- The values of an option, in order. -/
def values (options : List (GenerateOption × String)) (o : GenerateOption) : List String :=
  (options.filter (·.1 = o)).map Prod.snd

/-- The last of an option's values counts. -/
def value? (options : List (GenerateOption × String)) (o : GenerateOption) : Option String :=
  (values options o).getLast?

def checkReadable (disk : Disk) (o : GenerateOption) (path : String) : Except Refusal Unit :=
  if disk.isDenied path then .error (.misuse (.notReadable o path)) else .ok ()

/-- A path is looked up whatever it is for, and must not be denied if something is there. -/
def checkPath (disk : Disk) (o : GenerateOption) (path : String) : Except Refusal Unit :=
  match disk.locateText path, o with
  | .error .nullByte, _ => .error (.failure (.file ⟨.nullByte, path⟩))
  | _, .schema =>
    if disk.existsText path then checkReadable disk o path
    else .error (.misuse (.noSuchPath o path))
  | _, .templateDir =>
    if disk.isFileText path then .error (.misuse (.isFile o path))
    else checkReadable disk o path
  | _, _ => checkReadable disk o path

def check (disk : Disk) (options : List (GenerateOption × String)) (o : GenerateOption) :
    Except Refusal Unit :=
  match o, value? options o with
  | .schema, none | .output, none => .error (.misuse (.missing o))
  | .schema, some path | .output, some path | .templateDir, some path => checkPath disk o path
  | .scalar, _ =>
    match scalarMappings (values options .scalar) with
    | .ok _ => .ok ()
    | .error value => .error (.misuse (.notMapping value))
  | _, _ => .ok ()

/-- Options are checked as first given, then those not given as declared. -/
def checkOrder (options : List (GenerateOption × String)) : List GenerateOption :=
  let given := (options.map Prod.fst).eraseDups
  given ++ GenerateOption.all.filter (!given.contains ·)

def ofParsed (disk : Disk) (parsed : Parsed GenerateOption) : Except Refusal GenerateRequest := do
  let options := parsed.options
  for o in checkOrder options do
    check disk options o
  if parsed.arguments ≠ [] then throw (.misuse (.extra parsed.arguments))
  let scalars ← (scalarMappings (values options .scalar)).mapError (.misuse ∘ .notMapping)
  return {
    schema := (value? options .schema).getD ""
    output := (value? options .output).getD ""
    scalars
    handTyped := values options .handTyped
    roots := values options .root
    header := value? options .header
    excludePrefix := value? options .excludePrefix
    templateDir := value? options .templateDir
    verbose := (values options .verbose) ≠ [] }

/-- Sets that were not given keep their defaults. -/
def setOf (names : List String) : Option Settings.Given :=
  if names.isEmpty then none else some (.list (names.map .text))

def draft (r : GenerateRequest) : Settings.Draft where
  scalars := some (.mapping (r.scalars.map fun (name, type) => (name, .text type)))
  handTyped := setOf r.handTyped
  operationRoots := setOf r.roots
  templateDir := r.templateDir.map .text

def filled : Option String → Option String
  | some text => if text.isEmpty then none else some text
  | none => none

/-- Neither an empty header nor an empty prefix is a hook. -/
def hooks (r : GenerateRequest) : Hooks where
  pre := (filled r.excludePrefix).toList.map fun text =>
    NameFilter.hook { excludePrefix := some text }
  post := (filled r.header).toList.map headerHook

end GenerateRequest

/-- What a command does: its exit code, what it prints, and the disk that it leaves. A failure that
the command has no message for is handed on. -/
structure Outcome where
  exitCode : Nat
  stdout : String := ""
  stderr : String := ""
  disk : Disk
  failure : Option Failure := none
  log : List Log.Record := []

/-- A failure that the command reports itself. -/
def reported? : Failure → Option String
  | .load e => some e.message
  | .fold f =>
    match f with
    | .missingType .. | .untypedField .. | .notDocument _ => some f.message
    | _ => none
  | _ => none

def usageError (usage path : String) (message : String) (disk : Disk) : Outcome where
  exitCode := 2
  stderr := usage ++ "\nTry '" ++ path ++ " --help' for help.\n\nError: " ++ message ++ "\n"
  disk

def generateMisuse (m : Misuse) (disk : Disk) : Outcome :=
  usageError generateUsage "gql-tsgen generate" m.message disk

/-- An option without its argument is reported without the usage lines. -/
def optionError (usage path : String) (e : OptionError) (disk : Disk) : Outcome :=
  match e with
  | .unknown _ => usageError usage path e.message disk
  | _ => { exitCode := 2, stderr := "Error: " ++ e.message ++ "\n", disk }

def logText (verbose : Bool) (log : List Log.Record) : String :=
  String.join ((log.filter fun r => verbose || r.level = .warning).map fun r => r.render ++ "\n")

/-- The first lines that a request prints. -/
def announcement (disk : Disk) (r : GenerateRequest) : String :=
  (if r.verbose then
    "Schema: " ++ disk.resolveText r.schema ++ "\nOutput: " ++ disk.resolveText r.output ++ "\n"
  else "") ++ "Generating declarations...\n"

def carryOut (disk : Disk) (r : GenerateRequest) : Outcome :=
  match Settings.ofDraft r.draft with
  | .error complaints => generateMisuse (.settings complaints) disk
  | .ok settings =>
    let printed := announcement disk r
    match Generator.ofSettings settings r.hooks with
    | .error f => { exitCode := 1, stdout := printed, disk, failure := some f }
    | .ok g =>
      let (disk, written) := g.generate disk (disk.resolveText r.schema) r.output
      let log := written.log
      let stderr := logText r.verbose log
      match written.result with
      | .ok (path, _) =>
        { exitCode := 0, stderr, disk, log
          stdout := printed ++ "Done! Generated declarations in " ++ path.text ++ "\n" }
      | .error f =>
        match reported? f with
        | some message =>
          { exitCode := 1, stdout := printed, disk, log
            stderr := stderr ++ "Error: " ++ message ++ "\n" }
        | none => { exitCode := 1, stdout := printed, stderr, disk, failure := some f, log }

def generate (disk : Disk) (arguments : List String) : Outcome :=
  match GenerateOption.table.parse true arguments with
  | .error e => optionError generateUsage "gql-tsgen generate" e disk
  | .ok parsed =>
    if parsed.options.any (·.1 = .help) then { exitCode := 0, stdout := generateHelp, disk }
    else
      match GenerateRequest.ofParsed disk parsed with
      | .error (.misuse m) => generateMisuse m disk
      | .error (.failure f) => { exitCode := 1, disk, failure := some f }
      | .ok request => carryOut disk request

end SchemaFold.Command
