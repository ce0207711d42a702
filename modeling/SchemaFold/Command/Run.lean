import SchemaFold.Command.Generate

/-! The whole command line: options of the program itself, then a command. -/

namespace SchemaFold.Command

inductive GroupOption where
  | version
  | help
  deriving DecidableEq, Repr

def GroupOption.names : GroupOption → List String
  | .version => ["--version"]
  | .help => ["--help"]

def GroupOption.table : OptionTable GroupOption :=
  ⟨[.version, .help], GroupOption.names, fun _ => false⟩

def groupError (message : String) (disk : Disk) : Outcome :=
  usageError groupUsage programName message disk

/-- Help for a command line that says nothing. -/
def noCommand (disk : Disk) : Outcome :=
  { exitCode := 2, stderr := groupHelp, disk }

/-- The first of the program's own options acts at once; without one, the arguments decide. -/
def afterOptions (disk : Disk) (arguments : List String) (go : List String → Outcome) : Outcome :=
  match GroupOption.table.parse false arguments with
  | .error e => optionError groupUsage programName e disk
  | .ok parsed =>
    match parsed.options with
    | (.version, _) :: _ => { exitCode := 0, stdout := versionText, disk }
    | (.help, _) :: _ => { exitCode := 0, stdout := groupHelp, disk }
    | [] => go parsed.arguments

/-- A word that is no command may still be an option of the program. -/
def command (disk : Disk) : List String → Outcome
  | [] => groupError "Missing command." disk
  | "generate" :: arguments => generate disk arguments
  | word :: rest =>
    afterOptions disk (word :: rest) fun _ =>
      groupError ("No such command " ++ Text.quoted word ++ ".") disk

/-- The values that a command line gives to these options of `generate`. -/
def valuesOf (wanted : List GenerateOption) (arguments : List String) : List String :=
  match GroupOption.table.parse false arguments with
  | .ok ⟨[], "generate" :: rest⟩ =>
    match GenerateOption.table.parse true rest with
    | .ok parsed => wanted.flatMap (GenerateRequest.values parsed.options)
    | .error _ => []
  | _ => []

/-- The paths that a command line may read from. -/
def sources (arguments : List String) : List String :=
  valuesOf [.schema, .templateDir] arguments

/-- The paths that a command line may write to. -/
def targets (arguments : List String) : List String :=
  (valuesOf [.output] arguments).flatMap fun output =>
    [output, joinPathText output Generator.defaultFilename]

def run (disk : Disk) (arguments : List String) : Outcome :=
  if arguments.isEmpty then noCommand disk else afterOptions disk arguments (command disk)

end SchemaFold.Command
