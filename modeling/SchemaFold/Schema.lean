import SchemaFold.Disk
import SchemaFold.Grammar.Parser
import SchemaFold.Log
import SchemaFold.Text.Encoding

/-! Loading a schema: a file, or all schema files below a folder in the order of their paths. -/

namespace SchemaFold.Schema

def extensions : List String :=
  [".graphql", ".graphqls", ".gql"]

def isSchemaFile (name : String) : Bool :=
  extensions.any fun ext => ext.toList.isSuffixOf name.toList

inductive Cause where
  | missing
  | noFiles
  | unopened (f : FileFault)
  | unreadable (f : Text.DecodeFault)
  | invalid (e : SyntaxError) (position : Text.Position)
  deriving DecidableEq

/-- Why a schema is not loaded, and the file or path that this is about. -/
structure LoadError where
  source : String
  cause : Cause
  deriving DecidableEq

def Cause.message : Cause → String
  | .missing => "no such file or directory"
  | .noFiles => "no schema files found"
  | .unopened f => "cannot read schema: " ++ f.message
  | .unreadable f => "cannot read schema: " ++ f.message
  | .invalid e position =>
    e.message ++ " (line " ++ toString position.line ++ ", column " ++ toString position.column ++
      ")"

def LoadError.message (e : LoadError) : String :=
  if e.source.isEmpty then e.cause.message else e.source ++ ": " ++ e.cause.message

inductive Failure where
  | load (e : LoadError)
  | encoding (f : Text.Encoding.NameFault)
  deriving DecidableEq

/-- A schema file: its path's text, and what opening it yields. -/
abbrev File := String × Except Lock (List UInt8)

/-- Whether the file with these names below a folder is a schema file, in a folder whose own path is
not too long to look into it. -/
def selects (folder : String) (names : List String) : Bool :=
  isSchemaFile (names.getLast?.getD "") &&
    (pathBelow folder names.dropLast).utf8ByteSize < Disk.pathBound

/-- The schema files below a folder, by the text of its path. -/
def filesBelow (d : Disk) (folder : String) (loc : Location) : List File :=
  ((d.filesBelow loc).filter fun (names, _) => selects folder names).map
    fun (names, content) => (pathBelow folder names, content)

def inPathOrder (files : List File) : List File :=
  files.mergeSort fun a b => a.1 ≤ b.1

/-- The files of a schema in order: the file that the path denotes, or those below the folder. -/
def files (d : Disk) (path : String) : Except LoadError (List File) :=
  match d.locateText path with
  | .error _ => .error ⟨path, .missing⟩
  | .ok loc =>
    match d.found? loc with
    | none => .error ⟨path, .missing⟩
    | some entry =>
      match entry.content? with
      | some content => .ok [(path, content)]
      | none =>
        match inPathOrder (filesBelow d path loc) with
        | [] => .error ⟨path, .noFiles⟩
        | files => .ok files

/-- The definitions of a text; one that holds nothing has none. -/
def definitions (text : String) : Except SyntaxError Document := do
  if ← hasDefinitions text then Document.parse text else return []

/-- The bytes of a file, by its path as it is handed to the system. -/
def bytesOf (file : File) : Except FileFault.Cause (List UInt8) := do
  Disk.checkPath file.1
  file.2.mapError .locked

/-- The encoding that a file is opened with, and its bytes. The encoding is looked up by its name
once the file is open. -/
def openFile (encoding : String) (file : File) : Except Failure (Text.Encoding × List UInt8) :=
  match Text.Encoding.ofName encoding, bytesOf file with
  | .error .nullCharacter, _ => .error (.encoding .nullCharacter)
  | _, .error cause => .error (.load ⟨baseName file.1, .unopened ⟨cause, file.1⟩⟩)
  | .error f, .ok _ => .error (.encoding f)
  | .ok encoding, .ok bytes => .ok (encoding, bytes)

def readFile (encoding : String) (file : File) : Traced Failure Document := do
  let source := baseName file.1
  let (encoding, bytes) ← .ofExcept (openFile encoding file)
  match encoding.read bytes with
  | .error f => .fail (.load ⟨source, .unreadable f⟩)
  | .ok text =>
    match definitions text with
    | .error e => .fail (.load ⟨source, .invalid e (e.position text)⟩)
    | .ok document =>
      if document.isEmpty then Traced.note .debug .schema (source ++ " has no definitions")
      Traced.note .debug .schema
        ("Parsed " ++ file.1 ++ ": " ++ toString document.length ++ " definitions")
      return document

def readFiles (encoding : String) : List File → Traced Failure Document
  | [] => pure []
  | file :: files => do
    let first ← readFile encoding file
    return first ++ (← readFiles encoding files)

/-- The definitions of all files of a schema, as one document. -/
def load (d : Disk) (path : String) (encoding : String := "utf-8") :
    Traced Failure Document := do
  let files ← .ofExcept ((files d path).mapError .load)
  readFiles encoding files

end SchemaFold.Schema
