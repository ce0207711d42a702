import SchemaFold.Declarations
import SchemaFold.Fold
import SchemaFold.Hook
import SchemaFold.Schema

/-! Generating the declarations of a schema: load it, run the hooks before, fold it, join the
declarations, run the hooks after, write the file. -/

namespace SchemaFold

/-- Everything that can keep a request from being carried out. -/
inductive Failure where
  | document (e : SyntaxError) (position : Text.Position)
  | load (e : Schema.LoadError)
  | encoding (f : Text.Encoding.NameFault)
  | settings (complaints : List Settings.Complaint)
  | scalar (r : Registry.Refusal)
  | template (f : Template.Fault)
  | fold (f : Fold.Fault)
  | file (f : FileFault)
  | undecodable (f : Text.DecodeFault)
  | noGenerator (id : String)

def Failure.ofSchema : Schema.Failure → Failure
  | .load e => .load e
  | .encoding f => .encoding f

def Failure.ofFold : FoldFailure → Failure
  | .fold (.template f) => .template f
  | .fold f => .fold f
  | .templates (.template f) => .template f
  | .templates (.undecodable f) => .undecodable f
  | .templates (.folder f) | .templates (.unopened f) => .file f

def Failure.message : Failure → String
  | .document e _ => e.message
  | .load e => e.message
  | .encoding f => f.message
  | .settings complaints =>
    "\n".intercalate (complaints.map fun c => c.field.label ++ ": " ++ c.cause.message)
  | .scalar r => r.message
  | .template f => f.message
  | .fold f => f.message
  | .file f => f.message
  | .undecodable f => f.message
  | .noGenerator id => Text.quoted id

def Document.ofSource (source : String) : Except Failure Document :=
  (Document.parse source).mapError fun e => .document e (e.position source)

/-- The definitions of a document by kind and name. -/
def Document.outline (d : Document) : List (Kind × Option String) :=
  d.map fun definition => (definition.kind, definition.name?.map Name.text)

structure Generator where
  settings : Settings
  registry : Registry
  hooks : Hooks := {}

namespace Generator

def ofSettings (settings : Settings) (hooks : Hooks := {}) : Except Failure Generator := do
  let registry ← settings.registry.mapError .scalar
  return { settings, registry, hooks }

def ofDraft (draft : Settings.Draft) (hooks : Hooks := {}) : Except Failure Generator := do
  ofSettings (← (Settings.ofDraft draft).mapError .settings) hooks

def register (g : Generator) (name type : String) : Except Failure Generator := do
  return { g with registry := ← (g.registry.register name type).mapError .scalar }

def defaultFilename : String :=
  "schema.d.ts"

/-- The declarations for a document, with the hooks that run before but not those after. -/
def render (g : Generator) (disk : Disk) (document : Document) : Traced Failure String := do
  let tree := Document.toTree (g.hooks.runPre document)
  let entries ← (foldTree disk g.settings g.registry tree).mapError .ofFold
  Declarations.emit g.settings.exportKeyword entries

def renderSource (g : Generator) (disk : Disk) (source : String) : Traced Failure String := do
  g.render disk (← .ofExcept (Document.ofSource source))

/-- The file to write: a folder, or a path that ends in a slash, stands for a file in it. -/
def target (disk : Disk) (output : String) : Except FileFault Path := do
  let path := Path.ofText output
  let isFolder ← disk.checkFolder path
  return if isFolder || endsInSlash output then path.child defaultFilename else path

/-- What is to be written, before anything is. -/
def compose (g : Generator) (disk : Disk) (schema output : String) :
    Traced Failure (Path × String) := do
  let document ← (Schema.load disk schema).mapError .ofSchema
  let path ← .ofExcept ((target disk output).mapError .file)
  let content ← g.render disk document
  return (path, g.hooks.runPost path.name content)

/-- Writes the declarations of a schema, and yields the disk as it is then. -/
def generate (g : Generator) (disk : Disk) (schema output : String) :
    Disk × Traced Failure (Path × String) :=
  let composed := g.compose disk schema output
  match composed.result with
  | .error _ => (disk, composed)
  | .ok (path, content) =>
    match disk.save path (Text.Utf8.encode content) with
    | (disk, .error f) => (disk, ⟨composed.log, .error (.file f)⟩)
    | (disk, .ok ()) =>
      (disk, do
        let written ← composed
        Traced.note .info .generator ("Wrote " ++ path.text)
        return written)

end Generator
end SchemaFold
