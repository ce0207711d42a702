import SchemaFold.Disk
import SchemaFold.Log
import SchemaFold.Template.Layout
import SchemaFold.Text.Encoding

/-! The two templates that declarations are written with. A folder may hold others in their
place. -/

namespace SchemaFold

structure TemplateSet where
  interfaceText : Template
  aliasText : Template

namespace TemplateSet

inductive Fault where
  | template (f : Template.Fault)
  | undecodable (f : Text.DecodeFault)
  | folder (f : FileFault)
  | unopened (f : FileFault)
  deriving DecidableEq, Repr

def interfaceFile : String :=
  "interface.ts.j2"

def aliasFile : String :=
  "alias.ts.j2"

def builtinInterface : String :=
  "interface \x7b\x7b name \x7d\x7d \x7b% if interfaces %\x7dextends " ++
    "\x7b\x7b interfaces | join(\", \") \x7d\x7d \x7b% endif %\x7d\x7b\n" ++
    "\x7b% for field in fields %\x7d\x7b\x7b indent \x7d\x7d\x7b\x7b field \x7d\x7d\n" ++
    "\x7b% endfor %\x7d\x7d\n"

def builtinAlias : String :=
  "type \x7b\x7b name \x7d\x7d = \x7b\x7b members | join(\" | \") \x7d\x7d\n"

/-- The text of a template: the file of that name in the folder, or the one built in. -/
def source (d : Disk) (folder : Option Path) (file builtin : String) : Except Fault String :=
  match folder with
  | none => .ok builtin
  | some p =>
    match (d.entryAt (d.locate (p.child file))).bind Entry.content? with
    | some (.ok bytes) => (Text.Encoding.utf8.read bytes).mapError .undecodable
    | some (.error lock) => .error (.unopened ⟨.locked lock, joinPathText p.text file⟩)
    | none => .ok builtin

def readFrom (d : Disk) (folder : Option Path) (file builtin : String) : Except Fault Template := do
  (Template.load file (← source d folder file builtin)).mapError .template

/-- The folder to take templates from. One that is not there is reported and left out of account;
an empty path asks for none. -/
def folder (d : Disk) : Option String → Traced Fault (Option Path)
  | none => pure none
  | some text => do
    if text.isEmpty then return none
    let path := Path.ofText text
    if ← .ofExcept ((d.checkFolder path).mapError .folder) then return some path
    Traced.note .warning .fold
      ("Template directory " ++ text ++ " not found, using built-in templates")
    return none

/-- Both templates, read whether or not they will be used. -/
def load (d : Disk) (templateDir : Option String) : Traced Fault TemplateSet := do
  let folder ← folder d templateDir
  let interfaceText ← .ofExcept (readFrom d folder interfaceFile builtinInterface)
  let aliasText ← .ofExcept (readFrom d folder aliasFile builtinAlias)
  return { interfaceText, aliasText }

end TemplateSet
end SchemaFold
