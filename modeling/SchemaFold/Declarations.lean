import SchemaFold.Log
import SchemaFold.Tree.Value

/-! The text of a module: its declarations, each under the export keyword, with a blank line
between them. -/

namespace SchemaFold.Declarations

def separator : String :=
  "\n\n"

def exported (keyword declaration : String) : String :=
  if keyword.isEmpty then declaration else keyword ++ " " ++ declaration

/-- The texts among the entries. -/
def texts (entries : List Value) : List String :=
  entries.filterMap fun
    | .text s => some s
    | _ => none

def moduleText (keyword : String) (entries : List Value) : String :=
  separator.intercalate ((texts entries).map (exported keyword))

def skipped? : Value → Option Log.Record
  | .absent | .suppressed | .text _ => none
  | .node kind _ => some (note kind.label)
  | v => some (note v.display)
where
  note (what : String) : Log.Record :=
    ⟨.debug, .declarations, "Skipping " ++ what ++ " without a TypeScript counterpart"⟩

/-- The module's text, with a record for every entry that is neither text nor left out on
purpose. -/
def emit {ε : Type} (keyword : String) (entries : List Value) : Traced ε String :=
  ⟨entries.filterMap skipped?, .ok (moduleText keyword entries)⟩

end SchemaFold.Declarations
