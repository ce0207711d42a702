import SchemaFold.Scalar
import SchemaFold.Text.Blank

/-! Settings of a conversion. They are built from whatever was given for each field, and either
every field is acceptable or all complaints are reported, in the order of the fields. -/

namespace SchemaFold

structure Settings where
  scalars : List (String × String) := []
  handTyped : List String := Scalar.defaultHandTyped
  operationRoots : List String := ["Query", "Mutation", "Subscription"]
  optionalMarker : String := "?"
  exportKeyword : String := "export"
  indent : String := "\t"
  templateDir : Option String := none
  deriving DecidableEq, Repr

namespace Settings

inductive Field where
  | scalars
  | handTyped
  | operationRoots
  | optionalMarker
  | exportKeyword
  | indent
  | templateDir
  deriving DecidableEq, Repr

def Field.label : Field → String
  | .scalars => "scalars"
  | .handTyped => "opaque_scalars"
  | .operationRoots => "operation_roots"
  | .optionalMarker => "optional_marker"
  | .exportKeyword => "export_keyword"
  | .indent => "indent"
  | .templateDir => "template_dir"

/-- A value given for a field, of whatever sort. -/
inductive Given where
  | null
  | text (s : String)
  | list (items : List Given)
  | mapping (entries : List (String × Given))
  | other

/-- What was given for each field; `none` asks for the default. -/
structure Draft where
  scalars : Option Given := none
  handTyped : Option Given := none
  operationRoots : Option Given := none
  optionalMarker : Option Given := none
  exportKeyword : Option Given := none
  indent : Option Given := none
  templateDir : Option Given := none

inductive Cause where
  | notText
  | notMapping
  | notSet
  | invalidName (name : String)
  | remapped (names : List String)
  | emptyType (scalar : String)
  deriving DecidableEq, Repr

def Cause.label : Cause → String
  | .notText => "string_type"
  | .notMapping => "dict_type"
  | .notSet => "frozen_set_type"
  | .invalidName _ | .remapped _ | .emptyType _ => "value_error"

def Cause.message : Cause → String
  | .notText => "Input should be a valid string"
  | .notMapping => "Input should be a valid dictionary"
  | .notSet => "Input should be a valid frozenset"
  | .invalidName name => "Value error, invalid GraphQL name: " ++ Text.quoted name
  | .remapped names =>
    "Value error, built-in scalars cannot be remapped: " ++ ", ".intercalate names
  | .emptyType scalar => "Value error, empty TypeScript type for scalar " ++ Text.quoted scalar

/-- Where inside a field a complaint is about. -/
inductive Place where
  | whole
  | entry (key : String)
  | item (index : Nat)
  deriving DecidableEq, Repr

structure Complaint where
  field : Field
  place : Place
  cause : Cause
  deriving DecidableEq, Repr

abbrev Checked (α : Type) :=
  Except (List Complaint) α

def readText (field : Field) : Given → Checked String
  | .text s => .ok s
  | _ => .error [⟨field, .whole, .notText⟩]

def readOptionalText (field : Field) : Given → Checked (Option String)
  | .null => .ok none
  | given => some <$> readText field given

/-- All texts of a list, or a complaint for each item that is none. -/
def readTexts {κ : Type} (complain : κ → Complaint) : List (κ × Given) → Checked (List (κ × String))
  | [] => .ok []
  | (k, given) :: rest =>
    match given, readTexts complain rest with
    | .text s, .ok texts => .ok ((k, s) :: texts)
    | .text _, .error complaints => .error complaints
    | _, .ok _ => .error [complain k]
    | _, .error complaints => .error (complain k :: complaints)

def readScalars : Given → Checked (List (String × String))
  | .mapping entries =>
    readTexts (fun key => ⟨.scalars, .entry key, .notText⟩) (Assoc.ofPairs entries)
  | _ => .error [⟨.scalars, .whole, .notMapping⟩]

def readSet (field : Field) : Given → Checked (List String)
  | .list items => do
    let texts ← readTexts (fun index => ⟨field, .item index, .notText⟩)
      ((List.range items.length).zip items)
    return (texts.map Prod.snd).eraseDups
  | _ => .error [⟨field, .whole, .notSet⟩]

/-- The first name that is not acceptable. -/
def checkNames (names : List String) : Except Cause Unit :=
  match names.find? fun name => !Name.accepted name with
  | some name => .error (.invalidName name)
  | none => .ok ()

def checkScalars (scalars : List (String × String)) : Except Cause Unit := do
  checkNames (scalars.map Prod.fst)
  let remapped := (scalars.map Prod.fst).filter Scalar.isBuiltin
  if remapped ≠ [] then
    throw (.remapped (remapped.mergeSort (· ≤ ·)))
  match scalars.find? fun (_, type) => Text.allBlank type with
  | some (name, _) => throw (.emptyType name)
  | none => return ()

def checked {α : Type} (field : Field) (check : α → Except Cause Unit) (value : α) : Checked α :=
  match check value with
  | .error cause => .error [⟨field, .whole, cause⟩]
  | .ok () => .ok value

/-- The field as given, or its default when it was not. -/
def given {α : Type} (value : Option Given) (read : Given → Checked α) (default : α) : Checked α :=
  match value with
  | some g => read g
  | none => .ok default

def complaints {α : Type} : Checked α → List Complaint
  | .error cs => cs
  | .ok _ => []

def ofDraft (d : Draft) : Checked Settings :=
  let standard : Settings := {}
  let scalars := given d.scalars readScalars standard.scalars >>= checked .scalars checkScalars
  let handTyped := given d.handTyped (readSet .handTyped) standard.handTyped >>=
    checked .handTyped checkNames
  let operationRoots := given d.operationRoots (readSet .operationRoots) standard.operationRoots >>=
    checked .operationRoots checkNames
  let optionalMarker := given d.optionalMarker (readText .optionalMarker) standard.optionalMarker
  let exportKeyword := given d.exportKeyword (readText .exportKeyword) standard.exportKeyword
  let indent := given d.indent (readText .indent) standard.indent
  let templateDir := given d.templateDir (readOptionalText .templateDir) standard.templateDir
  match scalars, handTyped, operationRoots, optionalMarker, exportKeyword, indent, templateDir with
  | .ok scalars, .ok handTyped, .ok operationRoots, .ok optionalMarker, .ok exportKeyword,
    .ok indent, .ok templateDir =>
    .ok { scalars, handTyped, operationRoots, optionalMarker, exportKeyword, indent, templateDir }
  | _, _, _, _, _, _, _ =>
    .error (complaints scalars ++ complaints handTyped ++ complaints operationRoots ++
      complaints optionalMarker ++ complaints exportKeyword ++ complaints indent ++
      complaints templateDir)

/-- Why settings are not changed: none of their fields can be set, nor an entry of their scalars. -/
inductive Immutable where
  | field (name : String)
  | scalar
  deriving DecidableEq, Repr

def Immutable.message : Immutable → String
  | .field _ => "Instance is frozen"
  | .scalar => "'mappingproxy' object does not support item assignment"

def assign (_ : Settings) (field : String) : Except Immutable Settings :=
  .error (.field field)

def assignScalar (_ : Settings) (_name _type : String) : Except Immutable Settings :=
  .error .scalar

/-- The registry that a conversion with these settings starts from. -/
def registry (s : Settings) : Except Registry.Refusal Registry :=
  Registry.build s.scalars s.handTyped

end Settings
end SchemaFold
