import SchemaFold.Fold.Visit
import SchemaFold.Tree.OfDocument

/-! Folding a document's tree into the entries of its definitions. -/

namespace SchemaFold

namespace Fold

/-- The names of the types that a schema definition names as its operation types. -/
def operationTypeNames (v : Value) : Except Fault (List Value) :=
  match v with
  | .node .schemaDefinition parts => do
    (← items (Value.part .operationTypes parts)).mapM fun operationType => do
      partOf .value (← partOf .name (← partOf .type operationType))
  | _ => .ok []

/-- The names of the object types to leave out: those of the settings, and those that any schema
definition of the document names as operation types. -/
def operationRoots (settings : Settings) (document : Value) : Except Fault (List Value) := do
  let definitions ← items (← partOf .definitions document)
  let named ← definitions.mapM operationTypeNames
  return settings.operationRoots.map .text ++ named.flatten

/-- The entries that a whole document has folded into. -/
def entriesOf : Value → Except Fault (List Value)
  | .entries entries => .ok entries
  | v => .error (.notDocument v)

end Fold

/-- What can go wrong between a document's tree and its entries. -/
inductive FoldFailure where
  | fold (f : Fold.Fault)
  | templates (f : TemplateSet.Fault)

/-- The rules for documents whose operation roots are `roots`. -/
def Fold.Rules.load (disk : Disk) (settings : Settings) (registry : Registry)
    (roots : List Value) : Traced FoldFailure Fold.Rules := do
  let templates ← (TemplateSet.load disk settings.templateDir).mapError .templates
  return { settings, registry, roots, templates }

/-- The entries of a document's definitions, one each, in order. -/
def foldTree (disk : Disk) (settings : Settings) (registry : Registry) (document : Value) :
    Traced FoldFailure (List Value) := do
  let roots ← Traced.ofExcept ((Fold.operationRoots settings document).mapError .fold)
  let rules ← Fold.Rules.load disk settings registry roots
  let folded ← (rules.fold document).mapError .fold
  let entries ← Traced.ofExcept ((Fold.entriesOf folded).mapError .fold)
  Traced.note .debug .fold ("Folded " ++ toString entries.length ++ " definitions")
  return entries

/-- What the rule with this label makes of a single value, its parts taken as they are. -/
def leaveNode (disk : Disk) (settings : Settings) (registry : Registry)
    (roots : Option (List Value)) (label : String) (node : Value) :
    Traced FoldFailure Value := do
  let standard := settings.operationRoots.map Value.text
  let rules ← Fold.Rules.load disk settings registry (roots.getD standard)
  match Fold.Rules.ruled.find? (·.label == label) with
  | some rule => (rules.leave rule node).mapError .fold
  | none => .fail (.fold (.noRule label))

end SchemaFold
