import SchemaFold.Proofs.Rendering

/-! What a module declares, apart from how it is written: interfaces with their fields, and aliases
with their members. A document is rendered by writing down what it declares, in the way that the
settings ask for. -/

namespace SchemaFold

theorem Name.wellFormed_resolved (n : Name) : Name.wellFormed n.resolved.toList = true := by
  have hvalues : ∀ entry ∈ Scalar.builtins, Name.wellFormed entry.2.toList = true := by decide
  unfold Name.resolved Scalar.resolve
  cases h : Assoc.get? n.text Scalar.builtins with
  | none => exact n.valid
  | some type => exact hvalues _ (Assoc.mem_of_get? h)

/-- The name of the type that a reference stands for. -/
def Name.target (n : Name) : Name where
  text := n.resolved
  valid := n.wellFormed_resolved

/-- The type that a reference comes down to once it is out of all lists. -/
def TypeRef.base : TypeRef → Name
  | .named n _ => n.target
  | .list item _ => item.base

def TypeRef.depth : TypeRef → Nat
  | .named _ _ => 0
  | .list item _ => item.depth + 1

structure Declaration.Field where
  name : Name
  optional : Bool
  base : Name
  depth : Nat
  deriving DecidableEq

inductive Declaration.Member where
  | literal (name : Name)
  | type (name : Name)
  deriving DecidableEq

inductive Declaration where
  | interface (name : Name) (extended : List Name) (fields : List Declaration.Field)
  | typeAlias (name : Name) (members : List Declaration.Member)
  deriving DecidableEq

def TypeRef.declared (t : TypeRef) (name : Name) : Declaration.Field :=
  ⟨name, !t.isRequired, t.base, t.depth⟩

namespace Declaration

/-- The one member of a scalar's alias. -/
def anyMember : Member :=
  .type ⟨Scalar.anyType, by decide⟩

def ofBody (handTyped roots : List String) (name : Name) : TypeBody → Option Declaration
  | .scalar => if name.text ∈ handTyped then none else some (.typeAlias name [anyMember])
  | .enum values => some (.typeAlias name (values.map fun v => .literal v.name))
  | .union members => some (.typeAlias name (members.map fun n => .type n.target))
  | .object interfaces fields =>
    if name.text ∈ roots then none
    else
      some (.interface name (interfaces.map Name.target)
        (fields.map fun f => f.type.declared f.name))
  | .interface _ fields => some (.interface name [] (fields.map fun f => f.type.declared f.name))
  | .input fields => some (.interface name [] (fields.map fun v => v.type.declared v.name))

/-- What a definition declares. Only the definition of a type declares anything. -/
def ofDefinition (handTyped roots : List String) : Definition → Option Declaration
  | .type _ name _ body => ofBody handTyped roots name body
  | _ => none

end Declaration

/-- What a document declares, in order, under the standard settings. -/
def Document.declarations (d : Document) : List Declaration :=
  d.filterMap (Declaration.ofDefinition Scalar.defaultHandTyped (d.operationRoots {}))

namespace Declaration

/-- The line of a field, with this mark where it is optional. -/
def Field.textUnder (marker : String) (f : Field) : String :=
  f.name.text ++ (if f.optional then marker else "") ++ ": " ++
    (f.base.text ++ String.join (List.replicate f.depth "[]"))

def Field.text (f : Field) : String :=
  f.textUnder "?"

def Member.text : Member → String
  | .literal n => "\"" ++ n.text ++ "\""
  | .type n => n.text

def textUnder (settings : Settings) : Declaration → String
  | .interface name extended fields =>
    Declarations.interfaceText settings.indent name.text (extended.map Name.text)
      (fields.map (Field.textUnder settings.optionalMarker))
  | .typeAlias name members => Declarations.aliasText name.text (members.map Member.text)

def text (declaration : Declaration) : String :=
  declaration.textUnder {}

theorem text_interface (name : Name) (extended : List Name) (fields : List Field) :
    (interface name extended fields).text =
      Declarations.interfaceText "\t" name.text (extended.map Name.text)
        (fields.map Field.text) := rfl

theorem text_typeAlias (name : Name) (members : List Member) :
    (typeAlias name members).text =
      Declarations.aliasText name.text (members.map Member.text) := rfl

def moduleText (declarations : List Declaration) : String :=
  Declarations.separator.intercalate (declarations.map fun d => "export " ++ d.text)

theorem join_replicate_succ (s : String) (n : Nat) :
    String.join (List.replicate (n + 1) s) = String.join (List.replicate n s) ++ s := by
  rw [List.replicate_succ', String.join_append]
  simp

theorem text_base (t : TypeRef) :
    t.text = t.base.text ++ String.join (List.replicate t.depth "[]") := by
  induction t with
  | named n required => simp [TypeRef.text, TypeRef.base, TypeRef.depth, Name.target]
  | list item required ih =>
    rw [TypeRef.text, TypeRef.base, TypeRef.depth, join_replicate_succ, ih, String.append_assoc]

theorem textUnder_declared (marker : String) (t : TypeRef) (name : Name) :
    (t.declared name).textUnder marker = t.line marker name := by
  simp only [Field.textUnder, TypeRef.declared, TypeRef.line, text_base t]
  by_cases h : t.isRequired = true <;> simp [h]

theorem map_textUnder_fields (marker : String) (fields : List FieldDefinition) :
    fields.map (Field.textUnder marker ∘ fun f => f.type.declared f.name) =
      fields.map (FieldDefinition.line marker) :=
  List.map_congr_left fun f _ => textUnder_declared marker f.type f.name

theorem map_textUnder_inputs (marker : String) (fields : List InputValue) :
    fields.map (Field.textUnder marker ∘ fun v => v.type.declared v.name) =
      fields.map (InputValue.line marker) :=
  List.map_congr_left fun v _ => textUnder_declared marker v.type v.name

theorem texts_cons (v : Value) (vs : List Value) :
    Declarations.texts (v :: vs) = Declarations.texts [v] ++ Declarations.texts vs := by
  cases v <;> rfl

end Declaration

namespace Module

/-- What stands in a module under any settings. The alias of a scalar has the type registered for
it, in whatever words. -/
inductive Item where
  | scalarAlias (name : Name) (type : String)
  | declared (declaration : Declaration)

namespace Item

def text (settings : Settings) : Item → String
  | scalarAlias name type => Declarations.aliasText name.text [type]
  | declared d => d.textUnder settings

def ofBody (registry : Registry) (roots : List String) (name : Name) : TypeBody → Option Item
  | .scalar =>
    if registry.isHandTyped name.text then none
    else some (.scalarAlias name (registry.declaredType name.text))
  | body => (Declaration.ofBody registry.handTyped roots name body).map .declared

def ofDefinition (registry : Registry) (roots : List String) : Definition → Option Item
  | .type _ name _ body => ofBody registry roots name body
  | _ => none

end Item

/-- The text of a module of these items. -/
def text (settings : Settings) (items : List Item) : String :=
  Declarations.separator.intercalate
    (items.map fun item => Declarations.exported settings.exportKeyword (item.text settings))

end Module

/-- What stands in the module of a document. -/
def Document.items (settings : Settings) (registry : Registry) (d : Document) :
    List Module.Item :=
  d.filterMap (Module.Item.ofDefinition registry (d.operationRoots settings))

namespace Module.Item

theorem texts_bodyEntry (settings : Settings) (registry : Registry) (roots : List String)
    (name : Name) (body : TypeBody) :
    Declarations.texts [body.entry settings registry roots name] =
      ((ofBody registry roots name body).map (text settings)).toList := by
  cases body with
  | scalar =>
    by_cases h : registry.isHandTyped name.text = true
    · simp [TypeBody.entry, ofBody, h, Declarations.texts]
    · simp [TypeBody.entry, ofBody, h, Declarations.texts, text]
  | object interfaces fields =>
    have hnames : interfaces.map (Name.text ∘ Name.target) = interfaces.map Name.resolved := rfl
    by_cases h : name.text ∈ roots
    · simp [TypeBody.entry, ofBody, Declaration.ofBody, h, Declarations.texts]
    · simp [TypeBody.entry, ofBody, Declaration.ofBody, h, Declarations.texts, text,
        Declaration.textUnder, hnames, Declaration.map_textUnder_fields]
  | interface interfaces fields =>
    simp [TypeBody.entry, ofBody, Declaration.ofBody, Declarations.texts, text,
      Declaration.textUnder, Declaration.map_textUnder_fields]
  | union members =>
    simp [TypeBody.entry, ofBody, Declaration.ofBody, Declarations.texts, text,
      Declaration.textUnder, Declaration.Member.text, Function.comp_def, Name.target]
  | enum values =>
    simp [TypeBody.entry, ofBody, Declaration.ofBody, Declarations.texts, text,
      Declaration.textUnder, Declaration.Member.text, Function.comp_def]
  | input fields =>
    simp [TypeBody.entry, ofBody, Declaration.ofBody, Declarations.texts, text,
      Declaration.textUnder, Declaration.map_textUnder_inputs]

/-- The texts among the entries are those of the items. -/
theorem texts_entries (settings : Settings) (registry : Registry) (roots : List String)
    (definitions : List Definition) :
    Declarations.texts (definitions.map (Definition.entry settings registry roots)) =
      (definitions.filterMap (ofDefinition registry roots)).map (text settings) := by
  induction definitions with
  | nil => rfl
  | cons d definitions ih =>
    have hfirst : Declarations.texts [d.entry settings registry roots] =
        ((ofDefinition registry roots d).map (text settings)).toList := by
      cases d with
      | type description name directives body =>
        exact texts_bodyEntry settings registry roots name body
      | _ => rfl
    rw [List.map_cons, Declaration.texts_cons, hfirst, ih, List.filterMap_cons]
    cases ofDefinition registry roots d <;> rfl

end Module.Item

theorem Generator.render_items {disk : Disk} {settings : Settings}
    (h : TemplateSet.UsesBuiltin disk settings.templateDir) (registry : Registry) (d : Document) :
    ((Generator.mk settings registry {}).render disk d).result =
      .ok (Module.text settings (d.items settings registry)) := by
  have htexts := Module.Item.texts_entries settings registry (d.operationRoots settings) d
  have hentries : (Generator.mk settings registry {}).entries d =
      d.map (Definition.entry settings registry (d.operationRoots settings)) := rfl
  rw [render_result (g := ⟨settings, registry, {}⟩) h, hentries, Declarations.moduleText, htexts,
    List.map_map]
  rfl

/-- Under the standard settings a scalar is declared as of any type. -/
theorem Module.Item.text_standard (roots : List String) (x : Definition) :
    (Module.Item.ofDefinition ⟨[], Scalar.defaultHandTyped⟩ roots x).map (Module.Item.text {}) =
      (Declaration.ofDefinition Scalar.defaultHandTyped roots x).map Declaration.text := by
  cases x with
  | type description name directives body =>
    cases body with
    | scalar =>
      by_cases h : name.text ∈ Scalar.defaultHandTyped
      · simp [ofDefinition, ofBody, Declaration.ofDefinition, Declaration.ofBody,
          Registry.isHandTyped, h]
      · simp [ofDefinition, ofBody, Declaration.ofDefinition, Declaration.ofBody,
          Registry.isHandTyped, h, text, Declaration.text_typeAlias, Declaration.anyMember,
          Declaration.Member.text, Registry.declaredType, Registry.get?, Assoc.get?]
    | _ =>
      simp only [ofDefinition, ofBody, Declaration.ofDefinition, Option.map_map]
      rfl
  | _ => rfl

/-- The generator with the standard settings, no scalars registered and no hooks. -/
def Generator.standard : Generator where
  settings := {}
  registry := ⟨[], Scalar.defaultHandTyped⟩

theorem Generator.render_standard (disk : Disk) (d : Document) :
    (Generator.standard.render disk d).result = .ok (Declaration.moduleText d.declarations) := by
  have hbuiltin : TemplateSet.UsesBuiltin disk ({} : Settings).templateDir :=
    TemplateSet.usesBuiltin_of_no_folder rfl
  have htexts : (d.items {} ⟨[], Scalar.defaultHandTyped⟩).map (Module.Item.text {}) =
      d.declarations.map Declaration.text := by
    rw [Document.items, Document.declarations, List.map_filterMap, List.map_filterMap]
    simp only [Module.Item.text_standard]
  have hexported : Module.text {} (d.items {} ⟨[], Scalar.defaultHandTyped⟩) =
      Declarations.separator.intercalate
        (((d.items {} ⟨[], Scalar.defaultHandTyped⟩).map (Module.Item.text {})).map
          (Declarations.exported "export")) := by
    rw [Module.text, List.map_map]
    rfl
  have hrender := render_items hbuiltin ⟨[], Scalar.defaultHandTyped⟩ d
  rw [hexported, htexts, List.map_map] at hrender
  exact hrender

end SchemaFold
