import SchemaFold.Proofs.Folding
import SchemaFold.Proofs.Translation

/-! Folding the tree of a document gives the entries of its translation, one for each definition
and in their order. -/

namespace SchemaFold

namespace Fold.Rules

theorem folds_nameNode (r : Rules) (s : String) :
    r.Folds (.node .name [(.value, .text s)]) (.text s) :=
  .replaced (.attribute rfl (.nil r .name)) rfl rfl

theorem folds_name (r : Rules) (n : Name) : r.Folds n.toTree (.text n.text) :=
  folds_nameNode r n.text

theorem folds_typeName (r : Rules) (n : Name) : r.Folds n.toTypeTree n.foldedType :=
  .replaced (.child rfl (folds_name r n) (.nil r .namedType)) rfl rfl

theorem folds_variable (r : Rules) (n : Name) :
    r.Folds (Value.variableReference n) (.node .variableReference [(.name, .text n.text)]) :=
  .kept (.child rfl (folds_name r n) (.nil r .variableReference)) rfl

theorem folds_marked {r : Rules} {v : Value} {s : String} (h : r.Folds v (.text s))
    (required : Bool) :
    r.Folds (TypeRef.marked required v) (if required then .type ⟨s, true⟩ else .text s) := by
  cases required with
  | false => exact h
  | true => exact .replaced (.child rfl h (.nil r .nonNullType)) rfl rfl

/-- A list takes the text of what it is a list of, whether or not that is marked. -/
theorem folds_type (r : Rules) (t : TypeRef) : r.Folds t.toTree t.folded := by
  induction t with
  | named n required => exact folds_marked (folds_typeName r n) required
  | list item required ih =>
    apply folds_marked
    refine .replaced (.child rfl ih (.nil r .listType)) ?_ rfl
    unfold TypeRef.folded
    cases item.isRequired <;> rfl

theorem folds_string (r : Rules) (value : String) (block : Bool) :
    r.Folds (Value.string value block) (Value.string value block) :=
  .kept (.attribute rfl (.attribute rfl (.nil r .stringValue))) rfl

theorem folds_description (r : Rules) (d : Option Description) :
    r.Folds (Value.ofOption Description.toTree d) (Value.ofOption Description.toTree d) :=
  .option fun b _ => folds_string r b.text b.block

mutual

theorem folds_literal (r : Rules) : ∀ v : Literal, r.Folds v.toTree v.folded
  | .reference n => folds_variable r n
  | .int _ => .kept (.attribute rfl (.nil r .intValue)) rfl
  | .float _ => .kept (.attribute rfl (.nil r .floatValue)) rfl
  | .string value block => folds_string r value block
  | .boolean _ => .kept (.attribute rfl (.nil r .booleanValue)) rfl
  | .null => .kept (.nil r .nullValue) rfl
  | .enum _ => .kept (.attribute rfl (.nil r .enumValue)) rfl
  | .list values => .kept (.child rfl (.list (folds_literals r values)) (.nil r .listValue)) rfl
  | .object fields =>
    .kept (.child rfl (.list (folds_literalFields r fields)) (.nil r .objectValue)) rfl

theorem folds_literals (r : Rules) :
    ∀ vs : List Literal, r.FoldsAll (Literal.toTrees vs) (Literal.foldedAll vs)
  | [] => .nil r
  | v :: vs => .cons (folds_literal r v) (folds_literals r vs)

theorem folds_literalFields (r : Rules) :
    ∀ fields : List (Name × Literal),
      r.FoldsAll (Literal.fieldTrees fields) (Literal.foldedFields fields)
  | [] => .nil r
  | (n, v) :: fields =>
    .cons (.kept (.child rfl (folds_name r n)
      (.child rfl (folds_literal r v) (.nil r .objectField))) rfl) (folds_literalFields r fields)

end

theorem folds_argument (r : Rules) (a : Argument) : r.Folds a.toTree a.folded :=
  .kept (.child rfl (folds_name r a.name) (.child rfl (folds_literal r a.value)
    (.nil r .argument))) rfl

theorem folds_directive (r : Rules) (d : Directive) : r.Folds d.toTree d.folded :=
  .kept (.child rfl (folds_name r d.name) (.child rfl (.map fun a _ => folds_argument r a)
    (.nil r .directive))) rfl

theorem folds_directives (r : Rules) (directives : List Directive) :
    r.Folds (directiveTrees directives) (foldedDirectives directives) :=
  .map fun d _ => folds_directive r d

theorem folds_default (r : Rules) (v : Option Literal) :
    r.Folds (Value.ofOption Literal.toTree v) (Value.ofOption Literal.folded v) :=
  .option fun b _ => folds_literal r b

theorem folds_selectionSet {r : Rules} {vs ws : List Value} (h : r.FoldsAll vs ws) :
    r.Folds (Value.selectionSet vs) (Value.selectionSet ws) :=
  .kept (.child rfl (.list h) (.nil r .selectionSet)) rfl

mutual

theorem folds_selection (r : Rules) : ∀ s : Selection, r.Folds s.toTree s.folded
  | .field label name arguments directives selections => by
    have hset : r.Folds
        (if selections.isEmpty then .absent
          else Value.selectionSet (Selection.toTrees selections))
        (if selections.isEmpty then .absent
          else Value.selectionSet (Selection.foldedAll selections)) := by
      cases selections.isEmpty with
      | true => exact .absent r
      | false => exact folds_selectionSet (folds_selections r selections)
    exact .kept (.child rfl (.option fun n _ => folds_name r n) (.child rfl (folds_name r name)
      (.child rfl (.map fun a _ => folds_argument r a) (.child rfl (folds_directives r directives)
        (.child rfl hset (.nil r .field)))))) rfl
  | .spread fragment directives =>
    .kept (.child rfl (folds_name r fragment) (.child rfl (folds_directives r directives)
      (.nil r .fragmentSpread))) rfl
  | .inline onType directives selections =>
    .kept (.child rfl (.option fun n _ => folds_typeName r n) (.child rfl
      (folds_directives r directives) (.child rfl
        (folds_selectionSet (folds_selections r selections)) (.nil r .inlineFragment)))) rfl

theorem folds_selections (r : Rules) :
    ∀ ss : List Selection, r.FoldsAll (Selection.toTrees ss) (Selection.foldedAll ss)
  | [] => .nil r
  | s :: ss => .cons (folds_selection r s) (folds_selections r ss)

end

theorem folds_variableDefinition (r : Rules) (v : VariableDefinition) :
    r.Folds v.toTree v.folded :=
  .kept (.child rfl (folds_description r v.description) (.child rfl (folds_variable r v.name)
    (.child rfl (folds_type r v.type) (.child rfl (folds_default r v.defaultValue)
      (.child rfl (folds_directives r v.directives) (.nil r .variableDefinition)))))) rfl

theorem folds_operation (r : Rules) (o : Operation) : r.Folds o.toTree o.folded :=
  .kept (.child rfl (folds_description r o.description) (.child rfl
    (.option fun n _ => folds_name r n) (.child rfl
      (.map fun v _ => folds_variableDefinition r v) (.child rfl (folds_directives r o.directives)
        (.child rfl (folds_selectionSet (folds_selections r o.selections))
          (.attribute rfl (.nil r .operationDefinition))))))) rfl

theorem folds_fragment (r : Rules) (f : Fragment) : r.Folds f.toTree f.folded :=
  .kept (.child rfl (folds_description r f.description) (.child rfl (folds_name r f.name)
    (.child rfl (.absent r) (.child rfl (folds_typeName r f.onType)
      (.child rfl (folds_directives r f.directives) (.child rfl
        (folds_selectionSet (folds_selections r f.selections)) (.nil r .fragmentDefinition)))))))
    rfl

theorem fieldLine_folded (r : Rules) (n : Name) (t : TypeRef) :
    r.fieldLine (.text n.text) t.folded = .ok (.text (t.line r.settings.optionalMarker n)) := by
  unfold TypeRef.folded TypeRef.line
  cases t.isRequired <;> rfl

theorem folds_inputValue (r : Rules) (v : InputValue) :
    r.Folds v.toTree (.text (v.line r.settings.optionalMarker)) :=
  .replaced (.child rfl (folds_description r v.description) (.child rfl (folds_name r v.name)
    (.child rfl (folds_type r v.type) (.child rfl (folds_default r v.defaultValue)
      (.child rfl (folds_directives r v.directives) (.nil r .inputValueDefinition))))))
    (fieldLine_folded r v.name v.type) rfl

theorem folds_field (r : Rules) (f : FieldDefinition) :
    r.Folds f.toTree (.text (f.line r.settings.optionalMarker)) :=
  .replaced (.child rfl (folds_description r f.description) (.child rfl (folds_name r f.name)
    (.child rfl (.map fun v _ => folds_inputValue r v) (.child rfl (folds_type r f.type)
      (.child rfl (folds_directives r f.directives) (.nil r .fieldDefinition))))))
    (fieldLine_folded r f.name f.type) rfl

theorem folds_enumValue (r : Rules) (v : EnumValue) : r.Folds v.toTree v.folded :=
  .kept (.child rfl (folds_description r v.description) (.child rfl (folds_name r v.name)
    (.child rfl (folds_directives r v.directives) (.nil r .enumValueDefinition)))) rfl

theorem folds_operationType (r : Rules) (o : OperationType) : r.Folds o.toTree o.folded :=
  .kept (.child rfl (folds_typeName r o.type) (.attribute rfl (.nil r .operationTypeDefinition)))
    rfl

theorem folds_directiveDefinition (r : Rules) (d : DirectiveDefinition) :
    r.Folds d.toTree (d.folded r.settings.optionalMarker) :=
  .kept (.child rfl (folds_description r d.description) (.child rfl (folds_name r d.name)
    (.child rfl (.map fun v _ => folds_inputValue r v) (.child rfl (.list (.nil r))
      (.child rfl (.map fun n _ => folds_name r n)
        (.attribute rfl (.nil r .directiveDefinition))))))) rfl

/-- The parts of a type fold in the same way in its definition and in an extension of it. -/
theorem folds_body (r : Rules) (name : Name) (directives : List Directive) (body : TypeBody)
    {kind : Kind} (hk : kind = body.definitionKind ∨ kind = body.extensionKind) :
    r.FoldsParts kind (body.parts name directives)
      (body.folded r.settings.optionalMarker name directives) := by
  have hname := folds_name r name
  have hdirectives := folds_directives r directives
  cases body with
  | scalar =>
    rcases hk with rfl | rfl <;>
      exact .child rfl hname (.child rfl hdirectives (.nil r _))
  | object interfaces fields =>
    rcases hk with rfl | rfl <;>
      exact .child rfl hname (.child rfl (.map fun n _ => folds_typeName r n) (.child rfl
        hdirectives (.child rfl (.map fun f _ => folds_field r f) (.nil r _))))
  | interface interfaces fields =>
    rcases hk with rfl | rfl <;>
      exact .child rfl hname (.child rfl (.map fun n _ => folds_typeName r n) (.child rfl
        hdirectives (.child rfl (.map fun f _ => folds_field r f) (.nil r _))))
  | union members =>
    rcases hk with rfl | rfl <;>
      exact .child rfl hname (.child rfl hdirectives (.child rfl
        (.map fun n _ => folds_typeName r n) (.nil r _)))
  | enum values =>
    rcases hk with rfl | rfl <;>
      exact .child rfl hname (.child rfl hdirectives (.child rfl
        (.map fun v _ => folds_enumValue r v) (.nil r _)))
  | input fields =>
    rcases hk with rfl | rfl <;>
      exact .child rfl hname (.child rfl hdirectives (.child rfl
        (.map fun v _ => folds_inputValue r v) (.nil r _)))

theorem folds_extension (r : Rules) (name : Name) (directives : List Directive)
    (body : TypeBody) :
    r.Folds (.node body.extensionKind (body.parts name directives))
      (.node body.extensionKind (body.folded r.settings.optionalMarker name directives)) := by
  refine .kept (folds_body r name directives body (.inr rfl)) ?_
  cases body <;> rfl

theorem fill_of_render {t : Template} {scope : List (String × Value)} {text : String}
    (h : t.render (scope.map fun (name, v) => (name, .value v)) = .ok text) :
    fill t scope = .ok (.text text) := by
  simp only [fill, h]

theorem aliasOf_builtin {r : Rules} (h : r.templates = TemplateSet.builtin) (name : String)
    (members : List String) :
    r.aliasOf (.text name) (members.map .text) =
      .ok (.text (Declarations.aliasText name members)) := by
  unfold aliasOf
  rw [h]
  exact fill_of_render (render_alias name members)

theorem interfaceOf_builtin {r : Rules} (h : r.templates = TemplateSet.builtin) (name : String)
    (interfaces fields : List String) :
    r.interfaceOf (.text name) (interfaces.map .text) (fields.map .text) =
      .ok (.text (Declarations.interfaceText r.settings.indent name interfaces fields)) := by
  unfold interfaceOf
  rw [h]
  exact fill_of_render (render_interface r.settings.indent name interfaces fields)

theorem itemsOrNone_list (vs : List Value) : itemsOrNone (.list vs) = .ok vs := by
  cases vs <;> rfl

theorem isRoot_texts (roots : List String) (name : String) :
    isRoot (roots.map .text) (.text name) = decide (name ∈ roots) := by
  induction roots with
  | nil => rfl
  | cons root roots ih =>
    simp only [isRoot, List.map_cons, List.any_cons, Value.same] at ih ⊢
    rw [ih]
    by_cases h : root = name
    · simp [h]
    · simp [h, Ne.symm h]

theorem scalarAlias_builtin {r : Rules} (ht : r.templates = TemplateSet.builtin)
    (roots : List String) (name : Name) :
    (r.scalarAlias (.text name.text)).result =
      .ok (TypeBody.scalar.entry r.settings r.registry roots name) := by
  have ha := aliasOf_builtin ht name.text [r.registry.declaredType name.text]
  by_cases h : r.registry.isHandTyped name.text = true
  · simp [scalarAlias, isHandTyped, TypeBody.entry, h, skip]
  · simpa [scalarAlias, isHandTyped, declaredType, TypeBody.entry, h] using ha

theorem enumAlias_builtin {r : Rules} (ht : r.templates = TemplateSet.builtin) (name : Name)
    (values : List EnumValue) :
    r.enumAlias (.text name.text) (.list (values.map EnumValue.folded)) =
      .ok (.text (Declarations.aliasText name.text
        (values.map fun v => "\"" ++ v.name.text ++ "\""))) := by
  have hnames : (values.map EnumValue.folded).mapM (partOf .name) =
      .ok (values.map fun v => .text v.name.text) := by
    induction values with
    | nil => rfl
    | cons v vs ih =>
      simp only [List.map_cons, List.mapM_cons, ih]
      rfl
  have ha := aliasOf_builtin ht name.text (values.map fun v => "\"" ++ v.name.text ++ "\"")
  simp only [enumAlias, itemsOrNone_list, ok_bind, hnames]
  simpa [Function.comp_def, Value.display] using ha

theorem unionAlias_builtin {r : Rules} (ht : r.templates = TemplateSet.builtin) (name : Name)
    (members : List Name) :
    r.unionAlias (.text name.text) (.list (members.map Name.foldedType)) =
      .ok (.text (Declarations.aliasText name.text (members.map Name.resolved))) := by
  have ha := aliasOf_builtin ht name.text (members.map Name.resolved)
  rw [List.map_map] at ha
  simp only [unionAlias, itemsOrNone_list, ok_bind]
  exact ha

theorem plainInterface_builtin {r : Rules} (ht : r.templates = TemplateSet.builtin) {node : Value}
    (name : Name) {lines : List String} (hname : partOf .name node = .ok (.text name.text))
    (hfields : partOf .fields node = .ok (.list (lines.map .text))) :
    r.plainInterface node =
      .ok (.text (Declarations.interfaceText r.settings.indent name.text [] lines)) := by
  have hi := interfaceOf_builtin ht name.text [] lines
  simpa only [plainInterface, hname, hfields, itemsOrNone_list, ok_bind, List.map_nil] using hi

theorem objectInterface_builtin {r : Rules} {roots : List String}
    (ht : r.templates = TemplateSet.builtin) (hr : r.roots = roots.map .text) {node : Value}
    (name : Name) {interfaces lines : List String}
    (hinterfaces : partOf .interfaces node = .ok (.list (interfaces.map .text)))
    (hfields : partOf .fields node = .ok (.list (lines.map .text))) :
    (r.objectInterface node (.text name.text)).result =
      .ok (if name.text ∈ roots then .suppressed
        else .text (Declarations.interfaceText r.settings.indent name.text interfaces lines)) := by
  have hi := interfaceOf_builtin ht name.text interfaces lines
  have hroot := isRoot_texts roots name.text
  by_cases h : name.text ∈ roots
  · simp [objectInterface, hr, hroot, h, skip]
  · simpa [objectInterface, hr, hroot, h, hinterfaces, hfields, itemsOrNone_list] using hi

/-- The rule for a type definition writes its declaration, or leaves it out. -/
theorem leave_definition {r : Rules} {roots : List String} (ht : r.templates = TemplateSet.builtin)
    (hr : r.roots = roots.map .text) (description : Value) (name : Name)
    (directives : List Directive) (body : TypeBody) :
    (r.leave body.definitionKind (.node body.definitionKind ((.description, description) ::
        body.folded r.settings.optionalMarker name directives))).result =
      .ok (body.entry r.settings r.registry roots name) := by
  cases body with
  | scalar => exact scalarAlias_builtin ht roots name
  | object interfaces fields =>
    apply objectInterface_builtin ht hr name
    · rw [List.map_map]
      rfl
    · rw [List.map_map]
      rfl
  | interface interfaces fields =>
    apply plainInterface_builtin ht name rfl
    rw [List.map_map]
    rfl
  | union members => exact unionAlias_builtin ht name members
  | enum values => exact enumAlias_builtin ht name values
  | input fields =>
    apply plainInterface_builtin ht name rfl
    rw [List.map_map]
    rfl

theorem putInPlace_entry (settings : Settings) (registry : Registry) (roots : List String)
    (name : Name) (body : TypeBody) :
    putInPlace (body.entry settings registry roots name) = true := by
  cases body with
  | scalar =>
    simp only [TypeBody.entry]
    split <;> rfl
  | object interfaces fields =>
    simp only [TypeBody.entry]
    split <;> rfl
  | _ => rfl

/-- There are rules for definitions of types only. Any other definition stays, whatever the
templates and the roots are. -/
theorem folds_other (r : Rules) (roots : List String) {d : Definition}
    (h : ∀ description name directives body, d ≠ .type description name directives body) :
    r.Folds d.toTree (d.entry r.settings r.registry roots) := by
  cases d with
  | operation o => exact folds_operation r o
  | fragment f => exact folds_fragment r f
  | schema description directives operationTypes =>
    exact .kept (.child rfl (folds_description r description) (.child rfl
      (folds_directives r directives) (.child rfl (.map fun o _ => folds_operationType r o)
        (.nil r .schemaDefinition)))) rfl
  | type description name directives body => exact absurd rfl (h description name directives body)
  | directive d => exact folds_directiveDefinition r d
  | extendSchema directives operationTypes =>
    exact .kept (.child rfl (folds_directives r directives) (.child rfl
      (.map fun o _ => folds_operationType r o) (.nil r .schemaExtension))) rfl
  | extendType name directives body => exact folds_extension r name directives body

/-- The parts of a type definition fold whatever its rule then makes of them. -/
theorem folds_definitionParts (r : Rules) (description : Option Description) (name : Name)
    (directives : List Directive) (body : TypeBody) :
    r.FoldsParts body.definitionKind
      ((.description, Value.ofOption Description.toTree description) :: body.parts name directives)
      ((.description, Value.ofOption Description.toTree description) ::
        body.folded r.settings.optionalMarker name directives) := by
  have hchild : body.definitionKind.children.contains .description = true := by
    cases body <;> rfl
  exact .child hchild (folds_description r description)
    (folds_body r name directives body (.inl rfl))

theorem folds_definition {r : Rules} {roots : List String} (ht : r.templates = TemplateSet.builtin)
    (hr : r.roots = roots.map .text) (d : Definition) :
    r.Folds d.toTree (d.entry r.settings r.registry roots) := by
  cases d with
  | type description name directives body =>
    exact .replaced (folds_definitionParts r description name directives body)
      (leave_definition ht hr _ name directives body) (putInPlace_entry _ _ _ _ body)
  | _ => exact folds_other r roots nofun

theorem folds_document {r : Rules} {roots : List String} (ht : r.templates = TemplateSet.builtin)
    (hr : r.roots = roots.map .text) (d : Document) :
    r.Folds d.toTree (.entries (d.map (Definition.entry r.settings r.registry roots))) :=
  .replaced (.child rfl (.map fun e _ => folds_definition ht hr e) (.nil r .document)) rfl rfl

end Fold.Rules

namespace Fold

theorem operationTypeNames_toTree (d : Definition) :
    operationTypeNames d.toTree = .ok (d.operationTypeNames.map .text) := by
  cases d with
  | schema description directives operationTypes =>
    have hnames := mapM_map_pure
      (f := fun v => do partOf .value (← partOf .name (← partOf .type v)))
      (g := OperationType.toTree) (h := fun o => .text o.type.text) (fun _ => rfl) operationTypes
    rw [Definition.operationTypeNames, List.map_map]
    exact hnames
  | type description name directives body => cases body <;> rfl
  | extendType name directives body => cases body <;> rfl
  | _ => rfl

theorem operationRoots_toTree (settings : Settings) (d : Document) :
    operationRoots settings d.toTree = .ok ((d.operationRoots settings).map .text) := by
  have hnames := mapM_map_pure operationTypeNames_toTree d
  have hdefinitions : partOf .definitions d.toTree = .ok (.list (d.map Definition.toTree)) := rfl
  have hitems : items (.list (d.map Definition.toTree)) = .ok (d.map Definition.toTree) := rfl
  simp only [operationRoots, hdefinitions, ok_bind, hitems, hnames, pure_eq_ok,
    Document.operationRoots, List.map_append, List.map_flatMap]
  rw [List.flatMap_def]

end Fold

/-- Where the whole tree folds into entries, these are what the document yields. -/
theorem foldTree_of_folds {disk : Disk} {r : Fold.Rules} {tree : Value} {entries : List Value}
    (hroots : Fold.operationRoots r.settings tree = .ok r.roots)
    (ht : (TemplateSet.load disk r.settings.templateDir).result = .ok r.templates)
    (hf : r.Folds tree (.entries entries)) :
    (foldTree disk r.settings r.registry tree).result = .ok entries := by
  simp only [foldTree, Fold.Rules.load, hroots, ht, Traced.result_bind, Traced.result_ofExcept,
    Traced.result_mapError, Traced.result_pure, Traced.result_note, mapError_ok, ok_bind]
  rw [hf.fold_result]
  rfl

/-- Entries come of the rules for the document's own operation roots. -/
theorem foldTree_eq_ok {disk : Disk} {settings : Settings} {registry : Registry} {tree : Value}
    {entries : List Value} (h : (foldTree disk settings registry tree).result = .ok entries) :
    ∃ (r : Fold.Rules) (folded : Value), Fold.operationRoots settings tree = .ok r.roots ∧
      (Fold.Rules.load disk settings registry r.roots).result = .ok r ∧
      (r.fold tree).result = .ok folded ∧ Fold.entriesOf folded = .ok entries := by
  simp only [foldTree, Traced.result_bind, Traced.result_ofExcept, Traced.result_mapError,
    Traced.result_pure, Traced.result_note, ok_bind] at h
  obtain ⟨roots, hroots, h⟩ := bind_eq_ok.mp h
  obtain ⟨r, hload, h⟩ := bind_eq_ok.mp h
  obtain ⟨folded, hfold, h⟩ := bind_eq_ok.mp h
  obtain ⟨found, hfound, h⟩ := bind_eq_ok.mp h
  cases h
  rw [mapError_eq_ok] at hroots hfold hfound
  have hr : r.roots = roots := by
    simp only [Fold.Rules.load, Traced.result_bind] at hload
    obtain ⟨templates, -, hload⟩ := bind_eq_ok.mp hload
    cases hload
    rfl
  rw [← hr] at hroots hload
  exact ⟨r, folded, hroots, hload, hfold, hfound⟩

/-- The rules for a document under the built-in templates. -/
def Document.rules (settings : Settings) (registry : Registry) (d : Document) : Fold.Rules where
  settings := settings
  registry := registry
  roots := (d.operationRoots settings).map .text
  templates := TemplateSet.builtin

theorem Document.folds_rules (settings : Settings) (registry : Registry) (d : Document) :
    (d.rules settings registry).Folds d.toTree
      (.entries (d.map (Definition.entry settings registry (d.operationRoots settings)))) :=
  Fold.Rules.folds_document (r := d.rules settings registry) rfl rfl d

/-- What the definitions of a document become under the built-in templates. -/
def Document.entries (settings : Settings) (registry : Registry) (d : Document) : List Value :=
  d.map (Definition.entry settings registry (d.operationRoots settings))

theorem TemplateSet.UsesBuiltin.foldTree_result {disk : Disk} {settings : Settings}
    (h : UsesBuiltin disk settings.templateDir) (registry : Registry) (d : Document) :
    (foldTree disk settings registry d.toTree).result = .ok (d.entries settings registry) :=
  foldTree_of_folds (r := d.rules settings registry) (Fold.operationRoots_toTree settings d) h.load
    (d.folds_rules settings registry)

/-- With the built-in templates, folding a document never fails, and its definitions become what
they are translated into, one entry for each and in their order. -/
theorem foldTree_eq_entries (disk : Disk) (settings : Settings) (registry : Registry)
    (d : Document) (h : TemplateSet.UsesBuiltin disk settings.templateDir) :
    (foldTree disk settings registry d.toTree).result =
      .ok (d.map (Definition.entry settings registry (d.operationRoots settings))) :=
  h.foldTree_result registry d

/-- A schema that names its query type after the type itself. -/
def userSchema : Document :=
  [.type none ⟨"Root", rfl⟩ []
      (.object [] [⟨none, ⟨"me", rfl⟩, [], .named ⟨"User", rfl⟩ true, []⟩]),
    .schema none [] [⟨.query, ⟨"Root", rfl⟩⟩],
    .type none ⟨"User", rfl⟩ [] (.object [⟨"Node", rfl⟩]
      [⟨none, ⟨"id", rfl⟩, [], .named ⟨"ID", rfl⟩ true, []⟩,
        ⟨none, ⟨"tags", rfl⟩, [], .list (.list (.named ⟨"String", rfl⟩ true) true) false, []⟩]),
    .type none ⟨"Date", rfl⟩ [] .scalar,
    .type none ⟨"Hue", rfl⟩ []
      (.enum [⟨none, ⟨"RED", rfl⟩, []⟩, ⟨none, ⟨"BLUE", rfl⟩, []⟩])]

theorem foldTree_eq_entries_userSchema :
    TemplateSet.UsesBuiltin {} none ∧
      (foldTree {} {} ⟨[], ["Date"]⟩ userSchema.toTree).result =
        .ok [.suppressed,
          .node .schemaDefinition [(.description, .absent), (.directives, .list []),
            (.operationTypes, .list [.node .operationTypeDefinition
              [(.type, .text "Root"), (.operation, .text "query")]])],
          .text "interface User extends Node \x7b\n\tid: string\n\ttags?: string[][]\n\x7d",
          .suppressed, .text "type Hue = \"RED\" | \"BLUE\""] := by
  have h : TemplateSet.UsesBuiltin {} none := TemplateSet.usesBuiltin_of_no_folder rfl
  exact ⟨h, (foldTree_eq_entries {} {} ⟨[], ["Date"]⟩ userSchema h).trans rfl⟩

end SchemaFold
