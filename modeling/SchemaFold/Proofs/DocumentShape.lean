import SchemaFold.Proofs.MissingTypes

/-! The tree of a document has the shape of one, and no type is missing in it. -/

namespace SchemaFold

namespace Value

theorem fits_of_parts {kinds : List Kind} {optional : Bool} {kind : Kind}
    {parts : List (Part × Value)} (hkind : kinds.contains kind = true)
    (hkeys : (parts.map Prod.fst == kind.parts) = true) (h : partsFit kind parts = true) :
    fits (.node kinds optional) (node kind parts) = true := by
  simp only [fits, hkind, hkeys, h, Bool.and_true]

theorem partsFit_child {kind : Kind} {p : Part} {v : Value} {rest : List (Part × Value)}
    (hv : fits (kind.slot p) v = true) (hkind : (kind != .name) = true)
    (h : partsFit kind rest = true) : partsFit kind ((p, v) :: rest) = true := by
  simp only [partsFit, hv, hkind, h, Bool.or_true, Bool.true_or, Bool.and_true]

theorem fits_list {α : Type} {kinds : List Kind} {optional : Bool} {f : α → Value} (as : List α)
    (h : ∀ a, fits (.node kinds false) (f a) = true) :
    fits (.list kinds optional) (list (as.map f)) = true := by
  refine itemsFit_iff.mpr fun v hv => ?_
  obtain ⟨a, -, rfl⟩ := List.mem_map.mp hv
  exact h a

theorem fits_option {α : Type} {kinds : List Kind} {f : α → Value} (a : Option α)
    (h : ∀ a, fits (.node kinds true) (f a) = true) :
    fits (.node kinds true) (ofOption f a) = true := by
  cases a with
  | none => rfl
  | some a => exact h a

end Value

open Value

theorem TypeRef.fits_toTree (t : TypeRef) (optional : Bool) :
    t.toTree.fits (.node Kind.types optional) = true := by
  induction t generalizing optional with
  | named n required => cases required <;> rfl
  | list item required ih =>
    have hlist : ∀ optional, (Value.node .listType [(.type, item.toTree)]).fits
        (.node Kind.types optional) = true :=
      fun _ => fits_of_parts rfl rfl (partsFit_child (ih true) rfl rfl)
    cases required with
    | false => exact hlist optional
    | true => exact fits_of_parts rfl rfl (partsFit_child (hlist true) rfl rfl)

theorem Description.fits_toTree (d : Option Description) :
    (ofOption Description.toTree d).fits (.node [.stringValue] true) = true :=
  fits_option d fun _ => rfl

mutual

theorem Literal.fits_toTree : ∀ (v : Literal) (optional : Bool),
    v.toTree.fits (.node Kind.literals optional) = true
  | .reference _, _ | .int _, _ | .float _, _ | .string _ _, _ | .boolean _, _ | .null, _
  | .enum _, _ => rfl
  | .list values, _ => fits_of_parts rfl rfl (partsFit_child (fits_toTrees values) rfl rfl)
  | .object fields, _ => fits_of_parts rfl rfl (partsFit_child (fits_fieldTrees fields) rfl rfl)

theorem Literal.fits_toTrees : ∀ values : List Literal,
    itemsFit Kind.literals (Literal.toTrees values) = true
  | [] => rfl
  | v :: vs => Bool.and_eq_true_iff.mpr ⟨v.fits_toTree false, fits_toTrees vs⟩

theorem Literal.fits_fieldTrees : ∀ fields : List (Name × Literal),
    itemsFit [.objectField] (Literal.fieldTrees fields) = true
  | [] => rfl
  | (_, v) :: fields =>
    Bool.and_eq_true_iff.mpr ⟨fits_of_parts rfl rfl (partsFit_child rfl rfl
      (partsFit_child (v.fits_toTree false) rfl rfl)), fits_fieldTrees fields⟩

end

theorem Argument.fits_toTree (a : Argument) : a.toTree.fits (.node [.argument] false) = true :=
  fits_of_parts rfl rfl
    (partsFit_child rfl rfl (partsFit_child (a.value.fits_toTree false) rfl rfl))

theorem Directive.fits_toTree (d : Directive) : d.toTree.fits (.node [.directive] false) = true :=
  fits_of_parts rfl rfl
    (partsFit_child rfl rfl (partsFit_child (fits_list d.arguments Argument.fits_toTree) rfl rfl))

theorem fits_directiveTrees (directives : List Directive) :
    (directiveTrees directives).fits (.list [.directive] true) = true :=
  fits_list directives Directive.fits_toTree

theorem fits_selectionSet {selections : List Value} (optional : Bool)
    (h : itemsFit Kind.selections selections = true) :
    (Value.selectionSet selections).fits (.node [.selectionSet] optional) = true :=
  fits_of_parts rfl rfl (partsFit_child h rfl rfl)

mutual

theorem Selection.fits_toTree : ∀ s : Selection,
    s.toTree.fits (.node Kind.selections false) = true
  | .field label _ arguments directives selections => by
    have hinner : (if selections.isEmpty then .absent
        else Value.selectionSet (Selection.toTrees selections)).fits
          (.node [.selectionSet] true) = true := by
      split
      · rfl
      · exact fits_selectionSet true (fits_toTrees selections)
    exact fits_of_parts rfl rfl (partsFit_child (fits_option label fun _ => rfl) rfl
      (partsFit_child rfl rfl (partsFit_child (fits_list arguments Argument.fits_toTree) rfl
        (partsFit_child (fits_directiveTrees directives) rfl (partsFit_child hinner rfl rfl)))))
  | .spread _ directives => fits_of_parts rfl rfl
      (partsFit_child rfl rfl (partsFit_child (fits_directiveTrees directives) rfl rfl))
  | .inline onType directives selections => fits_of_parts rfl rfl
      (partsFit_child (fits_option onType fun _ => rfl) rfl
        (partsFit_child (fits_directiveTrees directives) rfl
          (partsFit_child (fits_selectionSet false (fits_toTrees selections)) rfl rfl)))

theorem Selection.fits_toTrees : ∀ selections : List Selection,
    itemsFit Kind.selections (Selection.toTrees selections) = true
  | [] => rfl
  | s :: rest => Bool.and_eq_true_iff.mpr ⟨s.fits_toTree, fits_toTrees rest⟩

end

theorem VariableDefinition.fits_toTree (v : VariableDefinition) :
    v.toTree.fits (.node [.variableDefinition] false) = true :=
  fits_of_parts rfl rfl (partsFit_child (Description.fits_toTree v.description) rfl
    (partsFit_child rfl rfl (partsFit_child (v.type.fits_toTree false) rfl
      (partsFit_child (fits_option v.defaultValue fun a => a.fits_toTree true) rfl
        (partsFit_child (fits_directiveTrees v.directives) rfl rfl)))))

theorem InputValue.fits_toTree (v : InputValue) :
    v.toTree.fits (.node [.inputValueDefinition] false) = true :=
  fits_of_parts rfl rfl (partsFit_child (Description.fits_toTree v.description) rfl
    (partsFit_child rfl rfl (partsFit_child (v.type.fits_toTree true) rfl
      (partsFit_child (fits_option v.defaultValue fun a => a.fits_toTree true) rfl
        (partsFit_child (fits_directiveTrees v.directives) rfl rfl)))))

theorem FieldDefinition.fits_toTree (f : FieldDefinition) :
    f.toTree.fits (.node [.fieldDefinition] false) = true :=
  fits_of_parts rfl rfl (partsFit_child (Description.fits_toTree f.description) rfl
    (partsFit_child rfl rfl (partsFit_child (fits_list f.arguments InputValue.fits_toTree) rfl
      (partsFit_child (f.type.fits_toTree true) rfl
        (partsFit_child (fits_directiveTrees f.directives) rfl rfl)))))

theorem EnumValue.fits_toTree (v : EnumValue) :
    v.toTree.fits (.node [.enumValueDefinition] false) = true :=
  fits_of_parts rfl rfl (partsFit_child (Description.fits_toTree v.description) rfl
    (partsFit_child rfl rfl (partsFit_child (fits_directiveTrees v.directives) rfl rfl)))

/-- Definitions and extensions of types have the same parts, apart from the description. -/
theorem TypeBody.partsFit_parts (name : Name) (directives : List Directive) {kind : Kind} :
    ∀ body : TypeBody, kind = body.definitionKind ∨ kind = body.extensionKind →
      partsFit kind (body.parts name directives) = true
  | .scalar, h => by
    have hrest := fits_directiveTrees directives
    rcases h with rfl | rfl <;> exact partsFit_child rfl rfl (partsFit_child hrest rfl rfl)
  | .object interfaces fields, h | .interface interfaces fields, h => by
    have hinterfaces : (Value.list (interfaces.map Name.toTypeTree)).fits
        (.list [.namedType] true) = true := fits_list interfaces fun _ => rfl
    have hfields : (Value.list (fields.map FieldDefinition.toTree)).fits
        (.list [.fieldDefinition] true) = true := fits_list fields FieldDefinition.fits_toTree
    rcases h with rfl | rfl <;>
      exact partsFit_child rfl rfl (partsFit_child hinterfaces rfl
        (partsFit_child (fits_directiveTrees directives) rfl (partsFit_child hfields rfl rfl)))
  | .union members, h => by
    have hmembers : (Value.list (members.map Name.toTypeTree)).fits
        (.list [.namedType] true) = true := fits_list members fun _ => rfl
    rcases h with rfl | rfl <;>
      exact partsFit_child rfl rfl (partsFit_child (fits_directiveTrees directives) rfl
        (partsFit_child hmembers rfl rfl))
  | .enum values, h => by
    have hvalues : (Value.list (values.map EnumValue.toTree)).fits
        (.list [.enumValueDefinition] true) = true := fits_list values EnumValue.fits_toTree
    rcases h with rfl | rfl <;>
      exact partsFit_child rfl rfl (partsFit_child (fits_directiveTrees directives) rfl
        (partsFit_child hvalues rfl rfl))
  | .input fields, h => by
    have hfields : (Value.list (fields.map InputValue.toTree)).fits
        (.list [.inputValueDefinition] true) = true := fits_list fields InputValue.fits_toTree
    rcases h with rfl | rfl <;>
      exact partsFit_child rfl rfl (partsFit_child (fits_directiveTrees directives) rfl
        (partsFit_child hfields rfl rfl))

theorem Definition.fits_toTree (d : Definition) :
    d.toTree.fits (.node Kind.definitions false) = true := by
  cases d with
  | operation o =>
    exact fits_of_parts rfl rfl (partsFit_child (Description.fits_toTree o.description) rfl
      (partsFit_child (fits_option o.name fun _ => rfl) rfl
        (partsFit_child (fits_list o.parameters VariableDefinition.fits_toTree) rfl
          (partsFit_child (fits_directiveTrees o.directives) rfl (partsFit_child
            (fits_selectionSet false (Selection.fits_toTrees o.selections)) rfl rfl)))))
  | fragment f =>
    exact fits_of_parts rfl rfl (partsFit_child (Description.fits_toTree f.description) rfl
      (partsFit_child rfl rfl (partsFit_child rfl rfl (partsFit_child rfl rfl
        (partsFit_child (fits_directiveTrees f.directives) rfl (partsFit_child
          (fits_selectionSet false (Selection.fits_toTrees f.selections)) rfl rfl))))))
  | schema description directives operationTypes =>
    exact fits_of_parts rfl rfl (partsFit_child (Description.fits_toTree description) rfl
      (partsFit_child (fits_directiveTrees directives) rfl
        (partsFit_child (fits_list operationTypes fun _ => rfl) rfl rfl)))
  | type description name directives body =>
    have hkind : (body.definitionKind != .name) = true := by cases body <;> rfl
    exact fits_of_parts (by cases body <;> rfl) (by cases body <;> rfl)
      (partsFit_child (Description.fits_toTree description) hkind
        (body.partsFit_parts name directives (.inl rfl)))
  | directive d =>
    exact fits_of_parts rfl rfl (partsFit_child (Description.fits_toTree d.description) rfl
      (partsFit_child rfl rfl (partsFit_child (fits_list d.arguments InputValue.fits_toTree) rfl
        (partsFit_child rfl rfl (partsFit_child (fits_list d.locations fun _ => rfl) rfl rfl)))))
  | extendSchema directives operationTypes =>
    exact fits_of_parts rfl rfl (partsFit_child (fits_directiveTrees directives) rfl
      (partsFit_child (fits_list operationTypes fun _ => rfl) rfl rfl))
  | extendType name directives body =>
    exact fits_of_parts (by cases body <;> rfl) (by cases body <;> rfl)
      (body.partsFit_parts name directives (.inr rfl))

theorem Document.isDocument_toTree (d : Document) : d.toTree.isDocument = true :=
  fits_of_parts rfl rfl (partsFit_child (fits_list d Definition.fits_toTree) rfl rfl)

/-- No type is missing, since the document folds. -/
theorem Document.lacksType_toTree (d : Document) :
    ∀ n ∈ d.toTree.nodes, n.lacksType = false := by
  obtain ⟨changed, hvisit⟩ := d.folds_rules {} ⟨[], []⟩ none
  have hmeets := Fold.Rules.meets_visit (r := d.rules {} ⟨[], []⟩) d.isDocument_toTree none
  rw [hvisit] at hmeets
  generalize hgap : d.toTree.nodes.find? Value.lacksType = gap at hmeets
  cases hmeets
  intro n hn
  simpa using List.find?_eq_none.mp hgap n hn

end SchemaFold
