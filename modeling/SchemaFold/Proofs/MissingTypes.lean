import SchemaFold.Proofs.TreeShape

/-! Trees in which types may be missing. The fold comes to an end exactly at the first node that has
no type but needs one, children before their parents and from left to right. -/

namespace SchemaFold

namespace Value

mutual

/-- The nodes of a tree, children before their parents. -/
def nodes : Value → List Value
  | node kind parts => nodesOfParts kind parts ++ [node kind parts]
  | list items => nodesOfItems items
  | _ => []

def nodesOfItems : List Value → List Value
  | [] => []
  | v :: vs => nodes v ++ nodesOfItems vs

def nodesOfParts (kind : Kind) : List (Part × Value) → List Value
  | [] => []
  | (p, v) :: rest =>
    (if kind.children.contains p then nodes v else []) ++ nodesOfParts kind rest

end

def lacksType : Value → Bool
  | node kind parts => kind.isTyped && (part .type parts).isAbsent
  | _ => false

/-- The name of a node that has these parts. -/
def nameText (parts : List (Part × Value)) : String :=
  match part .name parts with
  | node _ inner =>
    match part .value inner with
    | text s => s
    | _ => ""
  | _ => ""

/-- The fault of a node without a type. It tells the name of a field or argument, and the kind of
any other node. -/
def typeFault : Value → Fold.Fault
  | node .fieldDefinition parts | node .inputValueDefinition parts =>
    .untypedField (text (nameText parts)) absent
  | v => .missingType v absent

end Value

namespace Fold.Rules

variable {r : Rules} {kind : Kind} {parts folded : List (Part × Value)}

/-- How a visit ends where `gap` is the first node without a type: well if there is none, and with
the fault of that node if there is one. Only templates that are not the built-in ones can make it
fail before. -/
inductive Meets (r : Rules) {α : Type} : Option Value → Except Stop α → Prop where
  | done (a : α) : Meets r none (.ok a)
  | gap (n : Value) : Meets r (some n) (.error (.fault n.typeFault))
  | template (gap : Option Value) (f : Template.Fault) (h : r.templates ≠ TemplateSet.builtin) :
      Meets r gap (.error (.fault (.template f)))

theorem Meets.bind {α β : Type} {gap gap' : Option Value} {x : Except Stop α}
    {f : α → Except Stop β} (hx : Meets r gap x) (hf : ∀ a, x = .ok a → Meets r gap' (f a)) :
    Meets r (gap.or gap') (x >>= f) := by
  cases hx with
  | done a => exact hf a rfl
  | gap n => exact .gap n
  | template _ fault h => exact .template _ fault h

theorem Meets.map {α β : Type} {gap : Option Value} {x : Except Stop α} (hx : Meets r gap x)
    (f : α → β) : Meets r gap (x >>= fun a => .ok (f a)) := by
  rw [← Option.or_none (o := gap)]
  exact hx.bind fun a _ => .done (f a)

theorem meets_visitList {items : List Value}
    (h : ∀ v ∈ items, ∀ latest, Meets r (v.nodes.find? Value.lacksType) (r.visit latest v).result)
    (latest : Option Value) :
    Meets r ((Value.nodesOfItems items).find? Value.lacksType)
      (r.visitList latest items).result := by
  induction items generalizing latest with
  | nil => exact .done _
  | cons v items ih =>
    have hfirst := h v (by simp) latest
    have hrest := ih fun v hv => h v (by simp [hv])
    rw [Value.nodesOfItems, List.find?_append]
    simp only [visitList_cons, Traced.result_bind, Traced.result_pure]
    exact hfirst.bind fun first _ => (hrest _).map _

theorem meets_visitParts
    (h : ∀ e ∈ parts, e.1 ∈ kind.children → ∀ latest,
      Meets r (e.2.nodes.find? Value.lacksType) (r.visit latest e.2).result)
    (latest : Option Value) :
    Meets r ((Value.nodesOfParts kind parts).find? Value.lacksType)
      (r.visitParts kind latest parts).result := by
  induction parts generalizing latest with
  | nil => exact .done _
  | cons e parts ih =>
    obtain ⟨p, v⟩ := e
    have hrest := ih fun e he => h e (by simp [he])
    rw [Value.nodesOfParts, List.find?_append]
    cases hp : kind.children.contains p with
    | true =>
      have hfirst := h (p, v) (by simp) (List.contains_iff_mem.mp hp) latest
      simp only [visitParts_cons, hp, if_true, Traced.result_bind, Traced.result_pure]
      exact hfirst.bind fun first _ => (hrest _).map _
    | false =>
      simp only [visitParts_cons, hp, Bool.false_eq_true, if_false, Traced.result_bind,
        Traced.result_pure, ok_bind]
      exact (hrest _).map _

theorem meets_fill {t : Template} {scope : List (String × Value)}
    (h : r.templates = TemplateSet.builtin → ∃ w, fill t scope = .ok w) :
    Meets r none ((fill t scope).mapError Stop.fault) := by
  cases hfill : fill t scope with
  | ok w => exact .done w
  | error e =>
    have htemplate : ∃ f, e = .template f := by
      unfold fill at hfill
      split at hfill
      · contradiction
      · cases hfill
        exact ⟨_, rfl⟩
    obtain ⟨f, rfl⟩ := htemplate
    refine .template none f fun hbuiltin => ?_
    obtain ⟨w, hw⟩ := h hbuiltin
    rw [hw] at hfill
    contradiction

theorem meets_aliasOf (r : Rules) (name : String) (members : List String) :
    Meets r none ((r.aliasOf (.text name) (members.map .text)).mapError Stop.fault) :=
  meets_fill fun h => ⟨_, aliasOf_builtin h name members⟩

theorem meets_interfaceOf (r : Rules) (name : String) (interfaces lines : List String) :
    Meets r none ((r.interfaceOf (.text name) (interfaces.map .text) (lines.map .text)).mapError
      Stop.fault) :=
  meets_fill fun h => ⟨_, interfaceOf_builtin h name interfaces lines⟩

theorem meets_plainInterface {node fields : Value} {s : String}
    (hname : partOf .name node = .ok (.text s)) (hfields : partOf .fields node = .ok fields)
    (hlines : ∃ lines : List String, itemsOrNone fields = .ok (lines.map .text)) :
    Meets r none ((r.plainInterface node).mapError Stop.fault) := by
  obtain ⟨lines, hlines⟩ := hlines
  have hinterface := meets_interfaceOf r s [] lines
  simpa only [plainInterface, hname, hfields, hlines, ok_bind, List.map_nil] using hinterface

theorem exists_name_of_declared (hkind : kind ∈ Kind.declared) (h : FoldedNode kind folded) :
    ∃ s, partOf .name (.node kind folded) = .ok (.text s) := by
  have hslot : .name ∈ kind.children ∧ kind.slot .name = .node [.name] false := by
    simp only [Kind.declared, List.mem_cons, List.not_mem_nil, or_false] at hkind
    rcases hkind with rfl | rfl | rfl | rfl | rfl | rfl <;> exact ⟨by decide, rfl⟩
  have hfolded := h.child hslot.1
  rw [hslot.2] at hfolded
  obtain ⟨s, hs⟩ := hfolded.exists_text (by decide)
  exact ⟨s, hs ▸ h.partOf_eq (List.mem_append_left _ hslot.1)⟩

theorem meets_leave_declared (hkind : kind ∈ Kind.declared) (h : FoldedNode kind folded) :
    Meets r none ((r.leave kind (.node kind folded)).result.mapError Stop.fault) := by
  obtain ⟨s, hname⟩ := exists_name_of_declared hkind h
  have hkey : key (.text s) = .ok (.text s) := rfl
  simp only [Kind.declared, List.mem_cons, List.not_mem_nil, or_false] at hkind
  -- In the order of `Kind.declared`: scalars, enums, unions, objects, interfaces and input types.
  rcases hkind with rfl | rfl | rfl | rfl | rfl | rfl
  · have halias := meets_aliasOf r s [declaredType r.registry (.text s)]
    simp only [leave, scalarAlias, hname, hkey, ok_bind, Traced.result_bind, Traced.result_ofExcept]
    split
    · exact .done _
    · exact halias
  · have hvalues := h.partOf_eq (p := .values) (by decide)
    obtain ⟨ws, names, hitems, hnames⟩ :=
      Folded.exists_valueNames (h.child (p := .values) (by decide))
    have halias := meets_aliasOf r s (names.map fun n => "\"" ++ n ++ "\"")
    simpa [leave, enumAlias, hname, hvalues, hitems, hnames, Function.comp_def, Value.display]
      using halias
  · have htypes := h.partOf_eq (p := .types) (by decide)
    obtain ⟨members, hmembers⟩ :=
      Folded.exists_texts (by decide) (h.child (p := .types) (by decide))
    have halias := meets_aliasOf r s members
    simpa only [leave, unionAlias, hname, htypes, hmembers, ok_bind, Traced.result_ofExcept]
      using halias
  · have hfields := h.partOf_eq (p := .fields) (by decide)
    have hinterfaces := h.partOf_eq (p := .interfaces) (by decide)
    obtain ⟨lines, hlines⟩ := Folded.exists_texts (by decide) (h.child (p := .fields) (by decide))
    obtain ⟨extended, hextended⟩ :=
      Folded.exists_texts (by decide) (h.child (p := .interfaces) (by decide))
    have hinterface := meets_interfaceOf r s extended lines
    simp only [leave, objectInterface, hname, hkey, ok_bind, Traced.result_bind,
      Traced.result_ofExcept]
    split
    · exact .done _
    · simpa only [hfields, hinterfaces, hlines, hextended, ok_bind, Traced.result_ofExcept]
        using hinterface
  · exact meets_plainInterface hname (h.partOf_eq (p := .fields) (by decide))
      (Folded.exists_texts (by decide) (h.child (p := .fields) (by decide)))
  · exact meets_plainInterface hname (h.partOf_eq (p := .fields) (by decide))
      (Folded.exists_texts (by decide) (h.child (p := .fields) (by decide)))

theorem meets_leave_typed (h : FoldedNode kind folded)
    (htype : kind.isTyped = true → ∃ t, (Value.part .type folded).asType? = some t) :
    Meets r none ((r.leave kind (.node kind folded)).result.mapError Stop.fault) := by
  by_cases hdeclared : kind ∈ Kind.declared
  · exact meets_leave_declared hdeclared h
  -- No other rule takes anything from a template.
  suffices hleft : ∃ left, (r.leave kind (.node kind folded)).result = .ok left by
    obtain ⟨left, hleft⟩ := hleft
    rw [hleft]
    exact .done left
  cases kind with
  | name => exact ⟨_, h.partOf_eq (p := .value) (by decide)⟩
  | namedType =>
    have hname := h.partOf_eq (p := .name) (by decide)
    obtain ⟨s, hs⟩ := Folded.exists_text (by decide) (h.child (p := .name) (by decide))
    exact ⟨.text (Scalar.resolve s), by simp [leave, hname, hs, key, Value.isKey, resolve]⟩
  | nonNullType | listType =>
    obtain ⟨t, ht⟩ := htype rfl
    have hpart := h.partOf_eq (p := .type) (by decide)
    simp [leave, typeText, hpart, ht]
  | fieldDefinition | inputValueDefinition =>
    obtain ⟨t, ht⟩ := htype rfl
    have hpart := h.partOf_eq (p := .type) (by decide)
    have hname := h.partOf_eq (p := .name) (by decide)
    simp [leave, hpart, hname, fieldLine, ht]
  | scalarTypeDefinition | enumTypeDefinition | unionTypeDefinition | objectTypeDefinition
  | interfaceTypeDefinition | inputObjectTypeDefinition => exact absurd (by decide) hdeclared
  | document =>
    have hpart := h.partOf_eq (p := .definitions) (by decide)
    have hfolded := h.child (p := .definitions) (by decide)
    generalize Value.part .definitions folded = definitions at hpart hfolded
    cases hfolded with
    | list hws => exact ⟨_, by simp only [leave, hpart, ok_bind, Traced.result_ofExcept]; rfl⟩
  | _ => exact ⟨.absent, rfl⟩

theorem fits_of_present {kinds : List Kind} {v : Value} (h : v.fits (.node kinds true) = true)
    (hpresent : v.isAbsent = false) : v.fits (.node kinds false) = true := by
  cases v with
  | absent => contradiction
  | node kind parts => exact h
  | _ => contradiction

theorem name_of_folded (hnode : Value.NodeFits kind parts)
    (hfolded : List.Forall₂ (r.FoldsPart kind) parts folded) (hname : .name ∈ kind.children)
    (hslot : kind.slot .name = .node [.name] false) :
    Value.part .name folded = .text (Value.nameText parts) := by
  have hfits := hnode.child hname
  rw [hslot] at hfits
  obtain ⟨s, hs⟩ := Value.exists_name_of_fits hfits
  have hfolds := folds_part hfolded hname
  rw [hs] at hfolds
  rw [hfolds.unique (folds_nameNode r s), Value.nameText, hs]
  rfl

theorem leave_error (hnode : Value.NodeFits kind parts)
    (hfolded : List.Forall₂ (r.FoldsPart kind) parts folded)
    (hlacks : (Value.node kind parts).lacksType = true) :
    (r.leave kind (.node kind folded)).result = .error (Value.node kind parts).typeFault := by
  have hnode' := foldedNode_of_fits hnode hfolded
  obtain ⟨htyped, habsent⟩ := Bool.and_eq_true_iff.mp hlacks
  have hmissing : Value.part .type parts = .absent := by
    cases h : Value.part .type parts with
    | absent => rfl
    | _ => simp [h, Value.isAbsent] at habsent
  have htype : .type ∈ kind.children → Value.part .type folded = .absent := by
    intro hp
    have hfolds := folds_part hfolded hp
    rw [hmissing] at hfolds
    exact hfolds.unique (.absent r)
  cases kind with
  | listType | nonNullType =>
    -- The fault shows the folded node, which is the node itself: it has no part but the type.
    have hparts := hnode.eq_singleton (p := .type) rfl
    have hparts' := hnode'.eq_singleton (p := .type) rfl
    rw [hmissing] at hparts
    rw [htype (by decide)] at hparts'
    rw [hparts, hparts']
    rfl
  | fieldDefinition | inputValueDefinition =>
    have hpart := hnode'.partOf_eq (p := .type) (by decide)
    have hname := hnode'.partOf_eq (p := .name) (by decide)
    rw [htype (by decide)] at hpart
    rw [name_of_folded hnode hfolded (by decide) rfl] at hname
    simp [leave, hpart, hname, fieldLine, Value.asType?, Value.typeFault]
  | _ => contradiction

theorem exists_type_of_folded (hnode : Value.NodeFits kind parts)
    (hfolded : List.Forall₂ (r.FoldsPart kind) parts folded) (htyped : kind.isTyped = true)
    (hlacks : (Value.node kind parts).lacksType = false) :
    ∃ t, (Value.part .type folded).asType? = some t := by
  have hslot : .type ∈ kind.children ∧ kind.slot .type = .node Kind.types true := by
    cases kind with
    | listType | nonNullType | fieldDefinition | inputValueDefinition => exact ⟨by decide, rfl⟩
    | _ => contradiction
  have hpresent : (Value.part .type parts).isAbsent = false := by
    simpa [Value.lacksType, htyped] using hlacks
  have hfits := hnode.child hslot.1
  rw [hslot.2] at hfits
  exact (folded_of_folds (fits_of_present hfits hpresent) (folds_part hfolded hslot.1)).exists_type

theorem meets_leave (hnode : Value.NodeFits kind parts)
    (hfolded : List.Forall₂ (r.FoldsPart kind) parts folded) :
    Meets r ([Value.node kind parts].find? Value.lacksType)
      ((r.leave kind (.node kind folded)).result.mapError Stop.fault) := by
  cases hlacks : (Value.node kind parts).lacksType with
  | true =>
    rw [leave_error hnode hfolded hlacks, List.find?_cons_of_pos hlacks]
    exact .gap _
  | false =>
    rw [List.find?_cons_of_neg (by simp [hlacks]), List.find?_nil]
    exact meets_leave_typed (foldedNode_of_fits hnode hfolded) fun htyped =>
      exists_type_of_folded hnode hfolded htyped hlacks

/-- How a visit ends is settled by the first node without a type. -/
theorem meets_visit {slot : Slot} {v : Value} (hv : v.fits slot = true) (latest : Option Value) :
    Meets r (v.nodes.find? Value.lacksType) (r.visit latest v).result := by
  refine Value.fits_induct (motive := fun _ v => ∀ latest,
    Meets r (v.nodes.find? Value.lacksType) (r.visit latest v).result) ?_ ?_ ?_ ?_ slot v hv latest
  · exact fun kinds latest => .done _
  · exact fun kinds latest => .done _
  · intro kinds optional items ih latest
    simp only [visit_list, Value.nodes, Traced.result_bind, Traced.result_pure]
    exact (meets_visitList ih none).map _
  · intro kinds optional kind parts hkind hnode ih latest
    simp only [visit_node, Value.nodes, List.find?_append, Traced.result_bind,
      Traced.result_mapError]
    -- Its children are visited before it, and they come before it among the nodes.
    refine (meets_visitParts ih.children none).bind fun visited hvisited => ?_
    have hfolded := forall₂_of_visitParts hvisited
    rw [← Option.or_none (o := [Value.node kind parts].find? Value.lacksType)]
    refine (meets_leave hnode hfolded).bind fun left hleft => ?_
    have hleft := mapError_eq_ok.mp hleft
    by_cases hruled : kind ∈ ruled
    · have hplace := (folded_of_leave (foldedNode_of_fits hnode hfolded) hruled hleft).1
      cases left with
      | absent | flag => contradiction
      | _ => exact .done _
    · rw [leave_of_unruled hruled] at hleft
      cases hleft
      exact .done _

end Fold.Rules

namespace Fold

theorem exists_operationTypeName {v : Value}
    (h : v.fits (.node [.operationTypeDefinition] false) = true) :
    ∃ name, (do partOf .value (← partOf .name (← partOf .type v))) = .ok name := by
  obtain ⟨parts, rfl, hnode⟩ := Value.exists_node_of_fits h
  have htype := hnode.partOf_eq (p := .type) (by decide)
  obtain ⟨inner, hinner, hnode'⟩ :=
    Value.exists_node_of_fits (hnode.child (p := .type) (by decide))
  have hname := hnode'.partOf_eq (p := .name) (by decide)
  obtain ⟨s, hs⟩ := Value.exists_name_of_fits (hnode'.child (p := .name) (by decide))
  rw [hinner] at htype
  rw [hs] at hname
  exact ⟨.text s, by simp only [htype, hname, ok_bind]; rfl⟩

theorem exists_operationRoots (settings : Settings) {document : Value}
    (h : document.isDocument = true) : ∃ roots, operationRoots settings document = .ok roots := by
  obtain ⟨definitions, rfl, hdefinitions⟩ := Value.exists_definitions h
  have hnames : ∀ x ∈ definitions, ∃ names, operationTypeNames x = .ok names := by
    intro x hx
    unfold operationTypeNames
    split
    · rename_i parts
      have hnode := (Value.fits_node.mp (hdefinitions _ hx)).2
      obtain ⟨types, htypes, hfits⟩ :=
        Value.exists_items_of_fits (hnode.child (p := .operationTypes) (by decide))
      rw [htypes]
      exact mapM_ok_of_forall fun o ho => exists_operationTypeName (hfits o ho)
    · exact ⟨[], rfl⟩
  obtain ⟨named, hnamed⟩ := mapM_ok_of_forall hnames
  have hpart : partOf .definitions (.node .document [(.definitions, .list definitions)]) =
      .ok (.list definitions) := rfl
  have hitems : items (.list definitions) = .ok definitions := rfl
  exact ⟨_, by simp only [operationRoots, hpart, hitems, ok_bind, hnamed]; rfl⟩

end Fold

section

variable {disk : Disk} {settings : Settings} {document : Value}

theorem foldTree_of_gap (hbuiltin : TemplateSet.UsesBuiltin disk settings.templateDir)
    (registry : Registry) (hdocument : document.isDocument = true) {n : Value}
    (hgap : document.nodes.find? Value.lacksType = some n) :
    (foldTree disk settings registry document).result = .error (.fold n.typeFault) := by
  obtain ⟨roots, hroots⟩ := Fold.exists_operationRoots settings hdocument
  let r : Fold.Rules := ⟨settings, registry, roots, TemplateSet.builtin⟩
  have hmeets := Fold.Rules.meets_visit (r := r) hdocument none
  rw [hgap] at hmeets
  generalize hvisit : (r.visit none document).result = outcome at hmeets
  cases hmeets with
  | gap =>
    have hfold : (r.fold document).result = .error n.typeFault := by
      simp only [Fold.Rules.fold, hvisit]
    simp only [foldTree, Fold.Rules.load, hroots, hbuiltin.load, Traced.result_bind,
      Traced.result_ofExcept, Traced.result_mapError, Traced.result_pure, mapError_ok, ok_bind]
    rw [hfold]
    rfl
  | template _ f h => exact absurd rfl h

theorem exists_foldTree (hbuiltin : TemplateSet.UsesBuiltin disk settings.templateDir)
    (registry : Registry) (hdocument : document.isDocument = true)
    (hgap : document.nodes.find? Value.lacksType = none) :
    ∃ entries, (foldTree disk settings registry document).result = .ok entries := by
  obtain ⟨roots, hroots⟩ := Fold.exists_operationRoots settings hdocument
  let r : Fold.Rules := ⟨settings, registry, roots, TemplateSet.builtin⟩
  have hmeets := Fold.Rules.meets_visit (r := r) hdocument none
  rw [hgap] at hmeets
  generalize hvisit : (r.visit none document).result = outcome at hmeets
  cases hmeets with
  | done visited =>
    have hfolds := Fold.Rules.Folds.of_visit hvisit
    obtain ⟨-, entries, -, -, hentries, -⟩ := hfolds.exists_entries hdocument
    exact ⟨entries, foldTree_of_folds (r := r) hroots hbuiltin.load (hentries ▸ hfolds)⟩
  | template _ f h => exact absurd rfl h

/-- With the built-in templates, folding a document fails exactly if a list, a required type, a
field or an argument somewhere in it has no type, and then the fault is about the first of these. -/
theorem foldTree_first_missing_type
    (hbuiltin : TemplateSet.UsesBuiltin disk settings.templateDir) (registry : Registry)
    (hdocument : document.isDocument = true) :
    ((∃ f, (foldTree disk settings registry document).result = .error f) ↔
        ∃ n ∈ document.nodes, n.lacksType = true) ∧
      ∀ n, document.nodes.find? Value.lacksType = some n →
        (foldTree disk settings registry document).result = .error (.fold n.typeFault) := by
  refine ⟨⟨?_, ?_⟩, fun n hgap => foldTree_of_gap hbuiltin registry hdocument hgap⟩
  · rintro ⟨f, hf⟩
    cases hgap : document.nodes.find? Value.lacksType with
    | some n => exact ⟨n, List.mem_of_find?_eq_some hgap, List.find?_some hgap⟩
    | none =>
      obtain ⟨entries, hentries⟩ := exists_foldTree hbuiltin registry hdocument hgap
      rw [hf] at hentries
      contradiction
  · rintro ⟨n, hn, hlacks⟩
    cases hgap : document.nodes.find? Value.lacksType with
    | some first => exact ⟨_, foldTree_of_gap hbuiltin registry hdocument hgap⟩
    | none => exact absurd hlacks (List.find?_eq_none.mp hgap n hn)

end

def Value.nameNode (s : String) : Value :=
  .node .name [(.value, .text s)]

def Value.namedNode (s : String) : Value :=
  .node .namedType [(.name, nameNode s)]

/-- A query type whose only field has an argument of a list type. What the list is of and what the
field is of may be missing. -/
def Value.reefTree (item type : Value) : Value :=
  .node .document [(.definitions, .list
    [.node .objectTypeDefinition
      [(.description, .absent), (.name, nameNode "Query"), (.interfaces, .absent),
        (.directives, .list []), (.fields, .list
          [.node .fieldDefinition
            [(.description, .absent), (.name, nameNode "reefs"),
              (.arguments, .list
                [.node .inputValueDefinition
                  [(.description, .absent), (.name, nameNode "near"),
                    (.type, .node .nonNullType [(.type, .node .listType [(.type, item)])]),
                    (.defaultValue, .absent), (.directives, .absent)]]),
              (.type, type), (.directives, .list [])]])]])]

theorem foldTree_first_missing_type_reefTree :
    let run (tree : Value) := (foldTree {} {} ⟨[], []⟩ tree).result
    let faults (tree : Value) (message : String) :=
      ∃ f, run tree = .error (.fold f) ∧ f.message = message
    TemplateSet.UsesBuiltin {} none ∧
      (Value.reefTree .absent .absent).isDocument = true ∧
      faults (.reefTree .absent .absent) "Expected a folded type inside list_type, got None" ∧
      (Value.reefTree (.namedNode "Int") .absent).isDocument = true ∧
      faults (.reefTree (.namedNode "Int") .absent) "Field 'reefs' has no usable type, got None" ∧
      (Value.reefTree (.namedNode "Int") (.namedNode "Reef")).isDocument = true ∧
      ¬∃ f, run (.reefTree (.namedNode "Int") (.namedNode "Reef")) = .error f := by
  intro run faults
  have hbuiltin : TemplateSet.UsesBuiltin {} none := TemplateSet.usesBuiltin_of_no_folder rfl
  have hlist : (Value.reefTree .absent .absent).isDocument = true := rfl
  have hfield : (Value.reefTree (.namedNode "Int") .absent).isDocument = true := rfl
  have hwhole : (Value.reefTree (.namedNode "Int") (.namedNode "Reef")).isDocument = true := rfl
  have hfirst := (@foldTree_first_missing_type {} {} _ hbuiltin ⟨[], []⟩ hlist).2 _ rfl
  have hsecond := (@foldTree_first_missing_type {} {} _ hbuiltin ⟨[], []⟩ hfield).2 _ rfl
  refine ⟨hbuiltin, hlist, ⟨_, hfirst, rfl⟩, hfield, ⟨_, hsecond, by decide⟩, hwhole, ?_⟩
  rw [(@foldTree_first_missing_type {} {} _ hbuiltin ⟨[], []⟩ hwhole).1, ← List.any_eq_true]
  exact Bool.false_ne_true

end SchemaFold
