import SchemaFold.Proofs.DocumentShape

/-! Definitions that are not declared pass through the fold. Below them names, types, fields and
arguments become text, and everything else is what and where it was. -/

namespace SchemaFold

/-- Whether no definition of a type and no document may stand here. -/
def Slot.isInner : Slot → Bool
  | .node kinds _ | .list kinds _ =>
    kinds.all fun k => !Kind.declared.contains k && k != .document

theorem Kind.inner_of_unruled {kind : Kind} (h : kind ∉ Fold.Rules.ruled) :
    kind ∉ Kind.declared ∧ kind ≠ .document := by
  have hruled : (.document :: Kind.declared).all (Fold.Rules.ruled.contains ·) = true := rfl
  have hmem : ∀ k ∈ .document :: Kind.declared, k ∈ Fold.Rules.ruled := by
    simpa using List.all_eq_true.mp hruled
  refine ⟨fun hdeclared => h (hmem kind (List.mem_cons_of_mem _ hdeclared)), ?_⟩
  rintro rfl
  exact h (hmem .document List.mem_cons_self)

theorem Kind.declared_or_unruled {kind : Kind} (h : kind ∈ Kind.definitions) :
    kind ∈ Kind.declared ∨ kind ∉ Fold.Rules.ruled := by
  have hall : Kind.definitions.all
      (fun k => Kind.declared.contains k || !Fold.Rules.ruled.contains k) = true := rfl
  simpa using List.all_eq_true.mp hall kind h

theorem Kind.isInner_slot {kind : Kind} (hkind : kind ≠ .document) {p : Part}
    (hp : p ∈ kind.children) : (kind.slot p).isInner = true := by
  have hall : kind.children.all (fun p => (kind.slot p).isInner) = true := by
    cases kind with
    | document => contradiction
    | _ => rfl
  exact List.all_eq_true.mp hall p hp

namespace Fold

/-- What a value has been carried over into. A list is carried over item by item. A node that there
is no rule for keeps its kind, its parts and what is no child of it. A name, a type, a field or an
argument is replaced by its own text, and a required type by a marked one. -/
inductive Carried (r : Rules) : Value → Value → Prop where
  | absent : Carried r .absent .absent
  | list {vs ws : List Value} (folds : List.Forall₂ r.Folds vs ws)
      (items : List.Forall₂ (Carried r) vs ws) : Carried r (.list vs) (.list ws)
  | kept {kind : Kind} {parts folded : List (Part × Value)} (unruled : kind ∉ Rules.ruled)
      (keys : folded.map Prod.fst = parts.map Prod.fst)
      (attributes : ∀ p ∉ kind.children, Value.part p folded = Value.part p parts)
      (folds : ∀ p ∈ kind.children, r.Folds (Value.part p parts) (Value.part p folded))
      (children : ∀ p ∈ kind.children, Carried r (Value.part p parts) (Value.part p folded)) :
      Carried r (.node kind parts) (.node kind folded)
  | text {kind : Kind} {parts : List (Part × Value)} {s : String} (textual : kind ∈ Kind.textual)
      (folds : r.Folds (.node kind parts) (.text s)) : Carried r (.node kind parts) (.text s)
  | type {parts : List (Part × Value)} {s : String}
      (folds : r.Folds (.node .nonNullType parts) (.type ⟨s, true⟩)) :
      Carried r (.node .nonNullType parts) (.type ⟨s, true⟩)

namespace Rules

variable {r : Rules} {v w : Value}

theorem carried_of_folds {slot : Slot} (hv : v.fits slot = true) (hslot : slot.isInner = true)
    (h : r.Folds v w) : Carried r v w := by
  refine Value.fits_induct
    (motive := fun slot v => slot.isInner = true → ∀ w, r.Folds v w → Carried r v w)
    ?_ ?_ ?_ ?_ slot v hv hslot w h
  · intro kinds _ w h
    rw [h.unique (.absent r)]
    exact .absent
  · intro kinds _ w h
    rw [h.unique (.absent r)]
    exact .absent
  · intro kinds optional items ih hslot w h
    obtain ⟨ws, rfl, hfolds⟩ := h.exists_list
    have hitems := (List.forall₂_and_left items ws).mpr ⟨fun v hv => ih v hv hslot, hfolds⟩
    exact .list hfolds (hitems.imp fun v w hitem => hitem.1 w hitem.2)
  · intro kinds optional kind parts hkind hnode ih hslot w h
    have hinner : kind ∉ Kind.declared ∧ kind ≠ .document := by
      simpa using List.all_eq_true.mp hslot kind hkind
    obtain ⟨folded, hparts, ⟨hruled, rfl⟩ | ⟨hruled, hleft⟩⟩ :=
      h.node_cases fun _ => foldedNode_of_fits hnode
    · refine .kept hruled (keys_of_folded hparts) (fun p hp => attribute_of_folded hparts hp)
        (fun p hp => folds_part hparts hp) fun p hp => ?_
      exact ih.child hp (Kind.isInner_slot hinner.2 hp) _ (folds_part hparts hp)
    · rcases ruled_cases hruled with htextual | rfl | hdeclared | rfl
      · obtain ⟨s, rfl⟩ := exists_text_of_leave (foldedNode_of_fits hnode hparts) htextual hleft
        exact .text htextual h
      · obtain ⟨s, -, hleft⟩ := bind_eq_ok.mp hleft
        cases hleft
        exact .type h
      -- Neither a definition of a type nor a document stands below a definition.
      · exact absurd hdeclared hinner.1
      · exact absurd rfl hinner.2

theorem folds_of_fold (hv : v.isDocument = true) (h : (r.fold v).result = .ok w) : r.Folds v w := by
  have hmeets := meets_visit (r := r) hv none
  generalize hvisit : (r.visit none v).result = outcome at hmeets
  generalize v.nodes.find? Value.lacksType = gap at hmeets
  cases hmeets with
  | done visited =>
    simp only [fold, hvisit, Except.ok.injEq] at h
    exact h ▸ .of_visit hvisit
  | gap => simp [fold, hvisit] at h
  | template => simp [fold, hvisit] at h

end Rules

/-- What has become of a definition: a declaration or nothing if it defines a type, and otherwise
itself with everything below it carried over. -/
def Passed (r : Rules) (x entry : Value) : Prop :=
  r.Folds x entry ∧ ∃ kind parts, x = .node kind parts ∧
    (kind ∈ Kind.declared ∧ (entry = .suppressed ∨ ∃ s, entry = .text s) ∨
      kind ∉ Rules.ruled ∧ Carried r x entry)

theorem Rules.passed_of_folds {r : Rules} {x entry : Value}
    (hx : x.fits (.node Kind.definitions false) = true) (h : r.Folds x entry) :
    Passed r x entry := by
  cases x with
  | node kind parts =>
    obtain ⟨hkind, hnode⟩ := Value.fits_node.mp hx
    refine ⟨h, kind, parts, rfl, ?_⟩
    rcases Kind.declared_or_unruled hkind with hdeclared | hunruled
    · obtain ⟨folded, -, ⟨hunruled, -⟩ | ⟨-, hleft⟩⟩ :=
        h.node_cases fun _ => foldedNode_of_fits hnode
      · exact absurd hdeclared (Kind.inner_of_unruled hunruled).1
      · exact .inl ⟨hdeclared, suppressed_or_text_of_leave hdeclared hleft⟩
    · have hfits : (Value.node kind parts).fits (.node [kind] false) = true :=
        Value.fits_node.mpr ⟨List.mem_singleton_self kind, hnode⟩
      have hinner : (Slot.node [kind] false).isInner = true := by
        simpa [Slot.isInner] using Kind.inner_of_unruled hunruled
      exact .inr ⟨hunruled, carried_of_folds hfits hinner h⟩
  | _ => contradiction

end Fold

/-- Wherever a document folds, each definition has its entry in its own place, and those that there
is no rule for have passed through. With the built-in templates a document folds unless a type is
missing. -/
theorem foldTree_passes_through {disk : Disk} {settings : Settings} {registry : Registry}
    {document : Value} (hdocument : document.isDocument = true) :
    (TemplateSet.UsesBuiltin disk settings.templateDir →
        (∀ n ∈ document.nodes, n.lacksType = false) →
        ∃ entries, (foldTree disk settings registry document).result = .ok entries) ∧
      ∀ entries, (foldTree disk settings registry document).result = .ok entries →
        ∃ r definitions, Fold.operationRoots settings document = .ok r.roots ∧
          (Fold.Rules.load disk settings registry r.roots).result = .ok r ∧
          document = .node .document [(.definitions, .list definitions)] ∧
          List.Forall₂ (Fold.Passed r) definitions entries := by
  constructor
  · intro hbuiltin hwhole
    exact exists_foldTree hbuiltin registry hdocument
      (List.find?_eq_none.mpr fun n hn => by simp [hwhole n hn])
  · intro entries h
    obtain ⟨r, folded, hroots, hload, hfold, hfound⟩ := foldTree_eq_ok h
    have hfolds := Fold.Rules.folds_of_fold hdocument hfold
    obtain ⟨definitions, entries', htree, hdefinitions, rfl, hentries⟩ :=
      hfolds.exists_entries hdocument
    cases hfound
    have hpairs := (List.forall₂_and_left definitions entries).mpr ⟨hdefinitions, hentries⟩
    exact ⟨r, definitions, hroots, hload, htree,
      hpairs.imp fun x entry hpair => Fold.Rules.passed_of_folds hpair.1 hpair.2⟩

/-- A type, and an extension of it that has a directive and a field with an argument. -/
def kelpSchema : Document :=
  [.type none ⟨"Kelp", rfl⟩ []
      (.object [] [⟨none, ⟨"blade", rfl⟩, [], .named ⟨"Frond", rfl⟩ true, []⟩]),
    .extendType ⟨"Kelp", rfl⟩ [⟨⟨"tag", rfl⟩, [⟨⟨"label", rfl⟩, .string "wild" false⟩]⟩]
      (.object [⟨"Plant", rfl⟩] [⟨none, ⟨"edible", rfl⟩,
        [⟨none, ⟨"at", rfl⟩, .named ⟨"Season", rfl⟩ false, some (.enum ⟨"SPRING", rfl⟩), []⟩],
        .list (.named ⟨"Boolean", rfl⟩ true) true, []⟩])]

theorem foldTree_passes_through_kelpSchema :
    let entries : List Value :=
      [.text "interface Kelp \x7b\n\tblade: Frond\n\x7d",
        .node .objectTypeExtension [(.name, .text "Kelp"), (.interfaces, .list [.text "Plant"]),
          (.directives, .list [.node .directive [(.name, .text "tag"), (.arguments, .list
            [.node .argument [(.name, .text "label"),
              (.value, .node .stringValue [(.value, .text "wild"), (.block, .flag false)])]])]]),
          (.fields, .list [.text "edible: boolean[]"])]]
    let run := (foldTree {} {} ⟨[], []⟩ kelpSchema.toTree).result
    kelpSchema.toTree.isDocument = true ∧ TemplateSet.UsesBuiltin {} none ∧
      (∀ n ∈ kelpSchema.toTree.nodes, n.lacksType = false) ∧ (∃ found, run = .ok found) ∧
      run = .ok entries ∧ ∃ r definitions,
        kelpSchema.toTree = .node .document [(.definitions, .list definitions)] ∧
          List.Forall₂ (Fold.Passed r) definitions entries := by
  intro entries run
  have hdocument := kelpSchema.isDocument_toTree
  have hwhole := kelpSchema.lacksType_toTree
  have hbuiltin : TemplateSet.UsesBuiltin {} none := TemplateSet.usesBuiltin_of_no_folder rfl
  have hrun : run = .ok entries :=
    (foldTree_of_folds (r := kelpSchema.rules {} ⟨[], []⟩)
      (Fold.operationRoots_toTree {} kelpSchema) hbuiltin.load
      (kelpSchema.folds_rules {} ⟨[], []⟩)).trans rfl
  obtain ⟨hexists, hpasses⟩ := @foldTree_passes_through {} {} ⟨[], []⟩ _ hdocument
  obtain ⟨r, definitions, -, -, htree, hpassed⟩ := hpasses entries hrun
  exact ⟨hdocument, hbuiltin, hwhole, hexists hbuiltin hwhole, hrun, r, definitions, htree, hpassed⟩

end SchemaFold
