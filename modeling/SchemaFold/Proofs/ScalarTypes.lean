import SchemaFold.Proofs.Filtering

/-! Where the type of a custom scalar comes from and where it shows. A generator and the rules of a
fold take it from settings that were accepted, and a type that is registered later shows in the
alias of its own scalar alone. -/

namespace SchemaFold

theorem Fold.Rules.load_result (disk : Disk) (settings : Settings) (registry : Registry)
    (roots : List Value) :
    (load disk settings registry roots).result =
      ((TemplateSet.load disk settings.templateDir).result.mapError .templates).map
        fun templates => ⟨settings, registry, roots, templates⟩ := by
  simp only [load, Traced.result_bind, Traced.result_mapError, Traced.result_pure]
  cases (TemplateSet.load disk settings.templateDir).result <;> rfl

namespace Settings

/-- Settings that were accepted always have a registry, with their own types and no others, and so
they are enough for a generator. The rules of a fold also need the templates, and cannot be had only
where these cannot. -/
theorem ofDraft_covers_registry {draft : Draft} {settings : Settings}
    (h : ofDraft draft = .ok settings) :
    ∃ registry, settings.registry = .ok registry ∧
      (∀ hooks, Generator.ofSettings settings hooks = .ok ⟨settings, registry, hooks⟩) ∧
      (∀ disk roots,
        (∀ f, (Fold.Rules.load disk settings registry roots).result = .error f ↔
          ∃ g, (TemplateSet.load disk settings.templateDir).result = .error g ∧
            f = .templates g) ∧
        (TemplateSet.UsesBuiltin disk settings.templateDir →
          (Fold.Rules.load disk settings registry roots).result =
            .ok ⟨settings, registry, roots, TemplateSet.builtin⟩)) ∧
      ∀ name,
        registry.get? name = Assoc.get? name settings.scalars ∧
          registry.declaredType name = (Assoc.get? name settings.scalars).getD "any" ∧
          (registry.isHandTyped name = true ↔ name ∈ settings.handTyped) ∧
          Scalar.resolve name =
            if name = "ID" ∨ name = "String" then "string"
            else if name = "Boolean" then "boolean"
            else if name = "Int" ∨ name = "Float" then "number"
            else name := by
  obtain ⟨registry, hregistry⟩ := registry_of_accepted h
  refine ⟨registry, hregistry, ?_, ?_, ?_⟩
  · intro hooks
    simp only [Generator.ofSettings, hregistry, mapError_ok, ok_bind, pure_eq_ok]
  · intro disk roots
    rw [Fold.Rules.load_result]
    constructor
    · intro f
      cases (TemplateSet.load disk settings.templateDir).result with
      | error g => simp [Except.map, eq_comm]
      | ok templates => simp [Except.map]
    · intro hbuiltin
      rw [hbuiltin.load]
      rfl
  · intro name
    have hhand : registry.handTyped = settings.handTyped := Registry.handTyped_of_build hregistry
    refine ⟨get?_registry h hregistry name, declaredType_registry h hregistry name, ?_,
      Scalar.resolve_eq name⟩
    rw [Registry.isHandTyped, hhand, List.contains_iff_mem]

theorem ofDraft_covers_registry_fees :
    let draft : Draft := {
      scalars := some (.mapping
        [("Fee", .text "string"), ("Rate", .text " 1 "), ("Fee", .text "bigint")])
      handTyped := some (.list [.text "Rate", .text "Stamp"]) }
    let settings : Settings := {
      scalars := [("Fee", "bigint"), ("Rate", " 1 ")], handTyped := ["Rate", "Stamp"] }
    ofDraft draft = .ok settings ∧
      ∃ registry, settings.registry = .ok registry ∧
        Generator.ofSettings settings {} = .ok ⟨settings, registry, {}⟩ ∧
        TemplateSet.UsesBuiltin {} settings.templateDir ∧
        (Fold.Rules.load {} settings registry []).result =
          .ok ⟨settings, registry, [], TemplateSet.builtin⟩ ∧
        registry.get? "Fee" = some "bigint" ∧ registry.declaredType "Rate" = " 1 " ∧
        registry.declaredType "Stamp" = "any" ∧ registry.isHandTyped "Rate" = true ∧
        Scalar.resolve "Fee" = "Fee" := by
  intro draft settings
  have haccepted : ofDraft draft = .ok settings := rfl
  have hbuiltin : TemplateSet.UsesBuiltin {} settings.templateDir :=
    TemplateSet.usesBuiltin_of_no_folder rfl
  obtain ⟨registry, hregistry, hgenerator, hrules, hname⟩ := ofDraft_covers_registry haccepted
  exact ⟨haccepted, registry, hregistry, hgenerator {}, hbuiltin, (hrules {} []).2 hbuiltin,
    (hname "Fee").1, (hname "Rate").2.1, (hname "Stamp").2.1,
    (hname "Rate").2.2.1.mpr (by simp [settings]), (hname "Fee").2.2.2⟩

/-- Accepted settings may name a folder with a template that cannot be read. Then there are no
rules, although there is a registry. -/
theorem load_fails_on_malformed_template :
    let settings : Settings := { templateDir := some "layout" }
    let disk : Disk := {
      entries := [(["layout"], .folder),
        (["layout", "interface.ts.j2"], .file (Text.Utf8.encode "\x7b\x7b name"))] }
    ofDraft { templateDir := some (.text "layout") } = .ok settings ∧
      ∃ registry, settings.registry = .ok registry ∧
        ∀ roots, (Fold.Rules.load disk settings registry roots).result =
          .error (.templates (.template .malformed)) := by
  intro settings disk
  have hfolder : (TemplateSet.folder disk settings.templateDir).result =
      .ok (some (.ofText "layout")) := rfl
  have hread : TemplateSet.readFrom disk (some (.ofText "layout")) TemplateSet.interfaceFile
      TemplateSet.builtinInterface = .error (.template .malformed) := rfl
  have hload : (TemplateSet.load disk settings.templateDir).result =
      .error (.template .malformed) := by
    simp only [TemplateSet.load, Traced.result_bind, Traced.result_ofExcept, hfolder, ok_bind,
      hread, error_bind]
  refine ⟨rfl, ⟨[], ["Date"]⟩, rfl, fun roots => ?_⟩
  rw [Fold.Rules.load_result, hload]
  rfl

end Settings

/-- Whether this is the definition of a scalar of this name. -/
def Definition.definesScalar (scalar : String) : Definition → Bool
  | .type _ name _ .scalar => name.text == scalar
  | _ => false

theorem Definition.entry_of_definesScalar (settings : Settings) (r : Registry)
    (roots : List String) {scalar : String} {x : Definition} (h : x.definesScalar scalar = true) :
    x.entry settings r roots =
      if r.isHandTyped scalar then .suppressed
      else .text (Declarations.aliasText scalar [r.declaredType scalar]) := by
  unfold definesScalar at h
  split at h
  · obtain rfl := beq_iff_eq.mp h
    rfl
  · contradiction

/-- Only the definition of the scalar itself sees its type. -/
theorem Definition.entry_tryRegister (settings : Settings) (r : Registry) (roots : List String)
    {scalar type : String} (hadmits : Registry.admits scalar = true) (htype : type ≠ "")
    {x : Definition} (h : x.definesScalar scalar = false) :
    x.entry settings (r.tryRegister (scalar, type)) roots = x.entry settings r roots := by
  cases x with
  | type description name directives body =>
    cases body with
    | scalar =>
      have hname : scalar ≠ name.text := Ne.symm (by simpa [definesScalar] using h)
      have hdeclared := r.declaredType_tryRegister hadmits htype name.text
      rw [if_neg hname] at hdeclared
      simp only [entry, TypeBody.entry, Registry.isHandTyped_tryRegister, hdeclared]
    | _ => rfl
  | _ => rfl

theorem Document.getElem?_entries {d : Document} {i : Nat} {x : Definition} (h : d[i]? = some x)
    (settings : Settings) (r : Registry) :
    (d.entries settings r)[i]? = some (x.entry settings r (d.operationRoots settings)) := by
  simp [entries, h]

namespace Fold

/-- The parts of a document in which types are named: the types of fields and arguments, fields and
arguments themselves, the members of a union and the interfaces of an extends clause, and
directives. -/
inductive Referring : Value → Prop where
  | type (t : TypeRef) : Referring t.toTree
  | field (f : FieldDefinition) : Referring f.toTree
  | argument (v : InputValue) : Referring v.toTree
  | listed (n : Name) : Referring n.toTypeTree
  | directive (d : Directive) : Referring d.toTree

theorem Referring.fold_result {tree : Value} (h : Referring tree) {r r' : Rules}
    (hsettings : r'.settings = r.settings) : (r'.fold tree).result = (r.fold tree).result := by
  cases h with
  | type t => rw [(r'.folds_type t).fold_result, (r.folds_type t).fold_result]
  | field f => rw [(r'.folds_field f).fold_result, (r.folds_field f).fold_result, hsettings]
  | argument v =>
    rw [(r'.folds_inputValue v).fold_result, (r.folds_inputValue v).fold_result, hsettings]
  | listed n => rw [(r'.folds_typeName n).fold_result, (r.folds_typeName n).fold_result]
  | directive d => rw [(r'.folds_directive d).fold_result, (r.folds_directive d).fold_result]

end Fold

/-- Once a type is registered for a scalar, each definition of that scalar becomes the alias with
this type unless it is left out, and every other entry is what it was before. Nothing that refers to
the scalar changes. -/
theorem foldTree_register {disk : Disk} {settings : Settings}
    (hbuiltin : TemplateSet.UsesBuiltin disk settings.templateDir) (r : Registry)
    {scalar type : String} (hlegal : Name.accepted scalar = true)
    (hcustom : Scalar.isBuiltin scalar = false) (htype : type ≠ "") (d : Document) :
    ∃ r', r.register scalar type = .ok r' ∧
      (∃ entries entries', (foldTree disk settings r d.toTree).result = .ok entries ∧
        (foldTree disk settings r' d.toTree).result = .ok entries' ∧
        entries.length = d.length ∧ entries'.length = d.length ∧
        ∀ (i : Nat) (x : Definition), d[i]? = some x →
          (x.definesScalar scalar = false → entries'[i]? = entries[i]?) ∧
          (x.definesScalar scalar = true → r.isHandTyped scalar = false →
            entries'[i]? = some (.text ("type " ++ scalar ++ " = " ++ type))) ∧
          (x.definesScalar scalar = true → r.isHandTyped scalar = true →
            entries[i]? = some .suppressed ∧ entries'[i]? = some .suppressed)) ∧
      ∀ (rules : Fold.Rules) (tree : Value), Fold.Referring tree →
        (Fold.Rules.fold { rules with registry := r' } tree).result =
          (Fold.Rules.fold { rules with registry := r } tree).result := by
  have hadmits : Registry.admits scalar = true := by simp [Registry.admits, hlegal, hcustom]
  have hsameHand := r.isHandTyped_tryRegister (scalar, type) scalar
  refine ⟨_, r.register_eq_tryRegister type hadmits, ⟨_, _, hbuiltin.foldTree_result r d,
    hbuiltin.foldTree_result _ d, List.length_map _, List.length_map _, ?_⟩, ?_⟩
  · intro i x hx
    rw [Document.getElem?_entries hx, Document.getElem?_entries hx]
    refine ⟨?_, ?_, ?_⟩
    · intro hother
      rw [Definition.entry_tryRegister settings r _ hadmits htype hother]
    · intro hsame hhand
      have hdeclared := r.declaredType_tryRegister hadmits htype scalar
      rw [if_pos rfl] at hdeclared
      rw [Definition.entry_of_definesScalar settings _ _ hsame, hsameHand, hdeclared]
      simp [hhand, Declarations.aliasText]
    · intro hsame hhand
      rw [Definition.entry_of_definesScalar settings _ _ hsame,
        Definition.entry_of_definesScalar settings _ _ hsame, hsameHand, hhand]
      exact ⟨rfl, rfl⟩
  · intro rules tree htree
    exact htree.fold_result rfl

/-- Two scalars, and a type and a union that refer to the first of them. -/
def reefSchema : Document :=
  [.type none ⟨"Reef", rfl⟩ [] (.object []
      [⟨none, ⟨"depth", rfl⟩, [], .list (.named ⟨"Depth", rfl⟩ true) false, []⟩]),
    .type none ⟨"Depth", rfl⟩ [] .scalar, .type none ⟨"Tide", rfl⟩ [] .scalar,
    .type none ⟨"Sounding", rfl⟩ [] (.union [⟨"Depth", rfl⟩, ⟨"Reef", rfl⟩])]

theorem foldTree_register_reefSchema :
    let r : Registry := ⟨[("Depth", "number")], ["Tide"]⟩
    TemplateSet.UsesBuiltin {} none ∧
      (∃ r' entries entries', r.register "Depth" "bigint" = .ok r' ∧
        (foldTree {} {} r reefSchema.toTree).result = .ok entries ∧
        (foldTree {} {} r' reefSchema.toTree).result = .ok entries' ∧
        entries[1]? = some (.text "type Depth = number") ∧
        entries'[1]? = some (.text "type Depth = bigint") ∧
        entries'[0]? = entries[0]? ∧ entries'[3]? = entries[3]?) ∧
      ∃ r' entries', r.register "Tide" "Date" = .ok r' ∧
        (foldTree {} {} r' reefSchema.toTree).result = .ok entries' ∧
        entries'[2]? = some .suppressed := by
  intro r
  have hbuiltin : TemplateSet.UsesBuiltin {} none := TemplateSet.usesBuiltin_of_no_folder rfl
  refine ⟨hbuiltin, ?_, ?_⟩
  · obtain ⟨r', hr', ⟨entries, entries', hold, hnew, -, -, hat⟩, -⟩ :=
      @foldTree_register {} {} hbuiltin r "Depth" "bigint" rfl rfl (by decide) reefSchema
    have hentries := Except.ok.inj (hold.symm.trans (hbuiltin.foldTree_result r reefSchema))
    exact ⟨r', entries, entries', hr', hold, hnew, hentries ▸ rfl, (hat 1 _ rfl).2.1 rfl rfl,
      (hat 0 _ rfl).1 rfl, (hat 3 _ rfl).1 rfl⟩
  · obtain ⟨r', hr', ⟨entries, entries', -, hnew, -, -, hat⟩, -⟩ :=
      @foldTree_register {} {} hbuiltin r "Tide" "Date" rfl rfl (by decide) reefSchema
    exact ⟨r', entries', hr', hnew, ((hat 2 _ rfl).2.2 rfl rfl).2⟩

end SchemaFold
