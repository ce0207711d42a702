import SchemaFold.Proofs.Rendering

/-! Filters by name. Filters that run one after the other keep what all of them keep. They keep
every schema definition, so the operation roots of a document stay the same, and the entries of a
filtered document are some of the entries it had before. -/

namespace SchemaFold

namespace NameFilter

/-- Whether a name meets every condition that is set and not empty. -/
@[mk_iff]
structure Passes (f : NameFilter) (name : String) : Prop where
  excludePrefix : ∀ text ∈ f.excludePrefix, text ≠ "" → ¬text.toList <+: name.toList
  excludeSuffix : ∀ text ∈ f.excludeSuffix, text ≠ "" → ¬text.toList <:+ name.toList
  includePrefix : ∀ text ∈ f.includePrefix, text ≠ "" → text.toList <+: name.toList
  includeSuffix : ∀ text ∈ f.includeSuffix, text ≠ "" → text.toList <:+ name.toList

theorem holds_eq_false {condition : Option String} {test : String → Bool} :
    holds condition test = false ↔ ∀ text ∈ condition, text ≠ "" → ¬test text = true := by
  cases condition with
  | none => simp [holds]
  | some text => by_cases h : text = "" <;> simp [holds, h]

theorem keepsName_iff (f : NameFilter) (name : String) :
    f.keepsName name = true ↔ f.Passes name := by
  rw [passes_iff]
  simp only [keepsName, startsWith, endsWith, Bool.and_eq_true, Bool.not_eq_true', holds_eq_false,
    Bool.not_eq_false, List.isPrefixOf_iff_prefix, List.isSuffixOf_iff_suffix, and_assoc]

end NameFilter

namespace Definition

/-- Whether all filters let a definition pass. One without a name passes. -/
def PassesAll (filters : List NameFilter) (d : Definition) : Prop :=
  ∀ name ∈ d.name?, ∀ f ∈ filters, f.Passes name.text

theorem all_keeps_iff (filters : List NameFilter) (d : Definition) :
    (filters.all fun f => f.keeps d) = true ↔ d.PassesAll filters := by
  simp only [PassesAll, List.all_eq_true, NameFilter.keeps]
  cases d.name? with
  | none => simp
  | some name => simp [NameFilter.keepsName_iff]

instance (filters : List NameFilter) : DecidablePred (PassesAll filters) :=
  fun d => decidable_of_iff _ (all_keeps_iff filters d)

end Definition

/-- The filters that a document has passed leave it as if all had run at once. -/
theorem Hooks.runPre_filters (filters : List NameFilter) (post : List PostHook) (d : Document) :
    (Hooks.mk (filters.map NameFilter.hook) post).runPre d =
      d.filter fun x => decide (x.PassesAll filters) := by
  have hall : ∀ d : Document, (filters.map NameFilter.hook).foldl (fun d hook => hook d) d =
      d.filter fun x => filters.all fun f => f.keeps x := by
    induction filters with
    | nil => simp
    | cons f filters ih =>
      intro d
      simp [ih, NameFilter.hook, List.filter_filter, Bool.and_comm]
  have hkeeps : ∀ x : Definition,
      (filters.all fun f => f.keeps x) = decide (x.PassesAll filters) := by
    intro x
    rw [Bool.eq_iff_iff, decide_eq_true_iff]
    exact x.all_keeps_iff filters
  rw [Hooks.runPre, hall]
  simp only [hkeeps]

/-- Only schema definitions name operation types, and these have no name to filter by. -/
theorem Definition.operationTypeNames_of_not_passesAll {filters : List NameFilter} {d : Definition}
    (h : ¬d.PassesAll filters) : d.operationTypeNames = [] := by
  cases d with
  | schema description directives operationTypes => simp [PassesAll, name?] at h
  | _ => rfl

namespace Document

theorem operationRoots_filter (settings : Settings) (filters : List NameFilter) (d : Document) :
    operationRoots settings (d.filter fun x => decide (x.PassesAll filters)) =
      d.operationRoots settings := by
  have hnames : (d.filter fun x => decide (x.PassesAll filters)).flatMap
      Definition.operationTypeNames = d.flatMap Definition.operationTypeNames := by
    induction d with
    | nil => rfl
    | cons x d ih =>
      by_cases hx : x.PassesAll filters
      · simp [hx, ih]
      · simp [hx, ih, Definition.operationTypeNames_of_not_passesAll hx]
  rw [operationRoots, operationRoots, hnames]

/-- The entries of those definitions that all filters let pass. -/
def entriesPassing (filters : List NameFilter) (d : Document) (entries : List Value) : List Value :=
  ((d.zip entries).filter fun p => decide (p.1.PassesAll filters)).map Prod.snd

theorem entriesPassing_map (filters : List NameFilter) (f : Definition → Value) (d : Document) :
    d.entriesPassing filters (d.map f) =
      (d.filter fun x => decide (x.PassesAll filters)).map f := by
  induction d with
  | nil => rfl
  | cons x d ih =>
    simp only [entriesPassing] at ih
    by_cases hx : x.PassesAll filters <;> simp [entriesPassing, hx, ih]

/-- A definition that stays keeps its entry, since the operation roots do. -/
theorem entries_filter (settings : Settings) (registry : Registry) (filters : List NameFilter)
    (d : Document) :
    entries settings registry (d.filter fun x => decide (x.PassesAll filters)) =
      d.entriesPassing filters (d.entries settings registry) := by
  rw [entries, operationRoots_filter, entries, entriesPassing_map]

end Document

/-- Filtering a document selects among its entries: those of the definitions without a name, and of
those whose names pass every filter, as they were. The operation roots are the same as before, and
neither the order of the filters nor their repetition matters. -/
theorem foldTree_runPre_filters (disk : Disk) (settings : Settings) (registry : Registry)
    (h : TemplateSet.UsesBuiltin disk settings.templateDir) (d : Document)
    (filters : List NameFilter) (post : List PostHook) :
    let filtered (filters : List NameFilter) : Document :=
      Hooks.runPre ⟨filters.map NameFilter.hook, post⟩ d
    (∃ entries, (foldTree disk settings registry d.toTree).result = .ok entries ∧
      entries.length = d.length ∧
      (foldTree disk settings registry (filtered filters).toTree).result =
        .ok (d.entriesPassing filters entries)) ∧
    Fold.operationRoots settings (filtered filters).toTree =
      Fold.operationRoots settings d.toTree ∧
    ∀ others : List NameFilter, (∀ f, f ∈ others ↔ f ∈ filters) →
      foldTree disk settings registry (filtered others).toTree =
        foldTree disk settings registry (filtered filters).toTree := by
  intro filtered
  have hfiltered : ∀ filters, filtered filters =
      d.filter fun x => decide (x.PassesAll filters) :=
    fun filters => Hooks.runPre_filters filters post d
  refine ⟨⟨d.entries settings registry, h.foldTree_result registry d, ?_, ?_⟩, ?_, ?_⟩
  · exact List.length_map _
  · rw [h.foldTree_result, hfiltered, Document.entries_filter]
  · rw [Fold.operationRoots_toTree, Fold.operationRoots_toTree, hfiltered,
      Document.operationRoots_filter]
  · intro others hothers
    have hsame : ∀ x : Definition, x.PassesAll others ↔ x.PassesAll filters := by
      intro x
      simp only [Definition.PassesAll, hothers]
    rw [hfiltered, hfiltered]
    simp only [hsame]

theorem foldTree_runPre_filters_userSchema :
    TemplateSet.UsesBuiltin {} none ∧
      (foldTree {} {} ⟨[], ["Date"]⟩ (Document.toTree (Hooks.runPre
        ⟨[NameFilter.hook { excludePrefix := some "Ro", includeSuffix := some "" },
          NameFilter.hook { excludeSuffix := some "ue" }], []⟩ userSchema))).result =
        .ok [.node .schemaDefinition [(.description, .absent), (.directives, .list []),
            (.operationTypes, .list [.node .operationTypeDefinition
              [(.type, .text "Root"), (.operation, .text "query")]])],
          .text "interface User extends Node \x7b\n\tid: string\n\ttags?: string[][]\n\x7d",
          .suppressed] := by
  have h : TemplateSet.UsesBuiltin {} none := TemplateSet.usesBuiltin_of_no_folder rfl
  obtain ⟨⟨entries, hentries, -, hfiltered⟩, -⟩ :=
    foldTree_runPre_filters {} {} ⟨[], ["Date"]⟩ h userSchema
      [{ excludePrefix := some "Ro", includeSuffix := some "" }, { excludeSuffix := some "ue" }] []
  rw [h.foldTree_result] at hentries
  cases hentries
  exact ⟨h, hfiltered.trans rfl⟩

end SchemaFold
