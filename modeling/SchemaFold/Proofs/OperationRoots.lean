import Mathlib.Data.List.Forall2
import SchemaFold.Proofs.DeclaredTypes

/-! The object types that a module leaves out. Whatever the templates are, these are the types that
the settings or a schema definition name as operation roots, and no others: a type that only an
extension of the schema names is declared like any other. -/

namespace SchemaFold

/-- The name of the object type that a definition defines. -/
def Definition.objectName? : Definition → Option Name
  | .type _ name _ (.object ..) => some name
  | _ => none

/-- The types that an extension of the schema names as operation types. -/
def Definition.addedOperationTypeNames : Definition → List String
  | .extendSchema _ operationTypes => operationTypes.map fun o => o.type.text
  | _ => []

/-- What an object type comes to where the operation roots are `roots`: it is left out if it is one
of them, and otherwise declared by some text. -/
def Definition.LeftOut (roots : List String) (x : Definition) (entry : Value) : Prop :=
  ∀ n, x.objectName? = some n →
    (n.text ∈ roots ∧ entry = .suppressed) ∨ (n.text ∉ roots ∧ ∃ text, entry = .text text)

namespace Fold.Rules

/-- The visit went through, to a value with this property, or it ended in a fault. -/
def Settled {α : Type} (P : α → Prop) (outcome : Except Stop (Visited α)) : Prop :=
  (∃ w changed, outcome = .ok ⟨w, changed⟩ ∧ P w) ∨ ∃ f, outcome = .error (.fault f)

/-- Wherever `v` is visited, what comes of it has this property, unless there is a fault. -/
def Yields (r : Rules) (v : Value) (P : Value → Prop) : Prop :=
  ∀ latest, Settled P (r.visit latest v).result

theorem Folds.yields {r : Rules} {v w : Value} {P : Value → Prop} (h : r.Folds v w) (hw : P w) :
    r.Yields v P := by
  intro latest
  obtain ⟨changed, hv⟩ := h latest
  exact .inl ⟨w, changed, hv, hw⟩

/-- A node whose rule puts something in its place, or ends in a fault. -/
theorem Yields.replaced {r : Rules} {kind : Kind} {parts folded : List (Part × Value)}
    {P : Value → Prop} (hs : r.FoldsParts kind parts folded)
    (hl : ∀ w, (r.leave kind (.node kind folded)).result = .ok w → putInPlace w = true ∧ P w) :
    r.Yields (.node kind parts) P := by
  intro latest
  obtain ⟨changed, hparts⟩ := hs none
  cases hleave : (r.leave kind (.node kind folded)).result with
  | error f => exact .inr ⟨f, by simp [visit_node, hparts, hleave]⟩
  | ok w =>
    obtain ⟨hplace, hw⟩ := hl w hleave
    refine .inl ⟨w, true, ?_, hw⟩
    cases w <;> simp_all [visit_node, putInPlace]

theorem settled_visitList {α : Type} {r : Rules} {f : α → Value} {R : α → Value → Prop}
    {as : List α} (h : ∀ a ∈ as, r.Yields (f a) (R a)) (latest : Option Value) :
    Settled (List.Forall₂ R as) (r.visitList latest (as.map f)).result := by
  induction as generalizing latest with
  | nil => exact .inl ⟨[], false, by simp [visitList_nil], .nil⟩
  | cons a as ih =>
    rcases h a (by simp) latest with ⟨w, changed, hv, hw⟩ | ⟨fault, hv⟩
    · rcases ih (fun b hb => h b (by simp [hb])) (Visited.latest latest ⟨w, changed⟩) with
        ⟨ws, changed', hvs, hws⟩ | ⟨fault, hvs⟩
      · exact .inl ⟨w :: ws, changed || changed', by simp [visitList_cons, hv, hvs], .cons hw hws⟩
      · exact .inr ⟨fault, by simp [visitList_cons, hv, hvs]⟩
    · exact .inr ⟨fault, by simp [visitList_cons, hv]⟩

/-- Whatever the templates, the rule for a type definition leaves it out or makes a text of it,
unless it ends in a fault. -/
theorem leave_eq_ok {r : Rules} {description : Value} {name : Name} {directives : List Directive}
    {body : TypeBody} {w : Value}
    (h : (r.leave body.definitionKind (.node body.definitionKind ((.description, description) ::
      body.folded r.settings.optionalMarker name directives))).result = .ok w) :
    w = .suppressed ∨ ∃ text, w = .text text := by
  cases body with
  | scalar => exact scalarAlias_eq_ok h
  | object interfaces fields =>
    rcases objectInterface_cases h with ⟨-, hw⟩ | ⟨-, hw⟩
    · exact .inl hw
    · exact .inr hw
  | interface interfaces fields => exact .inr (plainInterface_eq_ok h)
  | union members => exact .inr (unionAlias_eq_ok h)
  | enum values => exact .inr (enumAlias_eq_ok h)
  | input fields => exact .inr (plainInterface_eq_ok h)

theorem leftOut_of_leave {r : Rules} {roots : List String} (hr : r.roots = roots.map .text)
    {description : Option Description} {name : Name} {directives : List Directive} {body : TypeBody}
    {w : Value}
    (h : (r.leave body.definitionKind (.node body.definitionKind
      ((.description, Value.ofOption Description.toTree description) ::
        body.folded r.settings.optionalMarker name directives))).result = .ok w) :
    (Definition.type description name directives body).LeftOut roots w := by
  intro n hn
  cases body with
  | object interfaces fields =>
    cases hn
    have hroot := isRoot_texts roots name.text
    rw [← hr] at hroot
    rcases objectInterface_cases h with ⟨hmem, hw⟩ | ⟨hmem, hw⟩
    · exact .inl ⟨of_decide_eq_true (hroot ▸ hmem), hw⟩
    · exact .inr ⟨of_decide_eq_false (hroot ▸ hmem), hw⟩
  | _ => contradiction

theorem yields_definition {r : Rules} {roots : List String} (hr : r.roots = roots.map .text)
    (d : Definition) : r.Yields d.toTree (d.LeftOut roots) := by
  cases d with
  | type description name directives body =>
    refine .replaced (folds_definitionParts r description name directives body) ?_
    intro w h
    refine ⟨?_, leftOut_of_leave hr h⟩
    rcases leave_eq_ok h with rfl | ⟨text, rfl⟩ <;> rfl
  | _ => exact Folds.yields (folds_other r roots (by simp)) nofun

/-- A document folds into one entry for each definition, unless there is a fault. -/
theorem fold_document {r : Rules} {roots : List String} (hr : r.roots = roots.map .text)
    {d : Document} {w : Value} (h : (r.fold d.toTree).result = .ok w) :
    ∃ entries, w = .entries entries ∧ List.Forall₂ (Definition.LeftOut roots) d entries := by
  have hchild : Kind.document.children.contains .definitions = true := rfl
  have hleave (ws : List Value) :
      (r.leave .document (.node .document [(.definitions, .list ws)])).result = .ok (.entries ws) :=
    rfl
  rcases settled_visitList (fun x (_ : x ∈ d) => yields_definition hr x) none with
    ⟨ws, changed, hvisit, hws⟩ | ⟨f, hvisit⟩
  · refine ⟨ws, ?_, hws⟩
    simp only [fold, Document.toTree, visit_node, visitParts_cons, visitParts_nil, visit_list,
      hchild, if_true, Traced.result_bind, hvisit, ok_bind, Traced.result_pure, hleave,
      Traced.result_mapError, mapError_ok] at h
    exact (Except.ok.inj h).symm
  · simp only [fold, Document.toTree, visit_node, visitParts_cons, visitParts_nil, visit_list,
      hchild, if_true, Traced.result_bind, hvisit, error_bind] at h
    contradiction

end Fold.Rules

/-- Where a document folds at all, its object types are left out by name, whatever the templates. -/
theorem foldTree_leftOut {disk : Disk} {settings : Settings} {registry : Registry} {d : Document}
    {entries : List Value} (h : (foldTree disk settings registry d.toTree).result = .ok entries) :
    List.Forall₂ (Definition.LeftOut (d.operationRoots settings)) d entries := by
  obtain ⟨r, folded, hroots, -, hfold, hfound⟩ := foldTree_eq_ok h
  rw [Fold.operationRoots_toTree] at hroots
  obtain ⟨ws, rfl, hws⟩ := Fold.Rules.fold_document (Except.ok.inj hroots).symm hfold
  cases hfound
  exact hws

theorem Document.mem_operationRoots {settings : Settings} {d : Document} {name : String} :
    name ∈ d.operationRoots settings ↔
      name ∈ settings.operationRoots ∨ ∃ x ∈ d, name ∈ x.operationTypeNames := by
  simp [operationRoots]

/-- Whether the settings or some schema block, be it a definition or an extension, name a type as an
operation root. -/
def Document.NamesRoot (settings : Settings) (d : Document) (n : Name) : Prop :=
  n.text ∈ settings.operationRoots ∨
    ∃ x ∈ d, n.text ∈ x.operationTypeNames ∨ n.text ∈ x.addedOperationTypeNames

namespace Generator

theorem render_eq_ok {g : Generator} {disk : Disk} {d : Document} {text : String}
    (h : (g.render disk d).result = .ok text) :
    ∃ entries,
      (foldTree disk g.settings g.registry (g.hooks.runPre d).toTree).result = .ok entries ∧
      text = Declarations.moduleText g.settings.exportKeyword entries := by
  simp only [render, Traced.result_bind, Traced.result_mapError] at h
  obtain ⟨entries, hentries, h⟩ := bind_eq_ok.mp h
  rw [mapError_eq_ok] at hentries
  exact ⟨entries, hentries, (Except.ok.inj h).symm⟩

/-- A module declares every object type of its document but those that the settings or a schema
definition name as operation roots. So no root has a declaration exactly if each object type that an
extension of the schema names as a root is also named in one of these two ways. -/
theorem render_omits_roots_iff {settings : Settings} {registry : Registry} {disk : Disk}
    {d : Document} {text : String}
    (h : ((Generator.mk settings registry {}).render disk d).result = .ok text) :
    ∃ entries, (foldTree disk settings registry d.toTree).result = .ok entries ∧
      text = Declarations.moduleText settings.exportKeyword entries ∧
      entries.length = d.length ∧
      (∀ x entry, (x, entry) ∈ d.zip entries → x.LeftOut (d.operationRoots settings) entry) ∧
      ((∀ x entry n, (x, entry) ∈ d.zip entries → x.objectName? = some n →
          d.NamesRoot settings n → ¬∃ text, entry = .text text) ↔
        ∀ x ∈ d, ∀ n, x.objectName? = some n → (∃ y ∈ d, n.text ∈ y.addedOperationTypeNames) →
          n.text ∈ settings.operationRoots ∨ ∃ y ∈ d, n.text ∈ y.operationTypeNames) := by
  obtain ⟨entries, hentries, htext⟩ := render_eq_ok h
  have hleft : List.Forall₂ (Definition.LeftOut (d.operationRoots settings)) d entries :=
    foldTree_leftOut hentries
  obtain ⟨hlength, hzip⟩ := List.forall₂_iff_zip.mp hleft
  refine ⟨entries, hentries, htext, hlength.symm, fun x entry hx => hzip hx, ?_, ?_⟩
  · intro hroots x hx n hn ⟨y, hy, hadded⟩
    obtain ⟨i, hi, rfl⟩ := List.getElem_of_mem hx
    have hentry : i < entries.length := by omega
    have hbound : i < (d.zip entries).length := by
      rw [List.length_zip]
      exact Nat.lt_min.mpr ⟨hi, hentry⟩
    have hpair : (d[i], entries[i]) ∈ d.zip entries :=
      List.getElem_zip (h := hbound) ▸ List.getElem_mem hbound
    rcases hzip hpair n hn with ⟨hmem, -⟩ | ⟨-, hdeclared⟩
    · exact Document.mem_operationRoots.mp hmem
    · exact absurd hdeclared (hroots _ _ n hpair hn (.inr ⟨y, hy, .inr hadded⟩))
  · intro hadded x entry n hpair hn hroot ⟨text, hentry⟩
    have hmem : n.text ∈ d.operationRoots settings := by
      rw [Document.mem_operationRoots]
      rcases hroot with hset | ⟨y, hy, hdefined | hextended⟩
      · exact .inl hset
      · exact .inr ⟨y, hy, hdefined⟩
      · exact hadded x (List.of_mem_zip hpair).1 n hn ⟨y, hy, hextended⟩
    rcases hzip hpair n hn with ⟨-, hleft⟩ | ⟨hnot, -⟩
    · rw [hleft] at hentry
      contradiction
    · contradiction

/-- A folder with a template of its own for interfaces. -/
def classDisk : Disk where
  entries := [(["shapes"], .folder),
    (["shapes", "interface.ts.j2"], .file (Text.Utf8.encode "class \x7b\x7b name \x7d\x7d"))]

/-- A schema with a root that its definition names, and one that an extension names as well as the
settings. -/
def splitSchema : Document :=
  [.extendSchema [] [⟨.mutation, ⟨"Mutation", rfl⟩⟩],
    .type none ⟨"Reads", rfl⟩ [] (.object [] []),
    .type none ⟨"Mutation", rfl⟩ [] (.object [] []),
    .type none ⟨"Shape", rfl⟩ [] (.object [] []),
    .schema none [] [⟨.query, ⟨"Reads", rfl⟩⟩]]

theorem render_omits_roots_iff_splitSchema :
    let settings : Settings := { templateDir := some "shapes" }
    ((Generator.mk settings ⟨[], []⟩ {}).render classDisk splitSchema).result =
        .ok "export class Shape" ∧
      ∃ entries, entries.length = 5 ∧
        Declarations.moduleText "export" entries = "export class Shape" ∧
        ∀ x entry n, (x, entry) ∈ splitSchema.zip entries → x.objectName? = some n →
          splitSchema.NamesRoot settings n → ¬∃ text, entry = .text text := by
  intro settings
  have hrender : ((Generator.mk settings ⟨[], []⟩ {}).render classDisk splitSchema).result =
      .ok "export class Shape" := eq_ok_of_toOption (by decide +kernel)
  obtain ⟨entries, -, htext, hlength, -, hroots⟩ := render_omits_roots_iff hrender
  exact ⟨hrender, entries, hlength, htext.symm, hroots.mpr (by decide)⟩

/-- A root that only an extension of the schema names is declared like any other type. -/
theorem renderSource_added_root :
    let source := "extend schema \x7b query: Api \x7d type Api \x7b me: String \x7d"
    (Generator.standard.renderSource {} source).result =
        .ok "export interface Api \x7b\n\tme?: string\n\x7d" ∧
      ∃ d, Document.ofSource source = .ok d ∧ (∃ x ∈ d, x.objectName? = some ⟨"Api", rfl⟩) ∧
        d.NamesRoot {} ⟨"Api", rfl⟩ := by
  intro source
  rw [renderSource_result (TemplateSet.usesBuiltin_of_no_folder rfl)]
  refine ⟨eq_ok_of_toOption (by decide +kernel), ?_⟩
  obtain ⟨d, hd, hnames⟩ : ∃ d, Document.ofSource source = .ok d ∧
      (d.filterMap Definition.objectName?, d.flatMap Definition.addedOperationTypeNames) =
        ([⟨"Api", rfl⟩], ["Api"]) :=
    exists_of_toOption_map (by decide +kernel)
  obtain ⟨hobjects, hadded⟩ := Prod.mk.inj hnames
  have hobject : (⟨"Api", rfl⟩ : Name) ∈ d.filterMap Definition.objectName? := by simp [hobjects]
  have hroot : "Api" ∈ d.flatMap Definition.addedOperationTypeNames := by simp [hadded]
  obtain ⟨y, hy, hnamed⟩ := List.mem_flatMap.mp hroot
  exact ⟨d, hd, List.mem_filterMap.mp hobject, .inr ⟨y, hy, .inr hnamed⟩⟩

end Generator
end SchemaFold
