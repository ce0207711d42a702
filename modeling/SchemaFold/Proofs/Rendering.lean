import SchemaFold.Generator
import SchemaFold.Proofs.DocumentFold
import SchemaFold.Proofs.RegistryHistory

/-! Rendering with the built-in templates: a source that can be read is rendered, whatever the
settings, the scalars registered and the hooks. -/

namespace SchemaFold

namespace Generator

/-- Settings that were accepted are enough for a generator. -/
theorem ofDraft_of_accepted {draft : Settings.Draft} {settings : Settings}
    (h : Settings.ofDraft draft = .ok settings) (hooks : Hooks) :
    ∃ registry, ofDraft draft hooks = .ok ⟨settings, registry, hooks⟩ := by
  obtain ⟨registry, hregistry⟩ := Settings.registry_of_accepted h
  refine ⟨registry, ?_⟩
  simp only [ofDraft, h, mapError_ok, ok_bind, ofSettings, hregistry, pure_eq_ok]

/-- The generator after an attempt to register a scalar. Where that is refused, nothing changes. -/
def tryRegister (g : Generator) (call : String × String) : Generator :=
  match g.register call.1 call.2 with
  | .ok g' => g'
  | .error _ => g

def tryRegisterAll (g : Generator) (calls : List (String × String)) : Generator :=
  calls.foldl tryRegister g

/-- A generator registers scalars in its registry and nowhere else. -/
theorem tryRegister_registry (g : Generator) (call : String × String) :
    g.tryRegister call = { g with registry := g.registry.tryRegister call } := by
  unfold tryRegister Registry.tryRegister register
  cases g.registry.register call.1 call.2 <;> rfl

theorem tryRegisterAll_frame (g : Generator) (calls : List (String × String)) :
    (g.tryRegisterAll calls).settings = g.settings ∧ (g.tryRegisterAll calls).hooks = g.hooks := by
  induction calls generalizing g with
  | nil => exact ⟨rfl, rfl⟩
  | cons call calls ih =>
    have hrest := ih (g.tryRegister call)
    rw [tryRegister_registry] at hrest
    rwa [tryRegisterAll, List.foldl_cons, tryRegister_registry]

/-- The entries of a document, once the hooks have run on it. -/
def entries (g : Generator) (d : Document) : List Value :=
  (g.hooks.runPre d).entries g.settings g.registry

theorem foldTree_runPre {g : Generator} {disk : Disk}
    (h : TemplateSet.UsesBuiltin disk g.settings.templateDir) (d : Document) :
    (foldTree disk g.settings g.registry (g.hooks.runPre d).toTree).result = .ok (g.entries d) :=
  h.foldTree_result g.registry (g.hooks.runPre d)

theorem render_result {g : Generator} {disk : Disk}
    (h : TemplateSet.UsesBuiltin disk g.settings.templateDir) (d : Document) :
    (g.render disk d).result =
      .ok (Declarations.moduleText g.settings.exportKeyword (g.entries d)) := by
  simp only [render, Traced.result_bind, Traced.result_mapError]
  rw [foldTree_runPre h]
  rfl

theorem renderSource_result {g : Generator} {disk : Disk}
    (h : TemplateSet.UsesBuiltin disk g.settings.templateDir) (source : String) :
    (g.renderSource disk source).result =
      (Document.ofSource source).map fun d =>
        Declarations.moduleText g.settings.exportKeyword (g.entries d) := by
  simp only [renderSource, Traced.result_bind, Traced.result_ofExcept]
  cases Document.ofSource source with
  | error f => rfl
  | ok d => exact render_result h d

/-- All that rendering takes from the disk are the templates. -/
theorem render_congr {g : Generator} {disk disk' : Disk}
    (h : TemplateSet.load disk' g.settings.templateDir =
      TemplateSet.load disk g.settings.templateDir)
    (document : Document) : g.render disk' document = g.render disk document := by
  simp only [render, foldTree, Fold.Rules.load, h]

/-- Without templates of its own, a generator whose settings were accepted fails on a source exactly
when the source cannot be read, with the fault found in it. -/
theorem renderSource_error_iff {draft : Settings.Draft} {settings : Settings}
    (haccepted : Settings.ofDraft draft = .ok settings) (htemplates : settings.templateDir = none)
    (filters : List NameFilter) (post : List PostHook) :
    ∃ g, ofDraft draft ⟨filters.map NameFilter.hook, post⟩ = .ok g ∧
      ∀ (calls : List (String × String)) (disk : Disk) (source : String) (f : Failure),
        ((g.tryRegisterAll calls).renderSource disk source).result = .error f ↔
          ∃ e, Document.parse source = .error e ∧ f = .document e (e.position source) := by
  obtain ⟨registry, hg⟩ := ofDraft_of_accepted haccepted ⟨filters.map NameFilter.hook, post⟩
  refine ⟨_, hg, ?_⟩
  intro calls disk source f
  have hframe :=
    (tryRegisterAll_frame ⟨settings, registry, filters.map NameFilter.hook, post⟩ calls).1
  have hbuiltin : TemplateSet.UsesBuiltin disk
      (tryRegisterAll ⟨settings, registry, filters.map NameFilter.hook, post⟩
        calls).settings.templateDir := by
    rw [hframe, htemplates]
    exact TemplateSet.usesBuiltin_of_no_folder rfl
  rw [renderSource_result hbuiltin, Document.ofSource]
  cases Document.parse source with
  | error e => simp [Except.map, eq_comm]
  | ok d => simp [Except.map]

theorem renderSource_error_iff_noPrivate :
    Settings.ofDraft { indent := some (.text "  ") } = .ok { indent := "  " } ∧
      ∃ g, ofDraft { indent := some (.text "  ") }
          ⟨[NameFilter.hook { excludePrefix := some "_" }], []⟩ = .ok g ∧
        ∀ (disk : Disk) (source : String) (f : Failure),
          ((g.tryRegisterAll [("Int", "bigint"), ("Money", "string")]).renderSource
              disk source).result = .error f ↔
            ∃ e, Document.parse source = .error e ∧ f = .document e (e.position source) := by
  have haccepted : Settings.ofDraft { indent := some (.text "  ") } = .ok { indent := "  " } := rfl
  refine ⟨haccepted, ?_⟩
  obtain ⟨g, hg, h⟩ :=
    renderSource_error_iff haccepted rfl [{ excludePrefix := some "_" }] []
  exact ⟨g, hg, h [("Int", "bigint"), ("Money", "string")]⟩

end Generator
end SchemaFold
