import Mathlib.Data.List.FinRange
import Mathlib.Data.List.Perm.Basic
import SchemaFold.Proofs.Filtering
import SchemaFold.Proofs.Loading

/-! Reordering a document. Its operation roots are collected before a definition is folded, so what
becomes of a definition does not depend on where it stands, nor on the file that it comes from. -/

namespace SchemaFold

/-- An entry depends on the operation roots as a set. -/
theorem Definition.entry_congr {roots roots' : List String}
    (h : ∀ name, name ∈ roots ↔ name ∈ roots') (settings : Settings) (registry : Registry)
    (d : Definition) :
    d.entry settings registry roots = d.entry settings registry roots' := by
  cases d with
  | type description name directives body =>
    cases body with
    | object interfaces fields => simp only [entry, TypeBody.entry, h]
    | _ => rfl
  | _ => rfl

namespace Document

theorem mem_operationRoots_of_perm {d d' : Document} (h : d.Perm d') (settings : Settings)
    (name : String) : name ∈ d.operationRoots settings ↔ name ∈ d'.operationRoots settings := by
  have hnames := (h.flatMap_right Definition.operationTypeNames).mem_iff (a := name)
  simp only [operationRoots, List.mem_append, hnames]

/-- In a document that is put into another order, each definition has the entry it had before. -/
theorem entries_of_perm {d d' : Document} (h : d'.Perm d) (settings : Settings)
    (registry : Registry) :
    d'.entries settings registry =
      d'.map (Definition.entry settings registry (d.operationRoots settings)) := by
  refine List.map_congr_left ?_
  intro definition _
  exact definition.entry_congr (mem_operationRoots_of_perm h settings) settings registry

theorem entries_eq_ofFn (settings : Settings) (registry : Registry) (d : Document) :
    d.entries settings registry =
      List.ofFn (Definition.entry settings registry (d.operationRoots settings) ∘ d.get) := by
  rw [entries, ← List.map_ofFn, List.ofFn_get]

theorem entries_permuted (settings : Settings) (registry : Registry) (d : Document)
    (σ : Equiv.Perm (Fin d.length)) :
    entries settings registry (List.ofFn (d.get ∘ σ)) =
      List.ofFn (Definition.entry settings registry (d.operationRoots settings) ∘ d.get ∘ σ) := by
  have hperm : (List.ofFn (d.get ∘ σ)).Perm d := by
    have h := Equiv.Perm.ofFn_comp_perm σ d.get
    rwa [List.ofFn_get] at h
  rw [entries_of_perm hperm, List.map_ofFn]

theorem entries_perm {d d' : Document} (h : d'.Perm d) (settings : Settings)
    (registry : Registry) : (d'.entries settings registry).Perm (d.entries settings registry) := by
  rw [entries_of_perm h]
  exact h.map _

end Document

namespace Schema

/-- The files that a path stands for hold these definitions, in whatever files and order. -/
def Holds (d : Disk) (path : String) (document : Document) : Prop :=
  ∃ files : List File, files ≠ [] ∧ files.Nodup ∧ (∀ file, file ∈ files ↔ Selected d path file) ∧
    ∃ definitions, Reads files definitions ∧ definitions.Perm document

theorem Reads.of_perm {files others : List File} {document : Document} (h : others.Perm files)
    (hreads : Reads files document) :
    ∃ document', Reads others document' ∧ document'.Perm document := by
  obtain ⟨parts, hparts, rfl⟩ := hreads
  obtain ⟨parts', hparts', hperm⟩ := List.perm_comp_forall₂ h hparts
  exact ⟨parts'.flatten, ⟨parts', hparts', rfl⟩, hperm.flatten⟩

theorem selection_nodup {d : Disk} (hd : d.Proper) (path : String) : (selection d path).Nodup := by
  refine (selection_ascending hd path).imp ?_
  rintro a b hlt rfl
  exact String.lt_irrefl a.1 hlt

/-- A path holds what is loaded from it, up to the order. -/
theorem holds_iff {d : Disk} (hd : d.Proper) {path : String} {document : Document} :
    Holds d path document ↔
      ∃ loaded, (load d path).result = .ok loaded ∧ loaded.Perm document := by
  constructor
  · rintro ⟨files, hne, hnodup, hmem, definitions, hreads, hdefinitions⟩
    have hselection : (selection d path).Perm files := by
      rw [List.perm_ext_iff_of_nodup (selection_nodup hd path) hnodup]
      exact fun file => (mem_selection hd).trans (hmem file).symm
    have hne' : selection d path ≠ [] := by
      intro hempty
      rw [hempty] at hselection
      exact hne hselection.nil_eq.symm
    obtain ⟨loaded, hloaded, hperm⟩ := hreads.of_perm hselection
    exact ⟨loaded, (load_eq_ok_iff hd).mpr ⟨hne', hloaded⟩, hperm.trans hdefinitions⟩
  · rintro ⟨loaded, hload, hperm⟩
    obtain ⟨hne, hreads⟩ := (load_eq_ok_iff hd).mp hload
    exact ⟨selection d path, hne, selection_nodup hd path, fun file => mem_selection hd, loaded,
      hreads, hperm⟩

end Schema

/-- A disk with a schema that holds a document, and a file to write its declarations to. -/
structure Placement (settings : Settings) (d : Document) where
  disk : Disk
  schema : String
  output : String
  path : Path
  proper : disk.Proper
  builtin : TemplateSet.UsesBuiltin disk settings.templateDir
  holds : Schema.Holds disk schema d
  target : Generator.target disk output = .ok path
  writable : disk.Writable path

namespace Placement

variable {settings : Settings} {d : Document}

/-- Generating writes a module that consists of these declarations, and then runs the hooks. -/
def Generates (p : Placement settings d) (registry : Registry) (post : List PostHook)
    (declarations : List String) : Prop :=
  let content := Hooks.runPost { post } p.path.name (Declarations.separator.intercalate
    (declarations.map (Declarations.exported settings.exportKeyword)))
  let generated := Generator.generate ⟨settings, registry, { post }⟩ p.disk p.schema p.output
  generated.2.result = .ok (p.path, content) ∧
    generated.1.read p.path = .ok (Text.Utf8.encode content)

theorem exists_generates (p : Placement settings d) (registry : Registry) (post : List PostHook) :
    ∃ declarations, p.Generates registry post declarations ∧
      declarations.Perm (Declarations.texts (d.entries settings registry)) := by
  obtain ⟨loaded, hload, hperm⟩ := (Schema.holds_iff p.proper).mp p.holds
  let g : Generator := ⟨settings, registry, { post }⟩
  have hrender := Generator.render_result (g := g) p.builtin loaded
  have hcompose := Generator.compose_eq_ok.mpr ⟨loaded, hload, p.path, p.target, _, hrender, rfl⟩
  have hentries := Document.entries_perm hperm settings registry
  exact ⟨_, Generator.generate_of_compose hcompose p.writable, hentries.filterMap _⟩

end Placement

/-- Putting the definitions of a document into another order puts its entries into that order.
Hence, in whatever two ways they are spread over files, the modules generated from these consist of
the same declarations. -/
theorem foldTree_reordered (settings : Settings) (registry : Registry) (d : Document) :
    ∃ entry : Fin d.length → Value,
      (∀ disk, TemplateSet.UsesBuiltin disk settings.templateDir →
        (foldTree disk settings registry d.toTree).result = .ok (List.ofFn entry) ∧
          ∀ σ : Equiv.Perm (Fin d.length),
            (foldTree disk settings registry (Document.toTree (List.ofFn (d.get ∘ σ)))).result =
              .ok (List.ofFn (entry ∘ σ))) ∧
      ∀ (p p' : Placement settings d) (post post' : List PostHook),
        ∃ declarations declarations', p.Generates registry post declarations ∧
          p'.Generates registry post' declarations' ∧ declarations.Perm declarations' ∧
          declarations.Perm (Declarations.texts (List.ofFn entry)) := by
  refine ⟨Definition.entry settings registry (d.operationRoots settings) ∘ d.get, ?_, ?_⟩
  · intro disk h
    refine ⟨?_, ?_⟩
    · rw [h.foldTree_result, Document.entries_eq_ofFn]
    · intro σ
      rw [h.foldTree_result, Document.entries_permuted]
      rfl
  · intro p p' post post'
    obtain ⟨declarations, hp, hperm⟩ := p.exists_generates registry post
    obtain ⟨declarations', hp', hperm'⟩ := p'.exists_generates registry post'
    rw [← Document.entries_eq_ofFn]
    exact ⟨declarations, declarations', hp, hp', hperm.trans hperm'.symm, hperm⟩

def scalarDate : Definition :=
  .type none ⟨"Date", by decide⟩ [] .scalar

def typeHub : Definition :=
  .type none ⟨"Hub", by decide⟩ [] (.object [] [])

def schemaHub : Definition :=
  .schema none [] [⟨.query, ⟨"Hub", by decide⟩⟩]

/-- Two folders that hold the same definitions, in files of other names and places. -/
def hubDisk : Disk where
  entries := [
    (["one"], .folder),
    (["one", "a.gql"], .file (Text.Utf8.encode "type Hub")),
    (["one", "b.gql"], .file (Text.Utf8.encode "schema\x7bquery:Hub\x7d scalar Date")),
    (["two"], .folder),
    (["two", "z"], .folder),
    (["two", "z", "hub.graphql"], .file (Text.Utf8.encode "type Hub")),
    (["two", "k.graphqls"], .file (Text.Utf8.encode "schema\x7bquery:Hub\x7d scalar Date"))]

theorem hubDisk_proper : hubDisk.Proper where
  distinct := by decide
  named := by decide
  here := by decide

def hubTypes : Document :=
  (Schema.definitions "type Hub").toOption.getD []

def hubSchema : Document :=
  (Schema.definitions "schema\x7bquery:Hub\x7d scalar Date").toOption.getD []

theorem definitions_hubTypes : Schema.definitions "type Hub" = .ok hubTypes :=
  eq_ok_getD (by decide +kernel) []

theorem definitions_hubSchema :
    Schema.definitions "schema\x7bquery:Hub\x7d scalar Date" = .ok hubSchema :=
  eq_ok_getD (by decide +kernel) []

theorem selection_hubDisk_one :
    Schema.selection hubDisk "one" =
      [("one/a.gql", .ok (Text.Utf8.encode "type Hub")),
        ("one/b.gql", .ok (Text.Utf8.encode "schema\x7bquery:Hub\x7d scalar Date"))] := by
  have hloc : hubDisk.locateText "one" = .ok ["one"] := rfl
  exact Schema.selection_eq_of_perm hubDisk_proper hloc rfl (by decide +kernel) (by decide +kernel)

theorem selection_hubDisk_two :
    Schema.selection hubDisk "two" =
      [("two/k.graphqls", .ok (Text.Utf8.encode "schema\x7bquery:Hub\x7d scalar Date")),
        ("two/z/hub.graphql", .ok (Text.Utf8.encode "type Hub"))] := by
  have hloc : hubDisk.locateText "two" = .ok ["two"] := rfl
  exact Schema.selection_eq_of_perm hubDisk_proper hloc rfl (by decide +kernel) (by decide +kernel)

theorem holds_hubDisk_one : Schema.Holds hubDisk "one" (hubTypes ++ hubSchema) := by
  have htypes : Schema.contents ("one/a.gql", .ok (Text.Utf8.encode "type Hub")) = .ok hubTypes :=
    Schema.contents_eq_ok definitions_hubTypes rfl (by decide)
  have hschema : Schema.contents
      ("one/b.gql", .ok (Text.Utf8.encode "schema\x7bquery:Hub\x7d scalar Date")) = .ok hubSchema :=
    Schema.contents_eq_ok definitions_hubSchema rfl (by decide)
  refine (Schema.holds_iff hubDisk_proper).mpr ⟨hubTypes ++ hubSchema, ?_, .refl _⟩
  rw [Schema.load_eq_ok_iff hubDisk_proper, selection_hubDisk_one]
  exact ⟨by simp, _, .cons htypes (.cons hschema .nil), by simp⟩

theorem holds_hubDisk_two : Schema.Holds hubDisk "two" (hubTypes ++ hubSchema) := by
  have htypes : Schema.contents ("two/z/hub.graphql", .ok (Text.Utf8.encode "type Hub")) =
      .ok hubTypes :=
    Schema.contents_eq_ok definitions_hubTypes rfl (by decide)
  have hschema : Schema.contents
      ("two/k.graphqls", .ok (Text.Utf8.encode "schema\x7bquery:Hub\x7d scalar Date")) =
        .ok hubSchema :=
    Schema.contents_eq_ok definitions_hubSchema rfl (by decide)
  refine (Schema.holds_iff hubDisk_proper).mpr ⟨hubSchema ++ hubTypes, ?_, List.perm_append_comm⟩
  rw [Schema.load_eq_ok_iff hubDisk_proper, selection_hubDisk_two]
  exact ⟨by simp, _, .cons hschema (.cons htypes .nil), by simp⟩

def hubPlacement (schema : String) (holds : Schema.Holds hubDisk schema (hubTypes ++ hubSchema)) :
    Placement {} (hubTypes ++ hubSchema) where
  disk := hubDisk
  schema := schema
  output := "types/"
  path := ⟨false, ["types", "schema.d.ts"]⟩
  proper := hubDisk_proper
  builtin := TemplateSet.usesBuiltin_of_no_folder rfl
  holds := holds
  target := rfl
  writable := ⟨[], _, rfl⟩

theorem foldTree_reordered_hub :
    TemplateSet.UsesBuiltin {} none ∧
      (foldTree {} {} ⟨[], []⟩
          (Document.toTree
            (List.ofFn ([typeHub, schemaHub, scalarDate].get ∘ Fin.revPerm)))).result =
        .ok [.text "type Date = any",
          .node .schemaDefinition [(.description, .absent), (.directives, .list []),
            (.operationTypes, .list [.node .operationTypeDefinition
              [(.type, .text "Hub"), (.operation, .text "query")]])],
          .suppressed] ∧
      (hubPlacement "one" holds_hubDisk_one).Generates ⟨[], []⟩ [] ["type Date = any"] ∧
      (hubPlacement "two" holds_hubDisk_two).Generates ⟨[], []⟩ [] ["type Date = any"] := by
  have h : TemplateSet.UsesBuiltin {} none := TemplateSet.usesBuiltin_of_no_folder rfl
  refine ⟨h, ?_, ?_⟩
  · obtain ⟨entry, hfold, -⟩ := foldTree_reordered {} ⟨[], []⟩ [typeHub, schemaHub, scalarDate]
    obtain ⟨hentry, hpermuted⟩ := hfold {} h
    rw [h.foldTree_result, Document.entries_eq_ofFn] at hentry
    obtain rfl := List.ofFn_injective (Except.ok.inj hentry)
    exact hpermuted Fin.revPerm
  · obtain ⟨entry, hfold, hgenerates⟩ := foldTree_reordered {} ⟨[], []⟩ (hubTypes ++ hubSchema)
    obtain ⟨declarations, declarations', hone, htwo, hperm, hdeclarations⟩ :=
      hgenerates (hubPlacement "one" holds_hubDisk_one) (hubPlacement "two" holds_hubDisk_two) [] []
    have hentry := (hfold {} h).1
    rw [h.foldTree_result] at hentry
    have htexts : Declarations.texts (Document.entries {} ⟨[], []⟩ (hubTypes ++ hubSchema)) =
        ["type Date = any"] := by decide +kernel
    rw [← Except.ok.inj hentry, htexts] at hdeclarations
    have hdate : declarations = ["type Date = any"] := List.perm_singleton.mp hdeclarations
    have hdate' : declarations' = ["type Date = any"] :=
      List.perm_singleton.mp (hdate ▸ hperm.symm)
    rw [hdate] at hone
    rw [hdate'] at htwo
    exact ⟨hone, htwo⟩

end SchemaFold
