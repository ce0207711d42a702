import SchemaFold.Proofs.FolderMaking
import SchemaFold.Proofs.Loading

/-! Generating writes one file or none. Whatever fails before the file is saved leaves the disk as
it was, and a run that succeeds changes the file it reports and makes folders on the way to it. -/

namespace SchemaFold

/-- What a disk holds once the file at `loc`, which the path `p` denotes, was written. All else is
as before, except for folders that were missing on the way. -/
structure Disk.Written (before after : Disk) (p : Path) (loc : Location) (bytes : List UInt8) :
    Prop where
  here : after.here = before.here
  denoted : after.locate p = .ok loc
  content : after.get? loc = some (.file bytes)
  files : ∀ place ≠ loc, ∀ old, after.get? place = some (.file old) ↔
    before.get? place = some (.file old)
  folders : ∀ place, before.get? place = some .folder → after.get? place = some .folder
  others : ∀ place entry, (∀ old, entry ≠ .file old) → entry ≠ .folder →
    (after.get? place = some entry ↔ before.get? place = some entry)
  newFolders : ∀ place, after.get? place = some .folder → before.get? place ≠ some .folder →
    before.get? place = none ∧
      ∃ front, front <+: p.parent.parts ∧ after.locate ⟨p.absolute, front⟩ = .ok place

theorem Disk.Grown.written {p : Path} {d d' : Disk} (h : Grown p.parent d d') {loc : Location}
    (hloc : d'.locate p = .ok loc) (htakes : d'.TakesFile loc) (bytes : List UInt8) :
    d.Written (d'.put loc (.file bytes)) p loc bytes := by
  have hfolder := htakes.get?_ne_folder
  have hget : ∀ place, (d'.put loc (.file bytes)).get? place =
      if loc = place then some (.file bytes) else d'.get? place :=
    get?_put (ne_nil_of_get?_ne_folder hfolder) _
  refine ⟨h.here_eq, locate_put hfolder _ hloc, by rw [hget, if_pos rfl], ?_, ?_, ?_, ?_⟩
  · intro place hplace old
    rw [hget, if_neg (Ne.symm hplace), h.get?_eq_some (by simp)]
  · intro place hplace
    have hkept := h.get?_of_some hplace
    have hne : loc ≠ place := by
      rintro rfl
      exact hfolder hkept
    rw [hget, if_neg hne, hkept]
  · intro place entry hother hplain
    rw [hget, ← h.get?_eq_some hplain]
    by_cases hplace : loc = place
    · subst hplace
      rw [if_pos rfl]
      exact iff_of_false (fun heq => hother bytes (Option.some.inj heq).symm)
        (htakes.get?_ne hother)
    · rw [if_neg hplace]
  · intro place hplace hbefore
    have hne : loc ≠ place := by
      rintro rfl
      rw [hget, if_pos rfl] at hplace
      cases hplace
    rw [hget, if_neg hne] at hplace
    obtain ⟨hnone, front, hfront, hdenotes⟩ := h.new_folder hplace hbefore
    exact ⟨hnone, front, hfront, locate_put hfolder _ hdenotes⟩

theorem Disk.save_grown {d d' : Disk} {p : Path} {bytes : List UInt8}
    (h : d.save p bytes = (d', .ok ())) :
    ∃ made loc, Grown p.parent d made ∧ made.isFolder p.parent = true ∧
      made.locate p = .ok loc ∧ made.TakesFile loc ∧ d' = made.put loc (.file bytes) := by
  obtain ⟨made, hmade, hwrite⟩ := save_eq_ok.mp h
  obtain ⟨loc, hloc, htakes, hd'⟩ := write_eq_ok.mp hwrite
  have hgrown := d.ensureFolders_grown p.parent
  rw [hmade] at hgrown
  exact ⟨made, loc, hgrown, isFolder_ensureFolders hmade, hloc, htakes, hd'⟩

namespace Generator

/-- A run that fails other than on a file leaves the disk as it was. One that succeeds has written
the text that the hooks made of the schema's declarations to the file it reports, and has left all
else as it was, but for new folders that the path of that file leads through. -/
theorem generate_writes_only_target (g : Generator) (disk : Disk) (schema output : String) :
    (∀ f, (g.generate disk schema output).2.result = .error f → (∀ fault, f ≠ .file fault) →
      (g.generate disk schema output).1 = disk) ∧
    ∀ path content, (g.generate disk schema output).2.result = .ok (path, content) →
      (∃ document text, (Schema.load disk schema).result = .ok document ∧
        (g.render disk document).result = .ok text ∧ content = g.hooks.runPost path.name text) ∧
      ∃ loc, disk.Written (g.generate disk schema output).1 path loc
        (Text.Utf8.encode content) := by
  constructor
  · intro f hf hother
    exact generate_disk_of_failure hf hother
  · intro path content hok
    obtain ⟨hcomposed, hsave⟩ := generate_eq_ok hok
    obtain ⟨document, hload, found, -, text, hrender, hpair⟩ := compose_eq_ok.mp hcomposed
    cases hpair
    obtain ⟨made, loc, hgrown, -, hloc, htakes, hdisk⟩ := Disk.save_grown hsave
    refine ⟨⟨document, text, hload, hrender, rfl⟩, loc, ?_⟩
    rw [hdisk]
    exact hgrown.written hloc htakes _

/-- A folder with one schema file in it. -/
def moneyDisk : Disk where
  entries := [
    (["schema"], .folder),
    (["schema", "api.graphql"], .file (Text.Utf8.encode "scalar Money"))]

theorem moneyDisk_proper : moneyDisk.Proper where
  distinct := by decide
  named := by decide
  here := by decide

/-- A generator that looks for templates in the folder of the schema, where there are none. -/
def moneyGenerator : Generator :=
  ⟨{ templateDir := some "schema" }, ⟨[], []⟩, { post := [headerHook "// Money"] }⟩

theorem compose_moneyDisk :
    (moneyGenerator.compose moneyDisk "schema" "schema/gen/../out/").result =
      .ok (⟨false, ["schema", "gen", "..", "out", "schema.d.ts"]⟩,
        "// Money\n\nexport type Money = any") := by
  obtain ⟨document, hdocument, htext⟩ : ∃ document,
      Schema.definitions "scalar Money" = .ok document ∧
      Declarations.moduleText "export" (moneyGenerator.entries document) =
        "export type Money = any" :=
    exists_of_toOption_map (by decide +kernel)
  have hselection : Schema.selection moneyDisk "schema" =
      [("schema/api.graphql", .ok (Text.Utf8.encode "scalar Money"))] := by
    have hloc : moneyDisk.locateText "schema" = .ok ["schema"] := rfl
    exact Schema.selection_eq_of_perm moneyDisk_proper hloc rfl (.of_eq rfl)
      (List.pairwise_singleton _ _)
  have hload : (Schema.load moneyDisk "schema").result = .ok document := by
    rw [Schema.load_eq_ok_iff moneyDisk_proper, hselection, Schema.reads_singleton]
    exact ⟨by simp, Schema.contents_eq_ok hdocument rfl (by decide)⟩
  have hbuiltin : TemplateSet.UsesBuiltin moneyDisk (some "schema") :=
    ⟨some ⟨false, ["schema"]⟩, rfl, rfl, rfl⟩
  have hrender : (moneyGenerator.render moneyDisk document).result =
      .ok (Declarations.moduleText "export" (moneyGenerator.entries document)) :=
    render_result hbuiltin document
  refine compose_eq_ok.mpr ⟨document, hload, _, rfl, _, hrender, ?_⟩
  exact congrArg (Prod.mk _) (congrArg (moneyGenerator.hooks.runPost "schema.d.ts") htext)

theorem generate_moneyDisk :
    (moneyGenerator.generate moneyDisk "schema" "schema/gen/../out/").2.result =
      .ok (⟨false, ["schema", "gen", "..", "out", "schema.d.ts"]⟩,
        "// Money\n\nexport type Money = any") :=
  (generate_of_compose compose_moneyDisk ⟨[], _, rfl⟩).1

theorem generate_writes_only_target_moneyDisk :
    let path : Path := ⟨false, ["schema", "gen", "..", "out", "schema.d.ts"]⟩
    let content := "// Money\n\nexport type Money = any"
    let run := moneyGenerator.generate moneyDisk "schema" "schema/gen/../out/"
    let failed := moneyGenerator.generate moneyDisk "schemas" "schema/gen/../out/"
    run.2.result = .ok (path, content) ∧
      (∃ loc, moneyDisk.Written run.1 path loc (Text.Utf8.encode content)) ∧
      failed.2.result = .error (.load ⟨"schemas", .missing⟩) ∧ failed.1 = moneyDisk := by
  have hrun := generate_writes_only_target moneyGenerator moneyDisk "schema" "schema/gen/../out/"
  have hfailed :=
    generate_writes_only_target moneyGenerator moneyDisk "schemas" "schema/gen/../out/"
  have hmissing : (moneyGenerator.generate moneyDisk "schemas" "schema/gen/../out/").2.result =
      .error (.load ⟨"schemas", .missing⟩) := rfl
  exact ⟨generate_moneyDisk, (hrun.2 _ _ generate_moneyDisk).2, hmissing,
    hfailed.1 _ hmissing (by simp)⟩

end Generator
end SchemaFold
