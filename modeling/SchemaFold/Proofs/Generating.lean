import SchemaFold.Proofs.BlindReading
import SchemaFold.Proofs.Rendering
import SchemaFold.Proofs.SchemaReading
import SchemaFold.Proofs.Utf8Reading

/-! Generating from a file. What is written for a schema file is what its text renders to, although
the file's line ends are unified before it is read. -/

namespace SchemaFold

/-- Unifying the line ends of a text changes neither whether it is a document nor which. -/
theorem Document.parse_unifyNewlines {source : String} {d : Document} :
    Document.parse (String.ofList (Text.unifyNewlines source.toList)) = .ok d ↔
      Document.parse source = .ok d :=
  ⟨Document.parse_of_alike (Tokens.alike_ofSource source).symm,
    Document.parse_of_alike (Tokens.alike_ofSource source)⟩

namespace Schema

theorem files_of_file {d : Disk} {path : String} {bytes : List UInt8}
    (h : d.entryAt (d.locateText path) = some (.file bytes)) :
    files d path = .ok [(path, .ok bytes)] := by
  obtain ⟨loc, hloc, hget⟩ := Disk.entryAt_eq_some.mp h
  simp only [files, hloc, Disk.found?_eq_some.mpr hget, Entry.content?]

/-- The file of a text that holds definitions loads as the document that the text is. -/
theorem load_eq_ok {disk : Disk} {path source : String} {d : Document}
    (hfile : disk.entryAt (disk.locateText path) = some (.file (Text.Utf8.encode source)))
    (hsource : hasDefinitions source = .ok true) :
    (load disk path).result = .ok d ↔ Document.parse source = .ok d := by
  obtain ⟨loc, hloc, -⟩ := Disk.entryAt_eq_some.mp hfile
  obtain ⟨⟨⟩, hcheck, -⟩ := bind_eq_ok.mp hloc
  have hshort := (Disk.checkPath_eq_ok.mp hcheck).2.2
  have hspelled : ∀ file ∈ ([(path, .ok (Text.Utf8.encode source))] : List File), Spelled file := by
    simpa using spelled_of_locateText hloc (.ok (Text.Utf8.encode source))
  have hunified := hasDefinitions_of_alike (Tokens.alike_ofSource source) hsource
  simp only [load, files_of_file hfile, mapError_ok, Traced.result_bind, Traced.result_ofExcept,
    ok_bind]
  rw [readFiles_eq_ok hspelled, reads_singleton,
    contents_of_read (Text.Encoding.read_encode source) hshort, mapError_eq_ok,
    ← Document.parse_unifyNewlines]
  simp [definitions, hunified]

end Schema

namespace Generator

theorem renderSource_eq_ok {g : Generator} {disk : Disk} {source text : String} :
    (g.renderSource disk source).result = .ok text ↔
      ∃ d, Document.parse source = .ok d ∧ (g.render disk d).result = .ok text := by
  simp [renderSource, bind_eq_ok, Document.ofSource, mapError_eq_ok]

theorem compose_eq_ok {g : Generator} {disk : Disk} {schema output : String}
    {composed : Path × String} :
    (g.compose disk schema output).result = .ok composed ↔
      ∃ d, (Schema.load disk schema).result = .ok d ∧ ∃ path, target disk output = .ok path ∧
        ∃ text, (g.render disk d).result = .ok text ∧
          (path, g.hooks.runPost path.name text) = composed := by
  simp [compose, bind_eq_ok, mapError_eq_ok]

/-- A run ends before it saves anything, or with what comes of saving. -/
theorem generate_cases (g : Generator) (disk : Disk) (schema output : String) :
    (∃ f, (g.compose disk schema output).result = .error f ∧
        g.generate disk schema output = (disk, g.compose disk schema output)) ∨
      ∃ path content, (g.compose disk schema output).result = .ok (path, content) ∧
        (g.generate disk schema output).1 = (disk.save path (Text.Utf8.encode content)).1 ∧
        (g.generate disk schema output).2.result =
          ((disk.save path (Text.Utf8.encode content)).2.map fun _ => (path, content)).mapError
            .file := by
  unfold generate
  cases hcomposed : (g.compose disk schema output).result with
  | error f => exact .inl ⟨f, rfl, by simp [hcomposed]⟩
  | ok composed =>
    obtain ⟨path, content⟩ := composed
    refine .inr ⟨path, content, rfl, ?_⟩
    rcases hsave : disk.save path (Text.Utf8.encode content) with ⟨disk', f | ⟨⟩⟩
    · simp [hcomposed, hsave, Except.map]
    · simp [hcomposed, hsave, Except.map]

/-- A run that fails other than on a file leaves the disk as it was. -/
theorem generate_disk_of_failure {g : Generator} {disk : Disk} {schema output : String}
    {f : Failure} (h : (g.generate disk schema output).2.result = .error f)
    (hf : ∀ fault, f ≠ .file fault) :
    (g.generate disk schema output).1 = disk := by
  rcases g.generate_cases disk schema output with ⟨_, -, hrun⟩ | ⟨path, content, -, -, hresult⟩
  · rw [hrun]
  · rw [h] at hresult
    cases hsaved : (disk.save path (Text.Utf8.encode content)).2 with
    | ok u => simp [hsaved, Except.map] at hresult
    | error fault =>
      rw [hsaved] at hresult
      cases hresult
      exact absurd rfl (hf fault)

theorem generate_eq_ok {g : Generator} {disk : Disk} {schema output content : String} {path : Path}
    (h : (g.generate disk schema output).2.result = .ok (path, content)) :
    (g.compose disk schema output).result = .ok (path, content) ∧
      disk.save path (Text.Utf8.encode content) = ((g.generate disk schema output).1, .ok ()) := by
  rcases g.generate_cases disk schema output with
    ⟨f, hf, hrun⟩ | ⟨found, text, hcomposed, hdisk, hresult⟩
  · rw [hrun, hf] at h
    contradiction
  · rw [h] at hresult
    rcases hsave : disk.save found (Text.Utf8.encode text) with ⟨disk', f | ⟨⟩⟩
    · simp [hsave, Except.map] at hresult
    · rw [hsave] at hresult hdisk
      cases hresult
      exact ⟨hcomposed, by rw [hsave, hdisk]⟩

theorem compose_of_generate {g : Generator} {disk : Disk} {schema output : String}
    {written : Path × String} (h : (g.generate disk schema output).2.result = .ok written) :
    (g.compose disk schema output).result = .ok written :=
  (generate_eq_ok h).1

theorem generate_of_compose {g : Generator} {disk : Disk} {schema output content : String}
    {path : Path} (h : (g.compose disk schema output).result = .ok (path, content))
    (hpath : disk.Writable path) :
    (g.generate disk schema output).2.result = .ok (path, content) ∧
      (g.generate disk schema output).1.read path = .ok (Text.Utf8.encode content) := by
  obtain ⟨disk', hsave, hread⟩ := hpath.save (Text.Utf8.encode content)
  unfold generate
  simp [h, hsave, hread]

/-- Generating from the file of a text succeeds exactly when rendering the text does, and writes
what the hooks then make of it. -/
theorem generate_ok_iff_renderSource {disk : Disk} {source schema output : String} {path : Path}
    (hsource : hasDefinitions source = .ok true)
    (hschema : disk.entryAt (disk.locateText schema) = some (.file (Text.Utf8.encode source)))
    (hpath : target disk output = .ok path) (hwritable : disk.Writable path) (g : Generator) :
    ((∃ written, (g.generate disk schema output).2.result = .ok written) ↔
        ∃ text, (g.renderSource disk source).result = .ok text) ∧
      ∀ text, (g.renderSource disk source).result = .ok text →
        (g.generate disk schema output).2.result =
            .ok (path, g.hooks.runPost path.name text) ∧
          (g.generate disk schema output).1.read path =
            .ok (Text.Utf8.encode (g.hooks.runPost path.name text)) := by
  -- The load unifies line ends and `renderSource` does not, but both parse to one document.
  have hwritten : ∀ text, (g.renderSource disk source).result = .ok text →
      (g.compose disk schema output).result = .ok (path, g.hooks.runPost path.name text) := by
    intro text htext
    obtain ⟨d, hd, hrender⟩ := renderSource_eq_ok.mp htext
    have hload := (Schema.load_eq_ok hschema hsource).mpr hd
    exact compose_eq_ok.mpr ⟨d, hload, path, hpath, text, hrender, rfl⟩
  refine ⟨⟨?_, ?_⟩, ?_⟩
  · rintro ⟨written, h⟩
    obtain ⟨d, hload, -, -, text, hrender, -⟩ := compose_eq_ok.mp (compose_of_generate h)
    have hd := (Schema.load_eq_ok hschema hsource).mp hload
    exact ⟨text, renderSource_eq_ok.mpr ⟨d, hd, hrender⟩⟩
  · rintro ⟨text, htext⟩
    exact ⟨_, (generate_of_compose (hwritten text htext) hwritable).1⟩
  · intro text htext
    exact generate_of_compose (hwritten text htext) hwritable

/-- A text with a mark at its start, a comment, a description of two lines, and returns before its
line feeds. -/
def markedUsers : String :=
  "\uFEFF# Users\r\n\"\"\"\r\n  A user.\r\n  Active or not.\r\n\"\"\"\r\n" ++
    "type User \x7b\r\n  name: String!\r\n\x7d\r\n"

def markedDisk : Disk where
  entries := [(["users.graphql"], .file (Text.Utf8.encode markedUsers))]

def headed : Generator :=
  ⟨{}, ⟨[], []⟩, { post := [headerHook "// Users"] }⟩

theorem generate_ok_iff_renderSource_markedUsers :
    let path : Path := ⟨false, ["types", "schema.d.ts"]⟩
    let text := "export interface User \x7b\n\tname: string\n\x7d"
    hasDefinitions markedUsers = .ok true ∧
      markedDisk.entryAt (markedDisk.locateText "users.graphql") =
        some (.file (Text.Utf8.encode markedUsers)) ∧
      target markedDisk "types/" = .ok path ∧ markedDisk.Writable path ∧
      (headed.renderSource markedDisk markedUsers).result = .ok text ∧
      (headed.generate markedDisk "users.graphql" "types/").2.result =
        .ok (path, "// Users\n\n" ++ text) ∧
      (headed.generate markedDisk "users.graphql" "types/").1.read path =
        .ok (Text.Utf8.encode ("// Users\n\n" ++ text)) := by
  have hsource : hasDefinitions markedUsers = .ok true := eq_ok_of_toOption (by decide +kernel)
  have hpath : target markedDisk "types/" = .ok ⟨false, ["types", "schema.d.ts"]⟩ := rfl
  have hwritable : markedDisk.Writable ⟨false, ["types", "schema.d.ts"]⟩ := ⟨[], _, rfl⟩
  have hrender : (headed.renderSource markedDisk markedUsers).result =
      .ok "export interface User \x7b\n\tname: string\n\x7d" := by
    rw [renderSource_result (TemplateSet.usesBuiltin_of_no_folder rfl)]
    exact eq_ok_of_toOption (by decide +kernel)
  exact ⟨hsource, rfl, hpath, hwritable, hrender,
    (generate_ok_iff_renderSource hsource rfl hpath hwritable headed).2 _ hrender⟩

end Generator
end SchemaFold
