import SchemaFold.Proofs.Atomicity

/-! Generating again. The file that a run has written is no schema file and no template, and the
folders it made are where the same run would look for them, so the run finds all as it was. -/

namespace SchemaFold

namespace Disk

theorem checkFolder_of_locate {d : Disk} {p : Path} {loc : Location} (h : d.locate p = .ok loc) :
    d.checkFolder p = .ok (d.isFolder p) := by
  simp only [checkFolder, h]

theorem locate_child {d : Disk} {p : Path} {folder : Location} {entry : Entry} {name : String}
    (hp : d.locate p = .ok folder) (hentry : d.get? folder = some entry)
    (hfolder : entry.isFolder = true) (hshort : ¬nameBound < name.utf8ByteSize)
    (hmove : move folder name = folder ++ [name]) :
    d.locate (p.child name) = checkPath (p.child name).text >>= fun _ =>
      match entry.lock? with
      | none => .ok (folder ++ [name])
      | some lock => .error (.locked lock) := by
  obtain ⟨u, -, hfollow⟩ := bind_eq_ok.mp hp
  have hchild : d.follow (d.origin p.absolute) (p.parts ++ [name]) =
      d.follow folder [name] := by
    rw [follow_append, hfollow, ok_bind]
  have hlast : d.follow folder [name] =
      match entry.lock? with
      | none => .ok (folder ++ [name])
      | some lock => .error (.locked lock) := by
    cases entry with
    | folder => simp only [follow, hentry, if_neg hshort, hmove, Entry.lock?]
    | lockedFolder lock => simp only [follow, hentry, Entry.lock?]
    | _ => contradiction
  unfold locate
  exact congrArg (_ >>= ·) (funext fun _ => hchild.trans hlast)

namespace Written

variable {before after : Disk} {p : Path} {loc : Location} {bytes : List UInt8}

theorem locate (h : before.Written after p loc bytes) {path : Path} {place : Location}
    (hplace : before.locate path = .ok place) : after.locate path = .ok place := by
  obtain ⟨u, hcheck, hfollow⟩ := bind_eq_ok.mp hplace
  refine bind_eq_ok.mpr ⟨u, hcheck, ?_⟩
  rw [origin, h.here]
  exact follow_of_folders h.folders hfollow

theorem locateText (h : before.Written after p loc bytes) {text : String} {place : Location}
    (hplace : before.locateText text = .ok place) : after.locateText text = .ok place := by
  obtain ⟨u, hcheck, hfollow⟩ := bind_eq_ok.mp hplace
  refine bind_eq_ok.mpr ⟨u, hcheck, ?_⟩
  rw [origin, h.here]
  exact follow_of_folders h.folders hfollow

/-- Whatever is not where the file was written is as before, if it was there before. -/
theorem get?_of_some (h : before.Written after p loc bytes) {place : Location} (hne : place ≠ loc)
    {entry : Entry} (hentry : before.get? place = some entry) : after.get? place = some entry := by
  cases entry with
  | file old => exact (h.files place hne old).mpr hentry
  | folder => exact h.folders place hentry
  | _ => exact (h.others place _ (by simp) (by simp)).mpr hentry

/-- Nothing is new but the file that was written, and folders. -/
theorem get?_cases (h : before.Written after p loc bytes) {place : Location} (hne : place ≠ loc) :
    after.get? place = before.get? place ∨
      before.get? place = none ∧ after.get? place = some .folder := by
  cases hbefore : before.get? place with
  | some entry => exact .inl (h.get?_of_some hne hbefore)
  | none =>
    cases hafter : after.get? place with
    | none => exact .inl rfl
    | some entry =>
      cases entry with
      | folder => exact .inr ⟨rfl, rfl⟩
      | file old =>
        rw [(h.files place hne old).mp hafter] at hbefore
        contradiction
      | _ =>
        rw [(h.others place _ (by simp) (by simp)).mp hafter] at hbefore
        contradiction

theorem content?_eq (h : before.Written after p loc bytes) {place : Location} (hne : place ≠ loc) :
    (after.found? place).bind Entry.content? = (before.found? place).bind Entry.content? := by
  unfold found?
  rcases h.get?_cases hne with hsame | ⟨hnone, hnew⟩
  · rw [hsame]
  · rw [hnone, hnew]
    rfl

theorem get?_of_isFolder (h : before.Written after p loc bytes) {place : Location} {entry : Entry}
    (hfolder : entry.isFolder = true) (hentry : before.get? place = some entry) :
    after.get? place = some entry := by
  cases entry with
  | folder => exact h.folders place hentry
  | lockedFolder lock => exact (h.others place _ (by simp) (by simp)).mpr hentry
  | _ => contradiction

theorem isFolder (h : before.Written after p loc bytes) {path : Path}
    (hpath : before.isFolder path = true) : after.isFolder path = true := by
  obtain ⟨place, entry, hplace, hentry, hfolder⟩ := isFolder_iff.mp hpath
  exact isFolder_iff.mpr
    ⟨place, entry, h.locate hplace, h.get?_of_isFolder hfolder hentry, hfolder⟩

/-- Saving the same content once more changes nothing. -/
theorem save_again (h : before.Written after p loc bytes)
    (hparent : after.isFolder p.parent = true) : after.save p bytes = (after, .ok ()) := by
  have hne : loc ≠ [] := by
    rintro rfl
    have hroot := h.content
    cases hroot
  have hsame : after.put loc (.file bytes) = after := by
    have hget : Assoc.get? loc after.entries = some (.file bytes) := by
      simpa [get?, hne] using h.content
    rw [put, Assoc.put_of_get? hget]
  have hwrite : after.write p bytes = .ok after :=
    write_eq_ok.mpr ⟨loc, h.denoted, .inr ⟨bytes, h.content⟩, hsame.symm⟩
  exact save_eq_ok.mpr ⟨after, ensureFolders_of_isFolder hparent, hwrite⟩

/-- A file in a folder that the written one does not lie in has the same content as before. -/
theorem content?_child (h : before.Written after p loc bytes) {path : Path} {folder : Location}
    {entry : Entry} {name : String} (hpath : before.locate path = .ok folder)
    (hentry : before.get? folder = some entry) (hfolder : entry.isFolder = true)
    (hshort : ¬nameBound < name.utf8ByteSize) (hmove : move folder name = folder ++ [name])
    (hapart : loc ≠ folder ++ [name]) :
    (after.entryAt (after.locate (path.child name))).bind Entry.content? =
      (before.entryAt (before.locate (path.child name))).bind Entry.content? := by
  have hkept := h.get?_of_isFolder hfolder hentry
  rw [locate_child hpath hentry hfolder hshort hmove,
    locate_child (h.locate hpath) hkept hfolder hshort hmove]
  cases checkPath (path.child name).text with
  | error cause => rfl
  | ok u =>
    cases entry with
    | folder => exact h.content?_eq (Ne.symm hapart)
    | lockedFolder lock => rfl
    | _ => contradiction

end Written
end Disk

namespace TemplateSet

theorem source_congr {d d' : Disk} {p : Path} {file : String}
    (h : (d'.entryAt (d'.locate (p.child file))).bind Entry.content? =
      (d.entryAt (d.locate (p.child file))).bind Entry.content?) (builtin : String) :
    source d' (some p) file builtin = source d (some p) file builtin := by
  simp only [source, h]

/-- A folder that is there is taken, unless the path for it is empty. -/
theorem folder_of_isFolder {d : Disk} {dir : String} (h : d.isFolder (Path.ofText dir) = true) :
    folder d (some dir) = pure (if dir.isEmpty then none else some (Path.ofText dir)) := by
  obtain ⟨loc, entry, hloc, -⟩ := Disk.isFolder_iff.mp h
  have hcheck : d.checkFolder (Path.ofText dir) = .ok true := by
    rw [Disk.checkFolder_of_locate hloc, h]
  by_cases hempty : dir.isEmpty = true
  · simp only [folder, hempty, if_true]
  · simp only [folder, hempty, hcheck]
    rfl

/-- Where the folder of templates is there and the file written is not in it, the templates stay the
same. -/
theorem load_written {before after : Disk} {p : Path} {loc : Location} {bytes : List UInt8}
    (h : before.Written after p loc bytes) {dir : String} {folder : Location} {entry : Entry}
    (hdir : before.locate (Path.ofText dir) = .ok folder)
    (hentry : before.get? folder = some entry) (hfolder : entry.isFolder = true)
    (hapart : ∀ name, loc ≠ folder ++ [name]) :
    load after (some dir) = load before (some dir) := by
  have hthere : before.isFolder (Path.ofText dir) = true :=
    Disk.isFolder_iff.mpr ⟨folder, entry, hdir, hentry, hfolder⟩
  have hread : ∀ file builtin, ¬Disk.nameBound < file.utf8ByteSize →
      Disk.move folder file = folder ++ [file] →
      readFrom after (if dir.isEmpty then none else some (Path.ofText dir)) file builtin =
        readFrom before (if dir.isEmpty then none else some (Path.ofText dir)) file builtin := by
    intro file builtin hshort hmove
    have hsame := h.content?_child hdir hentry hfolder hshort hmove (hapart file)
    split
    · rfl
    · rw [readFrom, readFrom, source_congr hsame]
  unfold load
  rw [folder_of_isFolder hthere, folder_of_isFolder (h.isFolder hthere), Traced.pure_bind,
    Traced.pure_bind, hread interfaceFile builtinInterface (by decide) rfl,
    hread aliasFile builtinAlias (by decide) rfl]

end TemplateSet

namespace Schema

/-- The schema file that an entry is below a folder, if it is one. -/
def fileBelow? (d : Disk) (folder : String) (loc : Location) (e : Location × Entry) :
    Option File :=
  if loc.isPrefixOf e.1 && loc.length < e.1.length && d.lists loc (e.1.drop loc.length) &&
      selects folder (e.1.drop loc.length) then
    e.2.content?.map fun content => (pathBelow folder (e.1.drop loc.length), content)
  else none

theorem filesBelow_eq_filterMap (d : Disk) (folder : String) (loc : Location) :
    filesBelow d folder loc = d.entries.filterMap (fileBelow? d folder loc) := by
  unfold filesBelow Disk.filesBelow
  rw [List.filter_filterMap, List.map_filterMap]
  refine List.filterMap_congr fun e _ => ?_
  obtain ⟨place, entry⟩ := e
  by_cases hfound : (loc.isPrefixOf place && loc.length < place.length &&
      d.lists loc (place.drop loc.length)) = true
  · cases hcontent : entry.content? with
    | none => simp [fileBelow?, hcontent]
    | some content =>
      by_cases hselects : selects folder (place.drop loc.length) = true
      · simp [fileBelow?, hfound, hselects, hcontent]
      · simp [fileBelow?, hfound, hselects, hcontent]
  · simp [fileBelow?, hfound]

theorem fileBelow?_eq_none {place : Location} (d : Disk) (folder : String) (loc : Location)
    (h : ∀ above name, place = above ++ [name] → isSchemaFile name = false) (entry : Entry) :
    fileBelow? d folder loc (place, entry) = none := by
  by_cases hlength : loc.length < place.length
  · have hne : place ≠ [] := by
      rintro rfl
      simp at hlength
    have hlast : (place.drop loc.length).getLast? = some (place.getLast hne) := by
      rw [List.getLast?_drop, if_neg (by omega), List.getLast?_eq_some_getLast hne]
    have hplain := h _ _ (List.dropLast_append_getLast hne).symm
    simp [fileBelow?, selects, hlast, hplain]
  · simp [fileBelow?, hlength]

theorem fileBelow?_congr {d d' : Disk}
    (h : ∀ loc lock, d'.get? loc = some (.lockedFolder lock) ↔
      d.get? loc = some (.lockedFolder lock)) (folder : String) (loc : Location) :
    fileBelow? d' folder loc = fileBelow? d folder loc := by
  funext e
  simp only [fileBelow?, Disk.lists_congr h]

theorem filesBelow_grown {p : Path} {d d' : Disk} (h : Disk.Grown p d d') (folder : String)
    (loc : Location) : filesBelow d' folder loc = filesBelow d folder loc := by
  induction h with
  | same => rfl
  | @make made front place h hfront hloc hnew ih =>
    have hentries : Assoc.get? place made.entries = none := by
      have hne : place ≠ [] := Disk.ne_nil_of_get?_ne_folder (d := made) (by simp [hnew])
      simpa [Disk.get?, hne] using hnew
    have hlocked : ∀ other lock, (made.put place .folder).get? other = some (.lockedFolder lock) ↔
        made.get? other = some (.lockedFolder lock) := by
      intro other lock
      rw [Disk.get?_put_new hnew]
      by_cases hother : place = other
      · simp [← hother, hnew]
      · rw [if_neg hother]
    rw [← ih, filesBelow_eq_filterMap, filesBelow_eq_filterMap, fileBelow?_congr hlocked]
    exact Assoc.filterMap_put (by simp [fileBelow?, Entry.content?]) (by simp [hentries])

theorem filesBelow_put_file {d : Disk} {place : Location} (htakes : d.TakesFile place)
    (h : ∀ above name, place = above ++ [name] → isSchemaFile name = false) (bytes : List UInt8)
    (folder : String) (loc : Location) :
    filesBelow (d.put place (.file bytes)) folder loc = filesBelow d folder loc := by
  have hlocked : ∀ other lock,
      (d.put place (.file bytes)).get? other = some (.lockedFolder lock) ↔
        d.get? other = some (.lockedFolder lock) := by
    intro other lock
    rw [Disk.get?_put (Disk.ne_nil_of_get?_ne_folder htakes.get?_ne_folder)]
    by_cases hother : place = other
    · subst hother
      simp [htakes.get?_ne]
    · rw [if_neg hother]
  rw [filesBelow_eq_filterMap, filesBelow_eq_filterMap, fileBelow?_congr hlocked]
  exact Assoc.filterMap_put (fileBelow?_eq_none d folder loc h _)
    fun entry _ => fileBelow?_eq_none d folder loc h entry

/-- A schema that was found is found again with the same files. -/
theorem files_written {before after : Disk} {p : Path} {loc : Location} {bytes : List UInt8}
    (h : before.Written after p loc bytes)
    (hbelow : ∀ folder place, filesBelow after folder place = filesBelow before folder place)
    {path : String} (hapart : before.locateText path ≠ .ok loc) {found : List File}
    (hfound : files before path = .ok found) : files after path = .ok found := by
  cases hlocate : before.locateText path with
  | error cause => simp [files, hlocate] at hfound
  | ok place =>
    have hne : place ≠ loc := by
      rintro rfl
      exact hapart hlocate
    have hafter := h.locateText hlocate
    rw [← hfound]
    unfold files
    simp only [hlocate, hafter]
    cases hentry : before.found? place with
    | none => simp [files, hlocate, hentry] at hfound
    | some entry =>
      obtain ⟨hget, hlink⟩ := Disk.found?_eq_some.mp hentry
      simp only [Disk.found?_eq_some.mpr ⟨h.get?_of_some hne hget, hlink⟩, hbelow]

end Schema

theorem Path.parent_child (p : Path) (name : String) : (p.child name).parent = p := by
  simp [parent, child]

namespace Generator

/-- The templates are built in, or in a folder that is there and that a file at `loc` would not be
in. -/
def TemplatesApart (g : Generator) (disk : Disk) (loc : Location) : Prop :=
  g.settings.templateDir = none ∨
    ∃ dir folder entry, g.settings.templateDir = some dir ∧
      disk.locate (Path.ofText dir) = .ok folder ∧ disk.get? folder = some entry ∧
      entry.isFolder = true ∧ ∀ name, loc ≠ folder ++ [name]

theorem TemplatesApart.load_eq {g : Generator} {before after : Disk} {p : Path} {loc : Location}
    {bytes : List UInt8} (h : g.TemplatesApart before loc)
    (hwritten : before.Written after p loc bytes) :
    TemplateSet.load after g.settings.templateDir =
      TemplateSet.load before g.settings.templateDir := by
  rcases h with hnone | ⟨dir, folder, entry, hdir, hlocate, hentry, hfolder, hapart⟩
  · rw [hnone]
    rfl
  · rw [hdir]
    exact TemplateSet.load_written hwritten hlocate hentry hfolder hapart

theorem target_written {before after : Disk} {output : String} {path : Path} {loc : Location}
    {bytes : List UInt8} (h : before.Written after path loc bytes)
    (hparent : after.isFolder path.parent = true) (htarget : target before output = .ok path) :
    target after output = .ok path := by
  obtain ⟨isFolder, -, hpath⟩ := bind_eq_ok.mp htarget
  have hpath : (if isFolder || endsInSlash output then (Path.ofText output).child defaultFilename
      else Path.ofText output) = path := Except.ok.inj hpath
  by_cases hinside : (isFolder || endsInSlash output) = true
  · -- The path given stands for the folder, which is there by now.
    rw [if_pos hinside] at hpath
    rw [← hpath, Path.parent_child] at hparent
    obtain ⟨place, entry, hplace, -⟩ := Disk.isFolder_iff.mp hparent
    simp [target, Disk.checkFolder_of_locate hplace, hparent, hpath]
  · rw [if_neg hinside] at hpath
    simp only [Bool.or_eq_true, not_or, Bool.not_eq_true] at hinside
    have hfile : after.isFolder path = false := by
      simp [Disk.isFolder, h.denoted, Disk.entryAt, Disk.found?, h.content, Entry.isFolder]
    simp [target, hpath, Disk.checkFolder_of_locate h.denoted, hfile, hinside.2]

theorem generate_of_save {g : Generator} {disk disk' : Disk} {schema output content : String}
    {path : Path} (h : (g.compose disk schema output).result = .ok (path, content))
    (hsave : disk.save path (Text.Utf8.encode content) = (disk', .ok ())) :
    g.generate disk schema output = (disk', do
      let written ← g.compose disk schema output
      Traced.note .info .generator ("Wrote " ++ path.text)
      return written) := by
  unfold generate
  simp only [h, hsave]

/-- Generating again with the same arguments gives the same answer and leaves the disk as it is, if
the file that was written is not the schema, has no schema file's name and is not in the folder of
templates. -/
theorem generate_generate {g : Generator} {disk : Disk} {schema output content : String}
    {path : Path} {loc : Location}
    (hok : (g.generate disk schema output).2.result = .ok (path, content))
    (hloc : (g.generate disk schema output).1.locate path = .ok loc)
    (hschema : disk.locateText schema ≠ .ok loc)
    (hname : ∀ above name, loc = above ++ [name] → Schema.isSchemaFile name = false)
    (htemplates : g.TemplatesApart disk loc) :
    g.generate (g.generate disk schema output).1 schema output = g.generate disk schema output := by
  obtain ⟨hcomposed, hsave⟩ := generate_eq_ok hok
  obtain ⟨document, hload, found, htarget, text, hrender, hpair⟩ := compose_eq_ok.mp hcomposed
  obtain ⟨made, place, hgrown, hmade, hplace, htakes, hdisk⟩ := Disk.save_grown hsave
  generalize (g.generate disk schema output).1 = after at hloc hsave hdisk ⊢
  have hwritten := hgrown.written hplace htakes (Text.Utf8.encode content)
  have hparent := Disk.isFolder_put htakes (Text.Utf8.encode content) hmade
  rw [← hdisk] at hwritten hparent
  have hsame : place = loc := Except.ok.inj (hwritten.denoted.symm.trans hloc)
  subst hsame
  have hbelow : ∀ folder loc,
      Schema.filesBelow after folder loc = Schema.filesBelow disk folder loc := by
    intro folder loc
    rw [hdisk, Schema.filesBelow_put_file htakes hname, Schema.filesBelow_grown hgrown]
  have hloaded : Schema.load after schema = Schema.load disk schema := by
    unfold Schema.load at hload ⊢
    cases hfiles : Schema.files disk schema with
    | error e => simp [hfiles] at hload
    | ok files => rw [Schema.files_written hwritten hbelow hschema hfiles]
  have hrendered := render_congr (htemplates.load_eq hwritten)
  have htarget' : target after output = target disk output := by
    cases hpair
    rw [target_written hwritten hparent htarget, htarget]
  have hagain : g.compose after schema output = g.compose disk schema output := by
    simp only [compose, hloaded, htarget', hrendered]
  rw [generate_of_save hcomposed hsave,
    generate_of_save (hagain ▸ hcomposed) (hwritten.save_again hparent), hagain]

theorem locate_saved_moneyDisk {bytes : List UInt8} {saved : Disk}
    (h : moneyDisk.save ⟨false, ["schema", "gen", "..", "out", "schema.d.ts"]⟩ bytes =
      (saved, .ok ())) :
    saved.locate ⟨false, ["schema", "gen", "..", "out", "schema.d.ts"]⟩ =
      .ok ["schema", "out", "schema.d.ts"] := by
  have hsaved : saved = (moneyDisk.save _ bytes).1 := (congrArg Prod.fst h).symm
  rw [hsaved]
  rfl

theorem generate_generate_moneyDisk :
    let first := moneyGenerator.generate moneyDisk "schema" "schema/gen/../out/"
    first.2.result = .ok (⟨false, ["schema", "gen", "..", "out", "schema.d.ts"]⟩,
        "// Money\n\nexport type Money = any") ∧
      first.1.locate ⟨false, ["schema", "gen", "..", "out", "schema.d.ts"]⟩ =
        .ok ["schema", "out", "schema.d.ts"] ∧
      moneyGenerator.TemplatesApart moneyDisk ["schema", "out", "schema.d.ts"] ∧
      moneyGenerator.generate first.1 "schema" "schema/gen/../out/" = first := by
  have hloc := locate_saved_moneyDisk (generate_eq_ok generate_moneyDisk).2
  have htemplates : moneyGenerator.TemplatesApart moneyDisk ["schema", "out", "schema.d.ts"] :=
    .inr ⟨"schema", ["schema"], .folder, rfl, rfl, rfl, rfl, by simp⟩
  have hname : ∀ above name, ["schema", "out", "schema.d.ts"] = above ++ [name] →
      Schema.isSchemaFile name = false := by
    intro above name h
    have hlast := congrArg List.getLast? h
    simp only [List.getLast?_append, List.getLast?_singleton] at hlast
    cases hlast
    decide
  exact ⟨generate_moneyDisk, hloc, htemplates,
    generate_generate generate_moneyDisk hloc (by decide) hname htemplates⟩

end Generator
end SchemaFold
