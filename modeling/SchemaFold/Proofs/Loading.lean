import SchemaFold.Proofs.SchemaFiles

/-! Loading a schema: the definitions of its files in order, or the first fault found in them. -/

namespace SchemaFold.Schema

theorem selection_spelled {d : Disk} (hd : d.Proper) {path : String} :
    ∀ file ∈ selection d path, Spelled file :=
  fun _ hfile => ((mem_selection hd).mp hfile).spelled hd

theorem load_eq_ok_iff {d : Disk} (hd : d.Proper) {path : String} {document : Document} :
    (load d path).result = .ok document ↔
      selection d path ≠ [] ∧ Reads (selection d path) document := by
  rcases files_cases d path with ⟨-, hempty, hfiles⟩ | ⟨-, hempty, hfiles⟩ | ⟨-, hne, hfiles⟩
  · simp [load, hfiles, hempty]
  · simp [load, hfiles, hempty]
  · simp [load, hfiles, hne, readFiles_eq_ok (selection_spelled hd)]

theorem load_eq_error_iff {d : Disk} (hd : d.Proper) {path : String} {failure : Failure} :
    (load d path).result = .error failure ↔
      (d.entryAt (d.locateText path) = none ∧ failure = .load ⟨path, .missing⟩) ∨
        ((∃ entry, d.entryAt (d.locateText path) = some entry ∧ entry.content? = none) ∧
          selection d path = [] ∧ failure = .load ⟨path, .noFiles⟩) ∨
        ∃ e, FirstFault (selection d path) e ∧ failure = .load e := by
  have hnone : ∀ e, ¬FirstFault [] e := by simp [FirstFault]
  rcases files_cases d path with
    ⟨hentry, hempty, hfiles⟩ | ⟨⟨entry, hentry, hcontent⟩, hempty, hfiles⟩ | ⟨hentry, hne, hfiles⟩
  · simp [load, hfiles, hempty, hentry, hnone, eq_comm]
  · simp [load, hfiles, hempty, hentry, hcontent, hnone, eq_comm]
  · simp [load, hfiles, hentry, hne, readFiles_eq_error (selection_spelled hd)]

/-- Every schema file that a path stands for, in whatever folder it is. -/
def Belongs (d : Disk) (path : String) : File → Prop :=
  FileOf (fun _ _ => True) d path

/-- All folders at and below what a path denotes can be listed: none of them is locked, and those
that hold anything do not have a path too long to be asked for. -/
structure Listable (d : Disk) (path : String) : Prop where
  unlocked : ∀ {loc : Location} {inner : List String} {lock : Lock},
    d.locateText path = .ok loc → d.get? (loc ++ inner) ≠ some (.lockedFolder lock)
  short : ∀ {loc : Location} {inner : List String} {name : String} {entry : Entry},
    d.locateText path = .ok loc → d.get? (loc ++ (inner ++ [name])) = some entry →
      (pathBelow path inner).utf8ByteSize < Disk.pathBound

theorem Listable.belongs_iff {d : Disk} {path : String} (h : Listable d path) {file : File} :
    Belongs d path file ↔ Selected d path file := by
  constructor
  · rintro (⟨hentry, hcontent⟩ | ⟨hloc, hfolder, hget, hcontent, hextension, hname, -⟩)
    · exact .file hentry hcontent
    · exact .below hloc hfolder hget hcontent hextension hname
        ⟨fun _ _ _ => h.unlocked hloc, h.short hloc hget⟩
  · rintro (⟨hentry, hcontent⟩ | ⟨hloc, hfolder, hget, hcontent, hextension, hname, -⟩)
    · exact .file hentry hcontent
    · exact .below hloc hfolder hget hcontent hextension hname trivial

theorem Listable.eq_folder {d : Disk} {path : String} (h : Listable d path) {entry : Entry}
    (hentry : d.entryAt (d.locateText path) = some entry) (hcontent : entry.content? = none) :
    entry = .folder := by
  cases entry with
  | folder => rfl
  | lockedFolder lock =>
    obtain ⟨loc, hloc, hget, -⟩ := Disk.entryAt_eq_some.mp hentry
    have hopen : d.get? (loc ++ []) ≠ some (.lockedFolder lock) := h.unlocked hloc
    rw [List.append_nil] at hopen
    exact absurd hget hopen
  | _ => contradiction

/-- Loading ends with a document or a load error, in whatever order the disk lists its entries.
Where all folders can be listed, what is loaded is what the files that belong to the path hold, in
the order of their paths. It fails only where nothing is found or a file cannot be opened or read,
and the first such file is the one reported. -/
theorem load_reads_selected {d : Disk} (hd : d.Proper) (path : String) :
    (∀ failure, (load d path).result = .error failure → ∃ e, failure = .load e) ∧
      (∀ entries, entries.Perm d.entries → load { d with entries } path = load d path) ∧
      (Listable d path → ∃ files : List File,
        (files.Pairwise fun a b => a.1 < b.1) ∧
        (∀ file, file ∈ files ↔ Belongs d path file) ∧
        (∀ document, (load d path).result = .ok document ↔ files ≠ [] ∧ Reads files document) ∧
        (∀ failure, (load d path).result = .error failure ↔
          (d.entryAt (d.locateText path) = none ∧ failure = .load ⟨path, .missing⟩) ∨
            (d.entryAt (d.locateText path) = some .folder ∧ files = [] ∧
              failure = .load ⟨path, .noFiles⟩) ∨
            ∃ e, FirstFault files e ∧ failure = .load e) ∧
        ∀ e, FirstFault files e → e.message = e.source ++ ": " ++ e.cause.message) := by
  refine ⟨?_, ?_, fun hlist => ⟨selection d path, selection_ascending hd path, ?_,
    fun document => load_eq_ok_iff hd, ?_, ?_⟩⟩
  · intro failure hfailure
    rcases (load_eq_error_iff hd).mp hfailure with ⟨-, rfl⟩ | ⟨-, -, rfl⟩ | ⟨e, -, rfl⟩
    · exact ⟨_, rfl⟩
    · exact ⟨_, rfl⟩
    · exact ⟨e, rfl⟩
  · intro entries hperm
    unfold load
    rw [files_of_perm hd hperm]
  · intro file
    rw [mem_selection hd, hlist.belongs_iff]
  · intro failure
    have hfolder : (∃ entry, d.entryAt (d.locateText path) = some entry ∧ entry.content? = none) ↔
        d.entryAt (d.locateText path) = some .folder := by
      constructor
      · rintro ⟨entry, hentry, hcontent⟩
        rw [hentry, hlist.eq_folder hentry hcontent]
      · exact fun hentry => ⟨.folder, hentry, rfl⟩
    rw [load_eq_error_iff hd, hfolder]
  · intro e he
    exact he.message_eq fun file hfile => ((mem_selection hd).mp hfile).baseName_ne_empty hd

/-- The entries of a disk show whether the folders at and below a place can be listed. -/
theorem listable_of_entries {d : Disk} {path : String} {loc : Location}
    (hloc : d.locateText path = .ok loc)
    (h : ∀ e ∈ d.entries, (e.2.isFolder = true → e.2 = .folder) ∧
      (pathBelow path (e.1.drop loc.length).dropLast).utf8ByteSize < Disk.pathBound) :
    Listable d path := by
  have hmem : ∀ {place : Location} {entry : Entry}, place ≠ [] → d.get? place = some entry →
      (place, entry) ∈ d.entries := by
    intro place entry hne hget
    exact Assoc.mem_of_get? (by simpa [Disk.get?, hne] using hget)
  constructor
  · intro place inner lock hplace hget
    have hne : place ++ inner ≠ [] := by
      intro hempty
      rw [hempty] at hget
      cases hget
    have hplain := (h _ (hmem hne hget)).1 rfl
    contradiction
  · intro place inner name entry hplace hget
    cases hloc.symm.trans hplace
    have hshort := (h _ (hmem (by simp) hget)).2
    rwa [List.drop_left, List.dropLast_concat] at hshort

theorem eq_of_ascending {files others : List File} (h : files.Pairwise fun a b => a.1 < b.1)
    (h' : others.Pairwise fun a b => a.1 < b.1) (hmem : ∀ file, file ∈ files ↔ file ∈ others) :
    files = others := by
  have hnodup : ∀ {l : List File}, (l.Pairwise fun a b => a.1 < b.1) → l.Nodup := by
    intro l hl
    refine List.Pairwise.imp ?_ hl
    rintro a b hlt rfl
    exact String.lt_irrefl a.1 hlt
  refine ((List.perm_ext_iff_of_nodup (hnodup h) (hnodup h')).mpr hmem).eq_of_pairwise ?_ h h'
  intro a b _ _ hab hba
  exact absurd hba (String.lt_asymm hab)

/-- A folder with a schema file's name, files of which one is no text and one no document, a file
that is no schema file, a dead link, and a file that may not be opened. -/
def splitDisk : Disk where
  entries := [
    (["schema"], .folder),
    (["schema", "d.gql"], .file (Text.Utf8.encode "type")),
    (["schema", "b.graphql"], .file [0xFF]),
    (["schema", "a.gql"], .folder),
    (["schema", "a.gql", "c"], .folder),
    (["schema", "a.gql", "c", ".gql"], .file (Text.Utf8.encode "scalar Money")),
    (["schema", "a.gql", "c.graphqls"], .file (Text.Utf8.encode "scalar Date")),
    (["schema", "notes.txt"], .file (Text.Utf8.encode "to do")),
    (["kept"], .folder),
    (["kept", "b.gql"], .lockedFile ⟨13, "Permission denied"⟩),
    (["kept", "a.gql"], .deadLink)]

theorem splitDisk_proper : splitDisk.Proper where
  distinct := by decide
  named := by decide
  here := by decide

theorem listable_splitDisk :
    Listable splitDisk "schema" ∧ Listable splitDisk "schema/a.gql/" ∧
      Listable splitDisk "kept" ∧ Listable splitDisk "kept/a.gql" ∧
      Listable splitDisk "kept/b.gql" := by
  have hschema : splitDisk.locateText "schema" = .ok ["schema"] := rfl
  have hinner : splitDisk.locateText "schema/a.gql/" = .ok ["schema", "a.gql"] := rfl
  have hkept : splitDisk.locateText "kept" = .ok ["kept"] := rfl
  have hlink : splitDisk.locateText "kept/a.gql" = .ok ["kept", "a.gql"] := rfl
  have hlocked : splitDisk.locateText "kept/b.gql" = .ok ["kept", "b.gql"] := rfl
  exact ⟨listable_of_entries hschema (by decide +kernel),
    listable_of_entries hinner (by decide +kernel), listable_of_entries hkept (by decide +kernel),
    listable_of_entries hlink (by decide +kernel), listable_of_entries hlocked (by decide +kernel)⟩

theorem selection_splitDisk :
    selection splitDisk "schema" =
        [("schema/a.gql/c.graphqls", .ok (Text.Utf8.encode "scalar Date")),
          ("schema/a.gql/c/.gql", .ok (Text.Utf8.encode "scalar Money")),
          ("schema/b.graphql", .ok [0xFF]), ("schema/d.gql", .ok (Text.Utf8.encode "type"))] ∧
      selection splitDisk "schema/a.gql/" =
        [("schema/a.gql/c.graphqls", .ok (Text.Utf8.encode "scalar Date")),
          ("schema/a.gql/c/.gql", .ok (Text.Utf8.encode "scalar Money"))] ∧
      selection splitDisk "kept" =
        [("kept/a.gql", .error ⟨2, "No such file or directory"⟩),
          ("kept/b.gql", .error ⟨13, "Permission denied"⟩)] := by
  have hschema : splitDisk.locateText "schema" = .ok ["schema"] := rfl
  have hinner : splitDisk.locateText "schema/a.gql/" = .ok ["schema", "a.gql"] := rfl
  have hkept : splitDisk.locateText "kept" = .ok ["kept"] := rfl
  refine ⟨?_, ?_, ?_⟩
  · exact selection_eq_of_perm splitDisk_proper hschema rfl (by decide +kernel) (by decide +kernel)
  · exact selection_eq_of_perm splitDisk_proper hinner rfl (by decide +kernel) (by decide +kernel)
  · exact selection_eq_of_perm splitDisk_proper hkept rfl (by decide +kernel) (by decide +kernel)

theorem load_reads_selected_splitDisk :
    splitDisk.Proper ∧ Listable splitDisk "schema" ∧ Listable splitDisk "schema/a.gql/" ∧
      Listable splitDisk "kept" ∧ Listable splitDisk "kept/a.gql" ∧
      Listable splitDisk "kept/b.gql" ∧
      (∃ document, (load splitDisk "schema/a.gql/").result = .ok document ∧
        document.outline =
          [(.scalarTypeDefinition, some "Date"), (.scalarTypeDefinition, some "Money")]) ∧
      (load splitDisk "schema").result =
        .error (.load ⟨"b.graphql", .unreadable ⟨.utf8, 0xFF, 0, 0, .startByte⟩⟩) ∧
      (load splitDisk "kept").result =
        .error (.load ⟨"a.gql",
          .unopened ⟨.locked ⟨2, "No such file or directory"⟩, "kept/a.gql"⟩⟩) ∧
      (load splitDisk "kept/a.gql").result = .error (.load ⟨"kept/a.gql", .missing⟩) ∧
      (load splitDisk "kept/b.gql").result =
        .error (.load ⟨"b.gql",
          .unopened ⟨.locked ⟨13, "Permission denied"⟩, "kept/b.gql"⟩⟩) := by
  obtain ⟨hschema, hinner, hkept, hlink, hlocked⟩ := listable_splitDisk
  obtain ⟨hselected, hselectedInner, hselectedKept⟩ := selection_splitDisk
  obtain ⟨date, hdate, hdateOutline⟩ : ∃ document, definitions "scalar Date" = .ok document ∧
      document.outline = [(.scalarTypeDefinition, some "Date")] :=
    exists_of_toOption_map (by decide +kernel)
  obtain ⟨money, hmoney, hmoneyOutline⟩ : ∃ document, definitions "scalar Money" = .ok document ∧
      document.outline = [(.scalarTypeDefinition, some "Money")] :=
    exists_of_toOption_map (by decide +kernel)
  have hfirst : contents ("schema/a.gql/c.graphqls", .ok (Text.Utf8.encode "scalar Date")) =
      .ok date := contents_eq_ok hdate rfl (by decide)
  have hsecond : contents ("schema/a.gql/c/.gql", .ok (Text.Utf8.encode "scalar Money")) =
      .ok money := contents_eq_ok hmoney rfl (by decide)
  have hfiles : ∀ {path : String} {files : List File}, Listable splitDisk path →
      (files.Pairwise fun a b => a.1 < b.1) →
      (∀ file, file ∈ files ↔ Belongs splitDisk path file) → files = selection splitDisk path := by
    intro path files hlist hsorted hmem
    refine eq_of_ascending hsorted (selection_ascending splitDisk_proper path) fun file => ?_
    rw [hmem, hlist.belongs_iff, mem_selection splitDisk_proper]
  refine ⟨splitDisk_proper, hschema, hinner, hkept, hlink, hlocked, ⟨date ++ money, ?_, ?_⟩, ?_, ?_,
    ?_, ?_⟩
  · obtain ⟨files, hsorted, hmem, hok, -, -⟩ :=
      (load_reads_selected splitDisk_proper "schema/a.gql/").2.2 hinner
    rw [hok, hfiles hinner hsorted hmem, hselectedInner]
    exact ⟨by simp, _, .cons hfirst (.cons hsecond .nil), by simp⟩
  · rw [Document.outline, List.map_append]
    exact congrArg₂ (· ++ ·) hdateOutline hmoneyOutline
  · obtain ⟨files, hsorted, hmem, -, herror, -⟩ :=
      (load_reads_selected splitDisk_proper "schema").2.2 hschema
    refine (herror _).mpr (.inr (.inr ⟨_, ?_, rfl⟩))
    rw [hfiles hschema hsorted hmem, hselected]
    refine ⟨[_, _], ("schema/b.graphql", .ok [0xFF]), [_], rfl, ?_, rfl, rfl⟩
    simp [hfirst, hsecond]
  · obtain ⟨files, hsorted, hmem, -, herror, -⟩ :=
      (load_reads_selected splitDisk_proper "kept").2.2 hkept
    refine (herror _).mpr (.inr (.inr ⟨_, ?_, rfl⟩))
    rw [hfiles hkept hsorted hmem, hselectedKept]
    exact ⟨[], _, [_], rfl, by simp, rfl, rfl⟩
  · obtain ⟨files, -, -, -, herror, -⟩ :=
      (load_reads_selected splitDisk_proper "kept/a.gql").2.2 hlink
    exact (herror _).mpr (.inl ⟨rfl, rfl⟩)
  · obtain ⟨files, hsorted, hmem, -, herror, -⟩ :=
      (load_reads_selected splitDisk_proper "kept/b.gql").2.2 hlocked
    have hselectedLocked : selection splitDisk "kept/b.gql" =
        [("kept/b.gql", .error ⟨13, "Permission denied"⟩)] := rfl
    refine (herror _).mpr (.inr (.inr ⟨_, ?_, rfl⟩))
    rw [hfiles hlocked hsorted hmem, hselectedLocked]
    exact ⟨[], _, [], rfl, by simp, rfl, rfl⟩

/-- A path that stays where it starts, of two characters for each round and a last one. -/
def dottedPath : Nat → String
  | 0 => "."
  | n + 1 => "./" ++ dottedPath n

theorem size_dottedPath (n : Nat) : (dottedPath n).utf8ByteSize = 2 * n + 1 := by
  induction n with
  | zero => rfl
  | succ n ih =>
    have hstep : "./".utf8ByteSize = 2 := rfl
    rw [dottedPath, String.utf8ByteSize_append, ih, hstep]
    omega

theorem dottedPath_ne_empty (n : Nat) : dottedPath n ≠ "" := by
  intro hempty
  have hsize := size_dottedPath n
  rw [hempty] at hsize
  simp at hsize

theorem not_mem_dottedPath (n : Nat) : '\x00' ∉ (dottedPath n).toList := by
  induction n with
  | zero => decide
  | succ n ih => simp [dottedPath, ih]

theorem getLast?_dottedPath (n : Nat) : (dottedPath n).toList.getLast? = some '.' := by
  induction n with
  | zero => rfl
  | succ n ih =>
    rw [dottedPath, String.toList_append, List.getLast?_append, ih]
    rfl

theorem pathSteps_dottedPath (n : Nat) :
    pathSteps (dottedPath n) = List.replicate (n + 1) "." := by
  induction n with
  | zero => rfl
  | succ n ih =>
    rw [List.replicate_succ, ← ih]
    simp [pathSteps, dottedPath, splitAtChar]

theorem follow_dots {d : Disk} {loc : Location} (h : d.get? loc = some .folder) (n : Nat) :
    d.follow loc (List.replicate n ".") = .ok loc := by
  induction n with
  | zero => rfl
  | succ n ih => exact Disk.follow_cons_eq_ok.mpr ⟨h, by decide, ih⟩

theorem locateText_dottedPath {d : Disk} (h : d.get? d.here = some .folder) {n : Nat}
    (hn : 2 * n + 1 < Disk.pathBound) : d.locateText (dottedPath n) = .ok d.here := by
  have hcheck : Disk.checkPath (dottedPath n) = .ok () :=
    Disk.checkPath_eq_ok.mpr ⟨not_mem_dottedPath n, dottedPath_ne_empty n, by rwa [size_dottedPath]⟩
  have horigin : d.origin (isAbsolutePath (dottedPath n)) = d.here := by
    cases n <;> simp [dottedPath, isAbsolutePath, Disk.origin]
  refine bind_eq_ok.mpr ⟨(), hcheck, ?_⟩
  rw [horigin, pathSteps_dottedPath]
  exact follow_dots h (n + 1)

theorem joinPathText_dottedPath (n : Nat) (name : String) :
    joinPathText (dottedPath n) name = dottedPath n ++ "/" ++ name := by
  simp [joinPathText, endsInSlash, getLast?_dottedPath, dottedPath_ne_empty]

theorem baseName_below_dottedPath (n : Nat) {name : String} (h : IsEntryName name) :
    baseName (dottedPath n ++ "/" ++ name) = name := by
  have hnames : ∀ part ∈ [] ++ [name], IsEntryName part := by simpa using h
  have hbase := baseName_pathBelow (dottedPath n) hnames
  rwa [List.nil_append, pathBelow, List.foldl_cons, List.foldl_nil, joinPathText_dottedPath]
    at hbase

def scalarDisk : Disk where
  entries := [(["a.graphql"], .file (Text.Utf8.encode "scalar A"))]

theorem scalarDisk_proper : scalarDisk.Proper where
  distinct := by decide
  named := by decide
  here := by decide

theorem selection_scalarDisk {n : Nat} (hn : 2 * n + 1 < Disk.pathBound) :
    selection scalarDisk (dottedPath n) =
      [(dottedPath n ++ "/" ++ "a.graphql", .ok (Text.Utf8.encode "scalar A"))] := by
  have hfiles : filesBelow scalarDisk (dottedPath n) [] =
      [(dottedPath n ++ "/" ++ "a.graphql", .ok (Text.Utf8.encode "scalar A"))] := by
    have hbelow : scalarDisk.filesBelow [] =
        [(["a.graphql"], .ok (Text.Utf8.encode "scalar A"))] := rfl
    have hname : isSchemaFile "a.graphql" = true := by decide
    simp [filesBelow, hbelow, selects, hname, pathBelow, size_dottedPath, hn,
      joinPathText_dottedPath]
  refine selection_eq_of_perm scalarDisk_proper (locateText_dottedPath rfl hn) rfl ?_
    (List.pairwise_singleton _ _)
  exact .of_eq hfiles.symm

theorem listable_scalarDisk {n : Nat} (hn : 2 * n + 1 < Disk.pathBound) :
    Listable scalarDisk (dottedPath n) := by
  refine listable_of_entries (locateText_dottedPath rfl hn) ?_
  intro e he
  rw [List.mem_singleton.mp he]
  refine ⟨by decide, ?_⟩
  exact size_dottedPath n ▸ hn

/-- A file that could be read is not, once the path that is written for it is too long. -/
theorem load_fails_on_long_path :
    let path := dottedPath 2043
    let file : File := (path ++ "/" ++ "a.graphql", .ok (Text.Utf8.encode "scalar A"))
    scalarDisk.Proper ∧ Listable scalarDisk path ∧
      scalarDisk.entryAt (scalarDisk.locateText path) = some .folder ∧
      (∀ belonging, Belongs scalarDisk path belonging ↔ belonging = file) ∧
      Text.Encoding.utf8.read (Text.Utf8.encode "scalar A") = .ok "scalar A" ∧
      (∃ document, definitions "scalar A" = .ok document ∧
        document.outline = [(.scalarTypeDefinition, some "A")]) ∧
      (load scalarDisk path).result =
        .error (.load ⟨"a.graphql", .unopened ⟨.nameTooLong, file.1⟩⟩) := by
  intro path file
  have hn : 2 * 2043 + 1 < Disk.pathBound := by decide
  have hselection : selection scalarDisk path = [file] := selection_scalarDisk hn
  have hlong : Disk.pathBound ≤ file.1.utf8ByteSize := by
    have hname : "a.graphql".utf8ByteSize = 9 := rfl
    have hslash : "/".utf8ByteSize = 1 := rfl
    have hbound : Disk.pathBound = 4096 := rfl
    simp only [file, path, String.utf8ByteSize_append, size_dottedPath, hname, hslash, hbound]
    omega
  have hbase : baseName file.1 = "a.graphql" := baseName_below_dottedPath 2043 (by decide)
  have hlist : Listable scalarDisk path := listable_scalarDisk hn
  refine ⟨scalarDisk_proper, hlist, ?_, ?_, rfl, exists_of_toOption_map (by decide +kernel), ?_⟩
  · rw [locateText_dottedPath rfl hn]
    rfl
  · intro belonging
    rw [hlist.belongs_iff, ← mem_selection scalarDisk_proper, hselection, List.mem_singleton]
  · refine (load_eq_error_iff scalarDisk_proper).mpr (.inr (.inr ⟨_, ?_, rfl⟩))
    rw [hselection]
    refine ⟨[], file, [], rfl, by simp, ?_, hbase.symm⟩
    rw [contents, if_pos hlong]

end SchemaFold.Schema
