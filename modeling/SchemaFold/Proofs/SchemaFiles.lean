import SchemaFold.Proofs.ProperDisk
import SchemaFold.Proofs.SchemaReading

/-! The files that a schema is loaded from, and their order. They are told by what the disk holds,
not by how it lists its entries. -/

namespace SchemaFold

namespace Disk

/-- The folder at a location can be listed, and so can the folders that these names lead through
from there on. -/
def Listed (d : Disk) (loc : Location) (inner : List String) : Prop :=
  ∀ front, front <+: inner → ∀ lock, d.get? (loc ++ front) ≠ some (.lockedFolder lock)

theorem listed_cons {d : Disk} {loc : Location} {name : String} {inner : List String} :
    d.Listed loc (name :: inner) ↔
      (∀ lock, d.get? loc ≠ some (.lockedFolder lock)) ∧ d.Listed (loc ++ [name]) inner := by
  constructor
  · intro h
    refine ⟨by simpa using h [] (List.nil_prefix), fun front hfront lock => ?_⟩
    simpa using h (name :: front) (List.cons_prefix_cons.mpr ⟨rfl, hfront⟩) lock
  · rintro ⟨hloc, hrest⟩ front hfront lock
    cases front with
    | nil => simpa using hloc lock
    | cons first front =>
      obtain ⟨rfl, hinner⟩ := List.cons_prefix_cons.mp hfront
      simpa using hrest front hinner lock

theorem lists_cons {d : Disk} {loc : Location} {name : String} {names : List String} :
    d.lists loc (name :: names) = true ↔
      (∀ lock, d.get? loc ≠ some (.lockedFolder lock)) ∧ d.lists (loc ++ [name]) names = true := by
  rw [lists]
  cases d.get? loc with
  | none => simp
  | some entry => cases entry <;> simp

theorem lists_iff {d : Disk} {loc : Location} {inner : List String} {name : String} :
    d.lists loc (inner ++ [name]) = true ↔ d.Listed loc inner := by
  induction inner generalizing loc with
  | nil =>
    rw [List.nil_append, lists_cons]
    simp [lists, Listed]
  | cons first inner ih => rw [List.cons_append, lists_cons, ih, listed_cons]

theorem Proper.mem_filesBelow {d : Disk} (h : d.Proper) {loc : Location} {names : List String}
    {content : Except Lock (List UInt8)} :
    (names, content) ∈ d.filesBelow loc ↔ names ≠ [] ∧ d.lists loc names = true ∧
      ∃ entry, d.get? (loc ++ names) = some entry ∧ entry.content? = some content := by
  simp only [filesBelow, List.mem_filterMap]
  constructor
  · rintro ⟨⟨place, entry⟩, hmem, hfile⟩
    simp only [Option.ite_none_right_eq_some, Bool.and_eq_true, List.isPrefixOf_iff_prefix,
      decide_eq_true_eq, Option.map_eq_some_iff, Prod.mk.injEq] at hfile
    obtain ⟨⟨⟨⟨rest, rfl⟩, hlength⟩, hlists⟩, _, hcontent, hnames, rfl⟩ := hfile
    rw [List.drop_left] at hnames hlists
    subst hnames
    have hne : rest ≠ [] := by
      rintro rfl
      simp at hlength
    exact ⟨hne, hlists, entry, (h.get?_eq_some (by simp [hne])).mpr hmem, hcontent⟩
  · rintro ⟨hne, hlists, entry, hget, hcontent⟩
    refine ⟨(loc ++ names, entry), (h.get?_eq_some (by simp [hne])).mp hget, ?_⟩
    have hlength := List.length_pos_iff.mpr hne
    simp [hlength, hlists, hcontent]

theorem Proper.names_of_get? {d : Disk} (h : d.Proper) {loc : Location} {names : List String}
    {entry : Entry} (hne : names ≠ []) (hget : d.get? (loc ++ names) = some entry) :
    ∀ name ∈ names, IsEntryName name := by
  have hmem := (h.get?_eq_some (by simp [hne])).mp hget
  exact fun name hname => h.named _ hmem name (List.mem_append_right loc hname)

theorem Proper.nodup_filesBelow {d : Disk} (h : d.Proper) (loc : Location) :
    ((d.filesBelow loc).map Prod.fst).Nodup := by
  have hpairs : d.entries.Pairwise fun e e' => e.1 ≠ e'.1 := List.pairwise_map.mp h.distinct
  rw [List.Nodup, List.pairwise_map, filesBelow, List.pairwise_filterMap]
  refine hpairs.imp ?_
  rintro ⟨place, entry⟩ ⟨place', entry'⟩ hplaces ⟨names, content⟩ hfile ⟨names', content'⟩ hfile'
    hnames
  simp only [Option.ite_none_right_eq_some, Bool.and_eq_true, List.isPrefixOf_iff_prefix,
    Option.map_eq_some_iff, Prod.mk.injEq] at hfile hfile'
  obtain ⟨⟨⟨⟨rest, rfl⟩, -⟩, -⟩, _, -, hrest, -⟩ := hfile
  obtain ⟨⟨⟨⟨rest', rfl⟩, -⟩, -⟩, _, -, hrest', -⟩ := hfile'
  rw [List.drop_left] at hrest hrest'
  subst hrest hrest'
  exact hplaces (congrArg (loc ++ ·) hnames)

theorem follow_append (d : Disk) (start : Location) (steps more : List String) :
    d.follow start (steps ++ more) =
      (d.follow start steps >>= fun middle => d.follow middle more) := by
  induction steps generalizing start with
  | nil => rfl
  | cons step steps ih =>
    rw [List.cons_append, follow, follow]
    cases d.get? start with
    | none => rfl
    | some entry =>
      cases entry with
      | folder => by_cases hlong : nameBound < step.utf8ByteSize <;> simp [hlong, ih]
      | _ => rfl

theorem follow_append_eq_ok {d : Disk} {start finish : Location} {steps more : List String} :
    d.follow start (steps ++ more) = .ok finish ↔
      ∃ middle, d.follow start steps = .ok middle ∧ d.follow middle more = .ok finish := by
  rw [follow_append, bind_eq_ok]

/-- A path that ends in an empty step leads to a folder, if anywhere. -/
theorem baseName_ne_empty_of_file {d : Disk} {path : String} {loc : Location}
    (hloc : d.locateText path = .ok loc) (hfile : d.get? loc ≠ some .folder) :
    baseName path ≠ "" := by
  intro hempty
  obtain ⟨⟨⟩, -, hfollow⟩ := bind_eq_ok.mp hloc
  have hne : pathSteps path ≠ [] := by simp [pathSteps, splitAtChar_ne_nil]
  have hlast : (pathSteps path).getLast hne = "" := by
    simpa [baseName, List.getLast?_eq_some_getLast hne] using hempty
  rw [← List.dropLast_append_getLast hne, hlast] at hfollow
  obtain ⟨folder, -, hstep⟩ := follow_append_eq_ok.mp hfollow
  obtain ⟨hfolder, -, hstay⟩ := follow_cons_eq_ok.mp hstep
  have hsame : folder = loc := Except.ok.inj hstay
  exact hfile (hsame ▸ hfolder)

theorem follow_congr {d d' : Disk} (h : ∀ loc, d'.get? loc = d.get? loc) (start : Location)
    (steps : List String) : d'.follow start steps = d.follow start steps := by
  induction steps generalizing start with
  | nil => rfl
  | cons step steps ih => simp only [follow, h, ih]

theorem lists_congr {d d' : Disk}
    (h : ∀ loc lock, d'.get? loc = some (.lockedFolder lock) ↔
      d.get? loc = some (.lockedFolder lock)) (loc : Location) (names : List String) :
    d'.lists loc names = d.lists loc names := by
  induction names generalizing loc with
  | nil => rfl
  | cons name names ih =>
    rw [Bool.eq_iff_iff, lists_cons, lists_cons, ih]
    simp only [ne_eq, h]

/-- What a disk holds does not depend on the order of its entries. -/
theorem Proper.get?_of_perm {d : Disk} (h : d.Proper) {entries : List (Location × Entry)}
    (hperm : entries.Perm d.entries) (loc : Location) :
    ({ d with entries } : Disk).get? loc = d.get? loc := by
  have h' : ({ d with entries } : Disk).Proper :=
    { distinct := (hperm.map Prod.fst).nodup_iff.mpr h.distinct
      named := fun e he => h.named e (hperm.mem_iff.mp he)
      here := h.here }
  by_cases hloc : loc = []
  · subst hloc
    rfl
  · apply Option.ext
    intro entry
    exact (h'.get?_eq_some hloc).trans (hperm.mem_iff.trans (h.get?_eq_some hloc).symm)

end Disk

namespace Schema

/-- The files that a path stands for: the file that it denotes, or every file with the name of a
schema file below the folder that it denotes. Which folders are looked into there is left open. -/
inductive FileOf (looksInto : Location → List String → Prop) (d : Disk) (path : String) :
    File → Prop
  | file {entry : Entry} {content : Except Lock (List UInt8)}
      (hentry : d.entryAt (d.locateText path) = some entry)
      (hcontent : entry.content? = some content) : FileOf looksInto d path (path, content)
  | below {loc : Location} {inner : List String} {name extension : String} {entry : Entry}
      {content : Except Lock (List UInt8)} (hloc : d.locateText path = .ok loc)
      (hfolder : d.get? loc = some .folder)
      (hentry : d.get? (loc ++ (inner ++ [name])) = some entry)
      (hcontent : entry.content? = some content)
      (hextension : extension ∈ [".graphql", ".graphqls", ".gql"])
      (hname : extension.toList <:+ name.toList) (hinner : looksInto loc inner) :
      FileOf looksInto d path (pathBelow path (inner ++ [name]), content)

/-- A folder is looked into if it can be listed, and its own path is not too long for that. -/
def LooksInto (d : Disk) (path : String) (loc : Location) (inner : List String) : Prop :=
  d.Listed loc inner ∧ (pathBelow path inner).utf8ByteSize < Disk.pathBound

abbrev Selected (d : Disk) (path : String) : File → Prop :=
  FileOf (LooksInto d path) d path

theorem isSchemaFile_iff (name : String) :
    isSchemaFile name = true ↔
      ∃ extension ∈ [".graphql", ".graphqls", ".gql"], extension.toList <:+ name.toList := by
  simp [isSchemaFile, extensions]

theorem mem_filesBelow {d : Disk} (hd : d.Proper) {path : String} {loc : Location} {file : File} :
    file ∈ filesBelow d path loc ↔
      ∃ inner name entry content, d.get? (loc ++ (inner ++ [name])) = some entry ∧
        entry.content? = some content ∧ isSchemaFile name = true ∧ LooksInto d path loc inner ∧
        (pathBelow path (inner ++ [name]), content) = file := by
  simp only [filesBelow, List.mem_map, List.mem_filter]
  constructor
  · rintro ⟨⟨names, content⟩, ⟨hmem, hselects⟩, rfl⟩
    obtain ⟨hne, hlists, entry, hget, hcontent⟩ := hd.mem_filesBelow.mp hmem
    have hnames : names.dropLast ++ [names.getLast hne] = names := List.dropLast_append_getLast hne
    simp only [selects, List.getLast?_eq_some_getLast hne, Option.getD_some, Bool.and_eq_true,
      decide_eq_true_eq] at hselects
    rw [← hnames, Disk.lists_iff] at hlists
    refine ⟨names.dropLast, names.getLast hne, entry, content, ?_, hcontent, hselects.1,
      ⟨hlists, hselects.2⟩, ?_⟩
    · rw [hnames, hget]
    · rw [hnames]
  · rintro ⟨inner, name, entry, content, hget, hcontent, hname, ⟨hlisted, hinner⟩, rfl⟩
    refine ⟨(inner ++ [name], content), ⟨hd.mem_filesBelow.mpr ⟨by simp,
      Disk.lists_iff.mpr hlisted, entry, hget, hcontent⟩, ?_⟩, rfl⟩
    simp [selects, hname, hinner]

/-- No two schema files below a folder have the same path. -/
theorem nodup_filesBelow {d : Disk} (hd : d.Proper) (path : String) (loc : Location) :
    ((filesBelow d path loc).map Prod.fst).Nodup := by
  have hnames : (((d.filesBelow loc).filter fun f => selects path f.1).map Prod.fst).Nodup :=
    (hd.nodup_filesBelow loc).sublist (List.filter_sublist.map Prod.fst)
  have hpaths : (filesBelow d path loc).map Prod.fst =
      (((d.filesBelow loc).filter fun f => selects path f.1).map Prod.fst).map
        (pathBelow path) := by
    simp [filesBelow, Function.comp_def]
  rw [hpaths]
  refine hnames.map_on ?_
  intro names hnames others hothers heq
  obtain ⟨⟨_, content⟩, hfile, rfl⟩ := List.mem_map.mp hnames
  obtain ⟨⟨_, content'⟩, hfile', rfl⟩ := List.mem_map.mp hothers
  obtain ⟨hne, -, entry, hget, -⟩ := hd.mem_filesBelow.mp (List.mem_filter.mp hfile).1
  obtain ⟨hne', -, entry', hget', -⟩ := hd.mem_filesBelow.mp (List.mem_filter.mp hfile').1
  exact pathBelow_injective path hne hne' (hd.names_of_get? hne hget)
    (hd.names_of_get? hne' hget') heq

theorem inPathOrder_perm (files : List File) : (inPathOrder files).Perm files :=
  List.mergeSort_perm files _

theorem inPathOrder_pairwise (files : List File) :
    (inPathOrder files).Pairwise fun a b => a.1 ≤ b.1 := by
  unfold inPathOrder
  refine (List.pairwise_mergeSort ?_ ?_ files).imp ?_
  · intro a b c hab hbc
    simp only [decide_eq_true_eq] at hab hbc ⊢
    exact String.le_trans hab hbc
  · intro a b
    simp only [Bool.or_eq_true, decide_eq_true_eq]
    exact String.le_total a.1 b.1
  · intro a b hab
    exact of_decide_eq_true hab

/-- The order of paths leaves no choice where the paths are different. -/
theorem inPathOrder_eq {files sorted : List File} (hnodup : (files.map Prod.fst).Nodup)
    (hperm : sorted.Perm files) (hsorted : sorted.Pairwise fun a b => a.1 ≤ b.1) :
    inPathOrder files = sorted := by
  refine ((inPathOrder_perm files).trans hperm.symm).eq_of_pairwise ?_
    (inPathOrder_pairwise files) hsorted
  intro a b ha hb hab hba
  have ha' : a ∈ files := (inPathOrder_perm files).mem_iff.mp ha
  have hb' : b ∈ files := hperm.mem_iff.mp hb
  exact List.inj_on_of_nodup_map hnodup ha' hb' (String.le_antisymm hab hba)

theorem inPathOrder_ascending {files : List File} (hnodup : (files.map Prod.fst).Nodup) :
    (inPathOrder files).Pairwise fun a b => a.1 < b.1 := by
  have hdistinct : (inPathOrder files).Pairwise fun a b => a.1 ≠ b.1 :=
    List.pairwise_map.mp (((inPathOrder_perm files).map Prod.fst).nodup_iff.mpr hnodup)
  refine ((inPathOrder_pairwise files).and hdistinct).imp ?_
  rintro a b ⟨hle, hne⟩
  exact String.not_le.mp fun hge => hne (String.le_antisymm hle hge)

/-- The files that a path stands for, in order. -/
def selection (d : Disk) (path : String) : List File :=
  match d.locateText path with
  | .error _ => []
  | .ok loc =>
    match d.found? loc with
    | none => []
    | some entry =>
      match entry.content? with
      | some content => [(path, content)]
      | none => inPathOrder (filesBelow d path loc)

theorem selection_of_folder {d : Disk} {path : String} {loc : Location}
    (hloc : d.locateText path = .ok loc) (hfolder : d.get? loc = some .folder) :
    selection d path = inPathOrder (filesBelow d path loc) := by
  have hfound : d.found? loc = some .folder := Disk.found?_eq_some.mpr ⟨hfolder, by simp⟩
  simp only [selection, hloc, hfound, Entry.content?]

theorem selection_eq_of_perm {d : Disk} (hd : d.Proper) {path : String} {loc : Location}
    {sorted : List File} (hloc : d.locateText path = .ok loc) (hfolder : d.get? loc = some .folder)
    (hperm : sorted.Perm (filesBelow d path loc)) (hsorted : sorted.Pairwise fun a b => a.1 ≤ b.1) :
    selection d path = sorted := by
  rw [selection_of_folder hloc hfolder]
  exact inPathOrder_eq (nodup_filesBelow hd path loc) hperm hsorted

/-- There is nothing, a folder without schema files, or files that are the schema. -/
theorem files_cases (d : Disk) (path : String) :
    (d.entryAt (d.locateText path) = none ∧ selection d path = [] ∧
        files d path = .error ⟨path, .missing⟩) ∨
      ((∃ entry, d.entryAt (d.locateText path) = some entry ∧ entry.content? = none) ∧
        selection d path = [] ∧ files d path = .error ⟨path, .noFiles⟩) ∨
      (d.entryAt (d.locateText path) ≠ none ∧ selection d path ≠ [] ∧
        files d path = .ok (selection d path)) := by
  unfold files selection Disk.entryAt
  cases d.locateText path with
  | error cause => exact .inl ⟨rfl, rfl, rfl⟩
  | ok loc =>
    cases hfound : d.found? loc with
    | none => simp [hfound]
    | some entry =>
      cases hcontent : entry.content? with
      | some content => simp [hfound, hcontent]
      | none =>
        cases hfiles : inPathOrder (filesBelow d path loc) <;> simp [hfound, hcontent, hfiles]

/-- A folder that files are found in is not locked. -/
theorem get?_of_looksInto {d : Disk} {path : String} {loc : Location} {inner : List String}
    {entry : Entry} (h : LooksInto d path loc inner) (hget : d.get? loc = some entry)
    (hcontent : entry.content? = none) : d.get? loc = some .folder := by
  cases entry with
  | folder => exact hget
  | lockedFolder lock => exact absurd hget (by simpa using h.1 [] List.nil_prefix lock)
  | _ => contradiction

theorem mem_selection {d : Disk} (hd : d.Proper) {path : String} {file : File} :
    file ∈ selection d path ↔ Selected d path file := by
  constructor
  · intro hfile
    unfold selection at hfile
    split at hfile
    · contradiction
    · rename_i loc hloc
      split at hfile
      · contradiction
      · rename_i entry hfound
        have hget := Disk.found?_eq_some.mp hfound
        split at hfile
        · rename_i content hcontent
          rw [List.mem_singleton.mp hfile]
          exact .file (Disk.entryAt_eq_some.mpr ⟨loc, hloc, hget⟩) hcontent
        · rename_i hfolder
          obtain ⟨inner, name, inside, content, hinside, hcontent, hname, hlooks, rfl⟩ :=
            (mem_filesBelow hd).mp ((inPathOrder_perm _).mem_iff.mp hfile)
          obtain ⟨extension, hextension, hsuffix⟩ := (isSchemaFile_iff name).mp hname
          exact .below hloc (get?_of_looksInto hlooks hget.1 hfolder) hinside hcontent hextension
            hsuffix hlooks
  · rintro (⟨hentry, hcontent⟩ | ⟨hloc, hfolder, hget, hcontent, hextension, hsuffix, hlooks⟩)
    · obtain ⟨loc, hloc, hget⟩ := Disk.entryAt_eq_some.mp hentry
      simp only [selection, hloc, Disk.found?_eq_some.mpr hget, hcontent, List.mem_singleton]
    · rw [selection_of_folder hloc hfolder]
      refine (inPathOrder_perm _).mem_iff.mpr ((mem_filesBelow hd).mpr ?_)
      exact ⟨_, _, _, _, hget, hcontent, (isSchemaFile_iff _).mpr ⟨_, hextension, hsuffix⟩, hlooks,
        rfl⟩

theorem selection_ascending {d : Disk} (hd : d.Proper) (path : String) :
    (selection d path).Pairwise fun a b => a.1 < b.1 := by
  unfold selection
  split
  · exact .nil
  · split
    · exact .nil
    · split
      · exact List.pairwise_singleton _ _
      · exact inPathOrder_ascending (nodup_filesBelow hd path _)

theorem Selected.spelled {d : Disk} (hd : d.Proper) {path : String} {file : File}
    (h : Selected d path file) : Spelled file := by
  cases h with
  | file hentry =>
    obtain ⟨loc, hloc, -⟩ := Disk.entryAt_eq_some.mp hentry
    exact spelled_of_locateText hloc _
  | @below loc inner name extension entry content hloc hfolder hget =>
    have hnames := hd.names_of_get? (by simp) hget
    refine ⟨?_, ?_⟩
    · intro hempty
      have hbase := congrArg baseName hempty
      rw [baseName_pathBelow path hnames] at hbase
      exact (hnames name (by simp)).nonempty hbase
    · intro hnull
      rcases mem_pathBelow hnull with hnull | hnull | ⟨n, hn, hnull⟩
      · exact (spelled_of_locateText hloc content).noNull hnull
      · contradiction
      · exact (hnames n hn).noNull hnull

theorem Selected.baseName_ne_empty {d : Disk} (hd : d.Proper) {path : String} {file : File}
    (h : Selected d path file) : baseName file.1 ≠ "" := by
  cases h with
  | @file entry content hentry hcontent =>
    obtain ⟨loc, hloc, hget, -⟩ := Disk.entryAt_eq_some.mp hentry
    refine Disk.baseName_ne_empty_of_file hloc ?_
    rintro hfolder
    cases hget.symm.trans hfolder
    contradiction
  | @below loc inner name extension entry content hloc hfolder hget =>
    have hnames := hd.names_of_get? (by simp) hget
    rw [baseName_pathBelow path hnames]
    exact (hnames name (by simp)).nonempty

/-- The files of a schema do not depend on the order in which the disk is listed. -/
theorem files_of_perm {d : Disk} (hd : d.Proper) {entries : List (Location × Entry)}
    (hperm : entries.Perm d.entries) (path : String) :
    files { d with entries } path = files d path := by
  have hget := hd.get?_of_perm hperm
  have hloc : ({ d with entries } : Disk).locateText path = d.locateText path := by
    simp only [Disk.locateText, Disk.follow_congr hget]
    rfl
  have hbelow : ∀ loc, inPathOrder (filesBelow { d with entries } path loc) =
      inPathOrder (filesBelow d path loc) := by
    intro loc
    have hlists : ∀ loc names, ({ d with entries } : Disk).lists loc names = d.lists loc names :=
      Disk.lists_congr fun loc _ => by rw [hget]
    have hfiles : (filesBelow { d with entries } path loc).Perm (filesBelow d path loc) := by
      simp only [filesBelow, Disk.filesBelow, hlists]
      exact ((hperm.filterMap _).filter _).map _
    exact (inPathOrder_eq (nodup_filesBelow hd path loc) ((inPathOrder_perm _).trans hfiles)
      (inPathOrder_pairwise _)).symm
  unfold files Disk.found?
  simp only [hloc, hget, hbelow]

end Schema
end SchemaFold
