import SchemaFold.Proofs.Atomicity

/-! A path and the path that it resolves to. Both lead to the same place, and a schema loaded from
the one is the schema loaded from the other, as long as no path involved is too long. -/

namespace SchemaFold

namespace Disk

/-- The names of a location lead to it from the root, through folders. -/
def Reached (d : Disk) (loc : Location) : Prop :=
  d.follow [] loc = .ok loc

theorem follow_eq_foldl {d : Disk} {start finish : Location} {steps : List String}
    (h : d.follow start steps = .ok finish) : steps.foldl move start = finish := by
  induction steps generalizing start with
  | nil => exact Except.ok.inj h
  | cons step steps ih =>
    obtain ⟨-, -, hrest⟩ := follow_cons_eq_ok.mp h
    exact ih hrest

theorem length_move_le (loc : Location) (step : String) :
    (move loc step).length ≤ loc.length + 1 := by
  unfold move
  split
  · omega
  · split
    · rw [List.length_dropLast]
      omega
    · simp

theorem length_foldl_move_le (start : Location) (steps : List String) :
    (steps.foldl move start).length ≤ start.length + steps.length := by
  induction steps generalizing start with
  | nil => simp
  | cons step steps ih =>
    have hrest := ih (move start step)
    have hstep := length_move_le start step
    simp only [List.foldl_cons, List.length_cons]
    omega

/-- A step that goes further down is a step to a new name. -/
theorem eq_append_of_move {loc : Location} {step : String}
    (h : (move loc step).length = loc.length + 1) : move loc step = loc ++ [step] := by
  unfold move at h ⊢
  split
  · rename_i hstay
    rw [if_pos hstay] at h
    omega
  · rename_i hstay
    rw [if_neg hstay] at h
    split
    · rename_i hup
      rw [if_pos hup, List.length_dropLast] at h
      omega
    · rfl

theorem Reached.of_append {d : Disk} {loc : Location} {name : String}
    (h : d.Reached (loc ++ [name])) : d.Reached loc := by
  obtain ⟨middle, hmiddle, hlast⟩ := follow_append_eq_ok.mp h
  obtain ⟨-, -, hmove⟩ := follow_cons_eq_ok.mp hlast
  have hend : move middle name = loc ++ [name] := Except.ok.inj hmove
  -- Each name adds one to the length at most, and together they add all of it.
  have hshort : middle.length ≤ loc.length := by
    have hlength := length_foldl_move_le [] loc
    rw [follow_eq_foldl hmiddle] at hlength
    simpa using hlength
  have hstep := length_move_le middle name
  rw [hend, List.length_append, List.length_singleton] at hstep
  have hnew : move middle name = middle ++ [name] := by
    apply eq_append_of_move
    rw [hend, List.length_append, List.length_singleton]
    omega
  have hsame : middle = loc := List.append_cancel_right (hnew.symm.trans hend)
  rwa [hsame] at hmiddle

theorem Reached.move {d : Disk} {loc : Location} {step : String} (h : d.Reached loc)
    (hfolder : d.get? loc = some .folder) (hshort : ¬nameBound < step.utf8ByteSize) :
    d.Reached (move loc step) := by
  unfold Disk.move
  split
  · exact h
  · rename_i hstay
    split
    · rcases List.eq_nil_or_concat loc with rfl | ⟨above, name, rfl⟩
      · exact h
      · rw [List.concat_eq_append] at h ⊢
        rw [List.dropLast_concat]
        exact h.of_append
    · rename_i hup
      refine follow_append_eq_ok.mpr ⟨loc, h, follow_cons_eq_ok.mpr ⟨hfolder, hshort, ?_⟩⟩
      unfold Disk.move
      rw [if_neg hstay, if_neg hup]
      rfl

theorem Reached.follow {d : Disk} {start finish : Location} {steps : List String}
    (h : d.Reached start) (hsteps : d.follow start steps = .ok finish) : d.Reached finish := by
  induction steps generalizing start with
  | nil =>
    cases hsteps
    exact h
  | cons step steps ih =>
    obtain ⟨hfolder, hshort, hrest⟩ := follow_cons_eq_ok.mp hsteps
    exact ih (h.move hfolder hshort) hrest

/-- The working folder is one that can be gone to. -/
def Rooted (d : Disk) : Prop :=
  d.Reached d.here

theorem Rooted.reached_origin {d : Disk} (h : d.Rooted) (absolute : Bool) :
    d.Reached (d.origin absolute) := by
  cases absolute with
  | true => rfl
  | false => exact h

theorem text_absolute {loc : Location} (h : ∀ name ∈ loc, IsEntryName name) :
    (Path.mk true loc).text = pathBelow "/" loc := by
  by_cases hloc : loc = []
  · subst hloc
    rfl
  · rw [pathBelow_eq "/" hloc h]
    rfl

theorem follow_pathSteps_absolute {d : Disk} {loc : Location} (h : d.Reached loc)
    (hnames : ∀ name ∈ loc, IsEntryName name) :
    d.follow [] (pathSteps (pathBelow "/" loc)) = .ok loc := by
  by_cases hloc : loc = []
  · subst hloc
    rfl
  · rw [pathSteps_pathBelow "/" hloc hnames]
    exact follow_cons_eq_ok.mpr ⟨rfl, by decide, h⟩

theorem isAbsolutePath_pathBelow {folder : String} (h : isAbsolutePath folder = true)
    (names : List String) : isAbsolutePath (pathBelow folder names) = true := by
  induction names generalizing folder with
  | nil => exact h
  | cons name names ih =>
    apply ih
    obtain ⟨rest, hrest⟩ : ∃ rest, folder.toList = '/' :: rest := by
      simpa [isAbsolutePath, List.head?_eq_some_iff] using h
    unfold joinPathText isAbsolutePath
    split <;> simp [hrest]

theorem Reached.locateText {d : Disk} {loc : Location} (h : d.Reached loc)
    (hnames : ∀ name ∈ loc, IsEntryName name)
    (hshort : (Path.mk true loc).text.utf8ByteSize < pathBound) :
    d.locateText (Path.mk true loc).text = .ok loc := by
  rw [text_absolute hnames] at hshort ⊢
  have habsolute : isAbsolutePath (pathBelow "/" loc) = true := isAbsolutePath_pathBelow rfl loc
  have hne : pathBelow "/" loc ≠ "" := by
    intro hempty
    rw [hempty] at habsolute
    contradiction
  have hnull : '\x00' ∉ (pathBelow "/" loc).toList := by
    intro hmem
    rcases mem_pathBelow hmem with hmem | hmem | ⟨name, hname, hmem⟩
    · simp at hmem
    · contradiction
    · exact (hnames name hname).noNull hmem
  refine bind_eq_ok.mpr ⟨(), checkPath_eq_ok.mpr ⟨hnull, hne, hshort⟩, ?_⟩
  rw [habsolute]
  exact follow_pathSteps_absolute h hnames

theorem resolveText_of_locateText {d : Disk} {path : String} {loc : Location}
    (h : d.locateText path = .ok loc) : d.resolveText path = (Path.mk true loc).text := by
  obtain ⟨⟨⟩, -, hfollow⟩ := bind_eq_ok.mp h
  rw [resolveText, follow_eq_foldl hfollow]

/-- A path that leads anywhere leads there also in resolved form, unless that is too long. -/
theorem locateText_resolveText {d : Disk} (hd : d.Proper) (hrooted : d.Rooted) {path : String}
    {loc : Location} (h : d.locateText path = .ok loc)
    (hshort : (d.resolveText path).utf8ByteSize < pathBound) :
    d.locateText (d.resolveText path) = .ok loc := by
  obtain ⟨⟨⟩, -, hfollow⟩ := bind_eq_ok.mp h
  have hreached : d.Reached loc := (hrooted.reached_origin _).follow hfollow
  rw [resolveText_of_locateText h] at hshort ⊢
  exact hreached.locateText (hd.locateText_named h) hshort

end Disk

namespace Schema

/-- Neither a path to this location nor the paths, made from it, of the schema files below the
location are too long to be asked for. -/
structure Short (d : Disk) (loc : Location) (path : String) : Prop where
  self : path.utf8ByteSize < Disk.pathBound
  below : ∀ file ∈ d.filesBelow loc, isSchemaFile (file.1.getLast?.getD "") = true →
    (pathBelow path file.1).utf8ByteSize < Disk.pathBound

/-- The schema files below a location by their names from there on, in order. -/
def filesFrom (d : Disk) (loc : Location) : List (List String × Except Lock (List UInt8)) :=
  ((d.filesBelow loc).filter fun file => isSchemaFile (file.1.getLast?.getD "")).mergeSort
    fun a b => "/".intercalate a.1 ≤ "/".intercalate b.1

theorem append_le_append_iff (start a b : String) : start ++ a ≤ start ++ b ↔ a ≤ b := by
  have hlists : ∀ p x y : List Char, p ++ x < p ++ y ↔ x < y := by
    intro p x y
    induction p with
    | nil => rfl
    | cons c p ih => simp [ih]
  rw [← String.not_lt, ← String.not_lt, String.lt_iff, String.lt_iff, String.toList_append,
    String.toList_append, hlists]

theorem size_pathBelow_dropLast_le (folder : String) (names : List String) :
    (pathBelow folder names.dropLast).utf8ByteSize ≤ (pathBelow folder names).utf8ByteSize := by
  rcases List.eq_nil_or_concat names with rfl | ⟨above, name, rfl⟩
  · exact Nat.le_refl _
  · have hstep : pathBelow folder (above ++ [name]) =
        slashed (pathBelow folder above) ++ name := by
      rw [← joinPathText_eq, pathBelow, List.foldl_append]
      rfl
    have hslash : (pathBelow folder above).utf8ByteSize ≤
        (slashed (pathBelow folder above)).utf8ByteSize := by
      unfold slashed
      split
      · exact Nat.le_refl _
      · rw [String.utf8ByteSize_append]
        omega
    rw [List.concat_eq_append, List.dropLast_concat, hstep, String.utf8ByteSize_append]
    omega

/-- The order of the files does not depend on the path of the folder that they are below. -/
theorem Short.inPathOrder_eq {d : Disk} (hd : d.Proper) {path : String} {loc : Location}
    (h : Short d loc path) :
    inPathOrder (filesBelow d path loc) =
      (filesFrom d loc).map fun file => (pathBelow path file.1, file.2) := by
  have hselects : (d.filesBelow loc).filter (fun file => selects path file.1) =
      (d.filesBelow loc).filter fun file => isSchemaFile (file.1.getLast?.getD "") := by
    apply List.filter_congr
    intro file hfile
    by_cases hname : isSchemaFile (file.1.getLast?.getD "") = true
    · have hshort := h.below file hfile hname
      have hfolder := size_pathBelow_dropLast_le path file.1
      simp only [selects, hname, Bool.true_and, decide_eq_true_eq]
      omega
    · simp [selects, hname]
  have hbelow : filesBelow d path loc =
      ((d.filesBelow loc).filter fun file => isSchemaFile (file.1.getLast?.getD "")).map
        fun file => (pathBelow path file.1, file.2) := by
    rw [← hselects]
    rfl
  -- All paths begin with that of the folder, so they compare as what follows it does.
  rw [inPathOrder, hbelow, filesFrom]
  symm
  apply List.map_mergeSort
  intro a ha b hb
  obtain ⟨hne, -, entry, hget, -⟩ := hd.mem_filesBelow.mp (List.mem_filter.mp ha).1
  obtain ⟨hne', -, entry', hget', -⟩ := hd.mem_filesBelow.mp (List.mem_filter.mp hb).1
  simp only [pathBelow_eq path hne (hd.names_of_get? hne hget),
    pathBelow_eq path hne' (hd.names_of_get? hne' hget'), append_le_append_iff]

theorem contents_congr {path path' : String} (h : path.utf8ByteSize < Disk.pathBound)
    (h' : path'.utf8ByteSize < Disk.pathBound) (content : Except Lock (List UInt8))
    (document : Document) :
    contents (path, content) = .ok document ↔ contents (path', content) = .ok document := by
  simp only [contents, if_neg (Nat.not_le.mpr h), if_neg (Nat.not_le.mpr h')]
  cases content <;> simp

theorem reads_map_congr {α : Type} {f g : α → File} (as : List α)
    (h : ∀ a ∈ as, ∀ part, contents (f a) = .ok part ↔ contents (g a) = .ok part)
    (document : Document) :
    Reads (as.map f) document ↔ Reads (as.map g) document := by
  induction as generalizing document with
  | nil => rfl
  | cons a as ih =>
    have hrest := ih fun b hb => h b (by simp [hb])
    simp only [List.map_cons, reads_cons, h a (by simp), hrest]

/-- The same schema is loaded from two paths to one place, if both are short enough. -/
theorem load_eq_ok_congr {d : Disk} (hd : d.Proper) {path path' : String} {loc : Location}
    (hloc : d.locateText path = .ok loc) (hloc' : d.locateText path' = .ok loc)
    (h : Short d loc path) (h' : Short d loc path') (document : Document) :
    (load d path).result = .ok document ↔ (load d path').result = .ok document := by
  rw [load_eq_ok_iff hd, load_eq_ok_iff hd]
  simp only [selection, hloc, hloc']
  cases d.found? loc with
  | none => rfl
  | some entry =>
    cases hcontent : entry.content? with
    | some content =>
      simp only [reads_singleton, contents_congr h.self h'.self content, hcontent]
      simp
    | none =>
      have hsame : ∀ file ∈ filesFrom d loc, ∀ part,
          contents (pathBelow path file.1, file.2) = .ok part ↔
            contents (pathBelow path' file.1, file.2) = .ok part := by
        intro file hfile
        obtain ⟨hmem, hname⟩ := List.mem_filter.mp ((List.mergeSort_perm _ _).mem_iff.mp hfile)
        exact contents_congr (h.below file hmem hname) (h'.below file hmem hname) file.2
      simp only [hcontent, h.inPathOrder_eq hd, h'.inPathOrder_eq hd, reads_map_congr _ hsame]
      simp

end Schema

namespace Generator

/-- What is generated depends on the schema's path only through the schema loaded from it. -/
theorem generate_congr {g : Generator} {disk : Disk} {schema schema' : String}
    (h : ∀ document, (Schema.load disk schema).result = .ok document ↔
      (Schema.load disk schema').result = .ok document) (output : String) :
    (g.generate disk schema output).1 = (g.generate disk schema' output).1 ∧
      ∀ written, (g.generate disk schema output).2.result = .ok written ↔
        (g.generate disk schema' output).2.result = .ok written := by
  have hcompose : ∀ written, (g.compose disk schema output).result = .ok written ↔
      (g.compose disk schema' output).result = .ok written := by
    intro written
    simp only [compose_eq_ok, h]
  rcases g.generate_cases disk schema output with
    ⟨f, hf, hrun⟩ | ⟨path, content, hok, hdisk, hresult⟩
  · rcases g.generate_cases disk schema' output with
      ⟨f', hf', hrun'⟩ | ⟨path, content, hok', -, -⟩
    · rw [hrun, hrun', hf, hf']
      simp
    · rw [(hcompose _).mpr hok'] at hf
      contradiction
  · rcases g.generate_cases disk schema' output with
      ⟨f', hf', -⟩ | ⟨path', content', hok', hdisk', hresult'⟩
    · rw [(hcompose _).mp hok] at hf'
      contradiction
    · have hpair := (hcompose _).mpr hok'
      rw [hok] at hpair
      cases hpair
      rw [hdisk, hdisk', hresult, hresult']
      simp

/-- Unless some path is too long, it makes no difference whether the schema's path is resolved. -/
theorem generate_resolveText {g : Generator} {disk : Disk} (hd : disk.Proper) (hr : disk.Rooted)
    {schema : String} {loc : Location} (hloc : disk.locateText schema = .ok loc)
    (h : Schema.Short disk loc schema) (h' : Schema.Short disk loc (disk.resolveText schema))
    (output : String) :
    (g.generate disk (disk.resolveText schema) output).1 = (g.generate disk schema output).1 ∧
      ∀ written, (g.generate disk (disk.resolveText schema) output).2.result = .ok written ↔
        (g.generate disk schema output).2.result = .ok written := by
  have hresolved := Disk.locateText_resolveText hd hr hloc h'.self
  exact generate_congr (Schema.load_eq_ok_congr hd hresolved hloc h' h) output

end Generator
end SchemaFold
