import Mathlib.Tactic.MkIffOfInductiveProp
import SchemaFold.Disk.Path

/-! The steps of a path's text. Names that are put below a folder's path are read off it again, so
that different files below one folder have different paths. -/

namespace SchemaFold

theorem splitAtChar_ne_nil (mark : Char) (cs : List Char) : splitAtChar mark cs ≠ [] := by
  fun_cases splitAtChar mark cs <;> simp

theorem splitAtChar_append (mark : Char) (cs ds : List Char) :
    splitAtChar mark (cs ++ mark :: ds) = splitAtChar mark cs ++ splitAtChar mark ds := by
  induction cs with
  | nil => simp [splitAtChar]
  | cons c cs ih =>
    by_cases hc : c = mark
    · simp [splitAtChar, hc, ih]
    · obtain ⟨first, rest, hsplit⟩ := List.exists_cons_of_ne_nil (splitAtChar_ne_nil mark cs)
      simp [splitAtChar, hc, ih, hsplit]

theorem splitAtChar_of_not_mem {mark : Char} {cs : List Char} (h : mark ∉ cs) :
    splitAtChar mark cs = [cs] := by
  induction cs with
  | nil => rfl
  | cons c cs ih =>
    simp only [List.mem_cons, not_or] at h
    have hc : c ≠ mark := fun hc => h.1 hc.symm
    simp [splitAtChar, hc, ih h.2]

/-- The parts of a text are made of its characters other than the mark. -/
theorem of_mem_splitAtChar {mark c : Char} {cs part : List Char} (h : part ∈ splitAtChar mark cs)
    (hc : c ∈ part) : c ≠ mark ∧ c ∈ cs := by
  induction cs generalizing part with
  | nil =>
    rw [splitAtChar, List.mem_singleton] at h
    rw [h] at hc
    contradiction
  | cons d ds ih =>
    obtain ⟨first, rest, hsplit⟩ := List.exists_cons_of_ne_nil (splitAtChar_ne_nil mark ds)
    have hlater : ∀ {part}, part ∈ splitAtChar mark ds → c ∈ part → c ≠ mark ∧ c ∈ d :: ds :=
      fun h hc => (ih h hc).imp_right (List.mem_cons_of_mem d)
    rw [hsplit] at hlater
    by_cases hd : d = mark
    · simp only [splitAtChar, hd, beq_self_eq_true, if_true, hsplit, List.mem_cons] at h
      rcases h with rfl | h
      · contradiction
      · exact hlater (List.mem_cons.mpr h) hc
    · simp only [splitAtChar, beq_iff_eq, hd, if_false, hsplit, List.mem_cons] at h
      rcases h with rfl | h
      · rcases List.mem_cons.mp hc with rfl | hc
        · exact ⟨hd, List.mem_cons_self⟩
        · exact hlater List.mem_cons_self hc
      · exact hlater (List.mem_cons_of_mem _ h) hc

/-- A name that an entry can have in its folder. -/
@[mk_iff]
structure IsEntryName (name : String) : Prop where
  nonempty : name ≠ ""
  noSlash : '/' ∉ name.toList
  noNull : '\x00' ∉ name.toList

instance (name : String) : Decidable (IsEntryName name) :=
  decidable_of_iff _ (isEntryName_iff name).symm

theorem not_mem_of_mem_pathSteps {text step : String} (h : step ∈ pathSteps text) :
    '/' ∉ step.toList := by
  obtain ⟨part, hpart, rfl⟩ := List.mem_map.mp h
  rw [String.toList_ofList]
  exact fun hslash => (of_mem_splitAtChar hpart hslash).1 rfl

theorem mem_of_mem_pathSteps {text step : String} (h : step ∈ pathSteps text) {c : Char}
    (hc : c ∈ step.toList) : c ∈ text.toList := by
  obtain ⟨part, hpart, rfl⟩ := List.mem_map.mp h
  rw [String.toList_ofList] at hc
  exact (of_mem_splitAtChar hpart hc).2

/-- The steps of a folder's path, without the empty one that a slash at its end leaves. -/
def stepsTo (folder : String) : List String :=
  if folder.isEmpty || endsInSlash folder then (pathSteps folder).dropLast else pathSteps folder

theorem pathSteps_joinPathText (folder : String) {name : String} (h : '/' ∉ name.toList) :
    pathSteps (joinPathText folder name) = stepsTo folder ++ [name] := by
  have hname : splitAtChar '/' name.toList = [name.toList] := splitAtChar_of_not_mem h
  by_cases hempty : folder = ""
  · subst hempty
    simp [joinPathText, stepsTo, pathSteps, hname, splitAtChar]
  · by_cases hslash : endsInSlash folder = true
    · obtain ⟨cs, hcs⟩ : ∃ cs, folder.toList = cs ++ ['/'] := by
        simpa [endsInSlash, List.getLast?_eq_some_iff] using hslash
      simp [joinPathText, stepsTo, pathSteps, hslash, hcs, splitAtChar_append, hname, splitAtChar]
    · simp [joinPathText, stepsTo, pathSteps, hempty, hslash, splitAtChar_append, hname]

/-- A name ends a path in something else than a slash. -/
theorem joinPathText_open (folder : String) {name : String} (h : IsEntryName name) :
    joinPathText folder name ≠ "" ∧ endsInSlash (joinPathText folder name) = false := by
  obtain ⟨start, htext⟩ : ∃ start, (joinPathText folder name).toList = start ++ name.toList := by
    unfold joinPathText
    split
    · exact ⟨folder.toList, by simp⟩
    · exact ⟨folder.toList ++ ['/'], by simp⟩
  have hne : name.toList ≠ [] := by simpa using h.nonempty
  constructor
  · intro htext'
    simp [htext'] at htext
    exact h.nonempty htext.2
  · have hlast : name.toList.getLast hne ≠ '/' := fun hlast =>
      h.noSlash (hlast ▸ List.getLast_mem hne)
    simp [endsInSlash, htext, List.getLast?_append, List.getLast?_eq_some_getLast hne, hlast]

theorem stepsTo_joinPathText (folder : String) {name : String} (h : IsEntryName name) :
    stepsTo (joinPathText folder name) = pathSteps (joinPathText folder name) := by
  obtain ⟨hempty, hslash⟩ := joinPathText_open folder h
  simp [stepsTo, hempty, hslash]

/-- The names below a folder are the last steps of the path that leads through them. -/
theorem pathSteps_pathBelow (folder : String) {names : List String} (hne : names ≠ [])
    (h : ∀ name ∈ names, IsEntryName name) :
    pathSteps (pathBelow folder names) = stepsTo folder ++ names := by
  induction names generalizing folder with
  | nil => contradiction
  | cons name names ih =>
    have hname := h name (by simp)
    have hjoin := pathSteps_joinPathText folder hname.noSlash
    by_cases hnames : names = []
    · subst hnames
      exact hjoin
    · have hrest := ih (joinPathText folder name) hnames fun n hn => h n (by simp [hn])
      rw [stepsTo_joinPathText folder hname, hjoin] at hrest
      simpa [pathBelow] using hrest

/-- A folder's path up to the slash that a name below it follows. -/
def slashed (folder : String) : String :=
  if folder.isEmpty || endsInSlash folder then folder else folder ++ "/"

theorem joinPathText_eq (folder name : String) :
    joinPathText folder name = slashed folder ++ name := by
  unfold joinPathText slashed
  split <;> rfl

theorem pathBelow_eq (folder : String) {names : List String} (hne : names ≠ [])
    (h : ∀ name ∈ names, IsEntryName name) :
    pathBelow folder names = slashed folder ++ "/".intercalate names := by
  induction names generalizing folder with
  | nil => contradiction
  | cons name names ih =>
    have hjoin := joinPathText_eq folder name
    by_cases hnames : names = []
    · subst hnames
      exact hjoin
    · obtain ⟨hempty, hslash⟩ := joinPathText_open folder (h name (by simp))
      have hopen : slashed (joinPathText folder name) = joinPathText folder name ++ "/" := by
        simp [slashed, hempty, hslash]
      calc pathBelow folder (name :: names)
        _ = slashed (joinPathText folder name) ++ "/".intercalate names :=
          ih (joinPathText folder name) hnames fun n hn => h n (by simp [hn])
        _ = slashed folder ++ "/".intercalate (name :: names) := by
          rw [hopen, hjoin, String.intercalate_cons_of_ne_nil hnames]
          simp only [String.append_assoc]

theorem pathBelow_injective (folder : String) {names others : List String} (hnames : names ≠ [])
    (hothers : others ≠ []) (h : ∀ name ∈ names, IsEntryName name)
    (h' : ∀ name ∈ others, IsEntryName name)
    (heq : pathBelow folder names = pathBelow folder others) : names = others := by
  have hsteps := pathSteps_pathBelow folder hnames h
  rw [heq, pathSteps_pathBelow folder hothers h'] at hsteps
  exact (List.append_cancel_left hsteps).symm

theorem mem_pathBelow {folder : String} {names : List String} {c : Char}
    (h : c ∈ (pathBelow folder names).toList) :
    c ∈ folder.toList ∨ c = '/' ∨ ∃ name ∈ names, c ∈ name.toList := by
  induction names generalizing folder with
  | nil => exact .inl h
  | cons name names ih =>
    rcases ih h with hfolder | hslash | ⟨n, hn, hc⟩
    · unfold joinPathText at hfolder
      split at hfolder
      · simp only [String.toList_append, List.mem_append] at hfolder
        rcases hfolder with hc | hc
        · exact .inl hc
        · exact .inr (.inr ⟨name, by simp, hc⟩)
      · simp only [String.toList_append, List.mem_append] at hfolder
        rcases hfolder with (hc | hc) | hc
        · exact .inl hc
        · exact .inr (.inl (by simpa using hc))
        · exact .inr (.inr ⟨name, by simp, hc⟩)
    · exact .inr (.inl hslash)
    · exact .inr (.inr ⟨n, by simp [hn], hc⟩)

theorem baseName_pathBelow (folder : String) {names : List String} {name : String}
    (h : ∀ n ∈ names ++ [name], IsEntryName n) :
    baseName (pathBelow folder (names ++ [name])) = name := by
  rw [baseName, pathSteps_pathBelow folder (by simp) h, ← List.append_assoc]
  simp

end SchemaFold
