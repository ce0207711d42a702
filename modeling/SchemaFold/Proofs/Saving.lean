import SchemaFold.Disk
import SchemaFold.Proofs.Outcome

/-! Saving a file. Where some content can be saved any other can, and reading the same path then
yields what was saved. -/

namespace SchemaFold.Disk

/-- Some content can be saved there. -/
def Writable (d : Disk) (p : Path) : Prop :=
  ∃ bytes d', d.save p bytes = (d', .ok ())

theorem get?_put {d : Disk} {loc : Location} (hloc : loc ≠ []) (entry : Entry)
    (place : Location) :
    (d.put loc entry).get? place = if loc = place then some entry else d.get? place := by
  unfold get? put
  rw [Assoc.get?_put]
  by_cases hplace : place = []
  · simp [hplace, hloc]
  · simp [hplace]

/-- Whether a file can be written there: nothing is there, or a file that can be opened. -/
def TakesFile (d : Disk) (loc : Location) : Prop :=
  d.get? loc = none ∨ ∃ old, d.get? loc = some (.file old)

theorem TakesFile.get?_ne {d : Disk} {loc : Location} (h : d.TakesFile loc) {entry : Entry}
    (hentry : ∀ old, entry ≠ .file old) : d.get? loc ≠ some entry := by
  intro heq
  rcases h with hnone | ⟨old, hold⟩
  · rw [hnone] at heq
    contradiction
  · rw [hold] at heq
    exact hentry old (Option.some.inj heq).symm

theorem TakesFile.get?_ne_folder {d : Disk} {loc : Location} (h : d.TakesFile loc) :
    d.get? loc ≠ some .folder :=
  h.get?_ne (by simp)

theorem ne_nil_of_get?_ne_folder {d : Disk} {loc : Location} (h : d.get? loc ≠ some .folder) :
    loc ≠ [] := by
  rintro rfl
  exact h rfl

theorem checkPath_eq_ok {text : String} :
    checkPath text = .ok () ↔
      '\x00' ∉ text.toList ∧ text ≠ "" ∧ text.utf8ByteSize < pathBound := by
  by_cases hnull : '\x00' ∈ text.toList
  · simp [checkPath, hnull]
  · by_cases hempty : text = ""
    · simp [checkPath, hempty]
    · by_cases hlong : pathBound ≤ text.utf8ByteSize
      · simp [checkPath, hnull, hempty, hlong]
      · simp [checkPath, hnull, hempty, hlong, Nat.lt_of_not_le hlong]

theorem found?_eq_some {d : Disk} {loc : Location} {entry : Entry} :
    d.found? loc = some entry ↔ d.get? loc = some entry ∧ entry ≠ .deadLink := by
  simp [found?, Option.filter_eq_some_iff]

theorem entryAt_eq_some {d : Disk} {located : Except FileFault.Cause Location} {entry : Entry} :
    d.entryAt located = some entry ↔
      ∃ loc, located = .ok loc ∧ d.get? loc = some entry ∧ entry ≠ .deadLink := by
  cases located <;> simp [entryAt, found?_eq_some]

theorem follow_cons_eq_ok {d : Disk} {loc finish : Location} {step : String}
    {steps : List String} :
    d.follow loc (step :: steps) = .ok finish ↔
      d.get? loc = some .folder ∧ ¬nameBound < step.utf8ByteSize ∧
        d.follow (move loc step) steps = .ok finish := by
  rw [follow]
  cases d.get? loc with
  | none => simp
  | some entry =>
    cases entry with
    | folder => by_cases hlong : nameBound < step.utf8ByteSize <;> simp [hlong]
    | _ => simp

/-- Steps that lead somewhere pass folders only. -/
theorem follow_of_folders {d d' : Disk}
    (h : ∀ place, d.get? place = some .folder → d'.get? place = some .folder)
    {start finish : Location} {steps : List String} (hsteps : d.follow start steps = .ok finish) :
    d'.follow start steps = .ok finish := by
  induction steps generalizing start with
  | nil => exact hsteps
  | cons step steps ih =>
    obtain ⟨hstart, hshort, hrest⟩ := follow_cons_eq_ok.mp hsteps
    exact follow_cons_eq_ok.mpr ⟨h start hstart, hshort, ih hrest⟩

/-- What is put where there was no folder is on no way. -/
theorem follow_put {d : Disk} {loc : Location} (h : d.get? loc ≠ some .folder) (entry : Entry)
    {start finish : Location} {steps : List String} (hsteps : d.follow start steps = .ok finish) :
    (d.put loc entry).follow start steps = .ok finish := by
  refine follow_of_folders (fun place hplace => ?_) hsteps
  have hne : loc ≠ place := by
    rintro rfl
    exact h hplace
  rw [get?_put (ne_nil_of_get?_ne_folder h), if_neg hne, hplace]

theorem locate_put {d : Disk} {loc : Location} (h : d.get? loc ≠ some .folder) (entry : Entry)
    {p : Path} {place : Location} (hplace : d.locate p = .ok place) :
    (d.put loc entry).locate p = .ok place := by
  obtain ⟨u, hcheck, hfollow⟩ := bind_eq_ok.mp hplace
  exact bind_eq_ok.mpr ⟨u, hcheck, follow_put h entry hfollow⟩

theorem write_eq_ok {d d' : Disk} {p : Path} {bytes : List UInt8} :
    d.write p bytes = .ok d' ↔ ∃ loc, d.locate p = .ok loc ∧ d.TakesFile loc ∧
      d' = d.put loc (.file bytes) := by
  unfold write TakesFile
  cases d.locate p with
  | error cause => simp [fault]
  | ok loc =>
    cases hentry : d.get? loc with
    | none => simp [hentry, eq_comm]
    | some entry => cases entry <;> simp [hentry, fault, eq_comm]

theorem save_eq_ok {d d' : Disk} {p : Path} {bytes : List UInt8} :
    d.save p bytes = (d', .ok ()) ↔
      ∃ made, d.ensureFolders p.parent = (made, .ok ()) ∧ made.write p bytes = .ok d' := by
  unfold save
  obtain ⟨made, _ | ⟨⟩⟩ := d.ensureFolders p.parent
  · simp
  · cases hwrite : made.write p bytes <;> simp [hwrite]

theorem Writable.save {d : Disk} {p : Path} (h : d.Writable p) (bytes : List UInt8) :
    ∃ d', d.save p bytes = (d', .ok ()) ∧ d'.read p = .ok bytes := by
  obtain ⟨old, saved, hsaved⟩ := h
  obtain ⟨made, hmade, hwritten⟩ := save_eq_ok.mp hsaved
  obtain ⟨loc, hlocate, htakes, -⟩ := write_eq_ok.mp hwritten
  have hwrite : made.write p bytes = .ok (made.put loc (.file bytes)) :=
    write_eq_ok.mpr ⟨loc, hlocate, htakes, rfl⟩
  have hfolder := htakes.get?_ne_folder
  refine ⟨made.put loc (.file bytes), save_eq_ok.mpr ⟨made, hmade, hwrite⟩, ?_⟩
  unfold read
  rw [locate_put hfolder _ hlocate]
  simp [get?_put (ne_nil_of_get?_ne_folder hfolder)]

end SchemaFold.Disk
