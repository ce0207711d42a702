import SchemaFold.Proofs.Saving

/-! Making folders. Each is made where nothing was, so all that was on the disk stays, and what is
new lies on the way that the path leads. -/

namespace SchemaFold.Disk

theorem isFolder_iff {d : Disk} {p : Path} :
    d.isFolder p = true ↔
      ∃ loc entry, d.locate p = .ok loc ∧ d.get? loc = some entry ∧ entry.isFolder = true := by
  rw [isFolder, Option.any_eq_true]
  simp only [entryAt_eq_some]
  constructor
  · rintro ⟨entry, ⟨loc, hloc, hget, -⟩, hfolder⟩
    exact ⟨loc, entry, hloc, hget, hfolder⟩
  · rintro ⟨loc, entry, hloc, hget, hfolder⟩
    refine ⟨entry, ⟨loc, hloc, hget, ?_⟩, hfolder⟩
    rintro rfl
    contradiction

theorem isFolder_put {d : Disk} {loc : Location} (h : d.TakesFile loc) (bytes : List UInt8)
    {p : Path} (hp : d.isFolder p = true) : (d.put loc (.file bytes)).isFolder p = true := by
  obtain ⟨place, entry, hplace, hget, hfolder⟩ := isFolder_iff.mp hp
  have hne : loc ≠ place := by
    rintro rfl
    refine h.get?_ne ?_ hget
    rintro old rfl
    contradiction
  refine isFolder_iff.mpr ⟨place, entry, locate_put h.get?_ne_folder _ hplace, ?_, hfolder⟩
  rw [get?_put (ne_nil_of_get?_ne_folder h.get?_ne_folder), if_neg hne, hget]

theorem makeFolder_eq_ok {d d' : Disk} {p : Path} :
    d.makeFolder p = .ok d' ↔
      ∃ loc, d.locate p = .ok loc ∧ d.get? loc = none ∧ d' = d.put loc .folder := by
  unfold makeFolder
  cases d.locate p with
  | error cause => simp [fault]
  | ok loc => cases hentry : d.get? loc <;> simp [hentry, fault, eq_comm]

/-- `d'` is `d` after some folders were made, one after the other, each denoted by a beginning of
the path `p`. -/
inductive Grown (p : Path) (d : Disk) : Disk → Prop
  | same : Grown p d d
  | make {d' : Disk} {front : List String} {loc : Location} (h : Grown p d d')
      (hfront : front <+: p.parts) (hloc : d'.locate ⟨p.absolute, front⟩ = .ok loc)
      (hnew : d'.get? loc = none) : Grown p d (d'.put loc .folder)

theorem get?_put_new {d : Disk} {loc : Location} (hnew : d.get? loc = none) (entry : Entry)
    (place : Location) :
    (d.put loc entry).get? place = if loc = place then some entry else d.get? place :=
  get?_put (ne_nil_of_get?_ne_folder (d := d) (by simp [hnew])) entry place

namespace Grown

variable {p : Path} {d d' : Disk}

theorem trans {d'' : Disk} (h : Grown p d d') (h' : Grown p d' d'') : Grown p d d'' := by
  induction h' with
  | same => exact h
  | make _ hfront hloc hnew ih => exact ih.make hfront hloc hnew

theorem get?_of_some (h : Grown p d d') {place : Location} {entry : Entry}
    (hplace : d.get? place = some entry) : d'.get? place = some entry := by
  induction h with
  | same => exact hplace
  | @make made front loc h hfront hloc hnew ih =>
    have hne : loc ≠ place := by
      rintro rfl
      rw [ih] at hnew
      contradiction
    rw [get?_put_new hnew, if_neg hne, ih]

/-- Nothing is made but folders. -/
theorem get?_eq_some (h : Grown p d d') {place : Location} {entry : Entry}
    (hentry : entry ≠ .folder) : d'.get? place = some entry ↔ d.get? place = some entry := by
  refine ⟨?_, h.get?_of_some⟩
  induction h with
  | same => exact id
  | @make made front loc h hfront hloc hnew ih =>
    intro hplace
    rw [get?_put_new hnew] at hplace
    split at hplace
    · exact absurd (Option.some.inj hplace).symm hentry
    · exact ih hplace

theorem here_eq (h : Grown p d d') : d'.here = d.here := by
  induction h with
  | same => rfl
  | make h hfront hloc hnew ih => exact ih

/-- A folder that was not there before is denoted by a beginning of the path. -/
theorem new_folder (h : Grown p d d') {place : Location} (hplace : d'.get? place = some .folder)
    (hbefore : d.get? place ≠ some .folder) :
    d.get? place = none ∧
      ∃ front, front <+: p.parts ∧ d'.locate ⟨p.absolute, front⟩ = .ok place := by
  induction h with
  | same => contradiction
  | @make made front loc h hfront hloc hnew ih =>
    have hkeep : ∀ {path : Path} {found : Location}, made.locate path = .ok found →
        (made.put loc .folder).locate path = .ok found :=
      fun hfound => locate_put (by simp [hnew]) .folder hfound
    by_cases heq : loc = place
    · subst heq
      refine ⟨?_, front, hfront, hkeep hloc⟩
      -- Nothing is removed, so where nothing is now there was nothing before.
      cases hold : d.get? loc with
      | none => rfl
      | some entry =>
        rw [h.get?_of_some hold] at hnew
        contradiction
    · rw [get?_put_new hnew, if_neg heq] at hplace
      obtain ⟨hnone, earlier, hearlier, hdenotes⟩ := ih hplace
      exact ⟨hnone, earlier, hearlier, hkeep hdenotes⟩

end Grown

theorem ensureFolder_grown {p : Path} {front : List String} (hfront : front <+: p.parts)
    (d : Disk) : Grown p d (d.ensureFolder ⟨p.absolute, front⟩).1 := by
  unfold ensureFolder
  split
  · rename_i d' hmake
    obtain ⟨loc, hloc, hnew, rfl⟩ := makeFolder_eq_ok.mp hmake
    exact Grown.same.make hfront hloc hnew
  · split <;> exact .same

theorem ensureFoldersFrom_grown {p : Path} {above : List String}
    (habove : above.reverse <+: p.parts) (d : Disk) :
    Grown p d (ensureFoldersFrom p.absolute above d).1 := by
  induction above with
  | nil => exact ensureFolder_grown (List.nil_prefix) d
  | cons name above ih =>
    have hrest : above.reverse <+: p.parts := by
      rw [List.reverse_cons] at habove
      exact (List.prefix_append _ _).trans habove
    have hmade := ih hrest
    rw [ensureFoldersFrom]
    split
    · split
      · rename_i hok
        rw [hok] at hmade
        exact hmade.trans (ensureFolder_grown habove _)
      · rename_i hfault
        rwa [hfault] at hmade
    · exact ensureFolder_grown habove d

/-- Whether or not it succeeds, all that making folders does is to make some. -/
theorem ensureFolders_grown (d : Disk) (p : Path) : Grown p d (d.ensureFolders p).1 :=
  ensureFoldersFrom_grown (by simp) d

theorem isFolder_ensureFolder {d d' : Disk} {p : Path} (h : d.ensureFolder p = (d', .ok ())) :
    d'.isFolder p = true := by
  unfold ensureFolder at h
  split at h
  · rename_i made hmake
    cases h
    obtain ⟨loc, hloc, hnew, rfl⟩ := makeFolder_eq_ok.mp hmake
    refine isFolder_iff.mpr ⟨loc, .folder, locate_put (by simp [hnew]) .folder hloc, ?_, rfl⟩
    rw [get?_put_new hnew, if_pos rfl]
  · split at h
    · rename_i hcond
      cases h
      simp only [Bool.and_eq_true] at hcond
      exact hcond.2
    · cases h

theorem isFolder_ensureFoldersFrom {absolute : Bool} {above : List String} {d d' : Disk}
    (h : ensureFoldersFrom absolute above d = (d', .ok ())) :
    d'.isFolder ⟨absolute, above.reverse⟩ = true := by
  cases above with
  | nil => exact isFolder_ensureFolder h
  | cons name above =>
    rw [ensureFoldersFrom] at h
    split at h
    · split at h
      · exact isFolder_ensureFolder h
      · cases h
    · exact isFolder_ensureFolder h

theorem isFolder_ensureFolders {d d' : Disk} {p : Path} (h : d.ensureFolders p = (d', .ok ())) :
    d'.isFolder p = true := by
  have hfolder := isFolder_ensureFoldersFrom h
  rwa [List.reverse_reverse] at hfolder

theorem ensureFoldersFrom_of_isFolder {absolute : Bool} {above : List String} {d : Disk}
    (h : d.isFolder ⟨absolute, above.reverse⟩ = true) :
    ensureFoldersFrom absolute above d = (d, .ok ()) := by
  obtain ⟨loc, entry, hloc, hget, -⟩ := isFolder_iff.mp h
  have hmake : d.makeFolder ⟨absolute, above.reverse⟩ =
      .error ⟨.exists, (Path.mk absolute above.reverse).text⟩ := by
    simp only [makeFolder, hloc, hget, fault]
  have hensure : d.ensureFolder ⟨absolute, above.reverse⟩ = (d, .ok ()) := by
    simp [ensureFolder, hmake, h]
  cases above with
  | nil => exact hensure
  | cons name above =>
    rw [ensureFoldersFrom]
    simp only [hmake, hensure]

/-- Folders that are there are not made again. -/
theorem ensureFolders_of_isFolder {d : Disk} {p : Path} (h : d.isFolder p = true) :
    d.ensureFolders p = (d, .ok ()) := by
  apply ensureFoldersFrom_of_isFolder
  rwa [List.reverse_reverse]

end SchemaFold.Disk
