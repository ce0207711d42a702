import Mathlib.Data.List.Forall2
import SchemaFold.Proofs.Saving
import SchemaFold.Schema

/-! Reading schema files: what is in one file, and what is in several of them, read one after the
other until one cannot be read. -/

namespace SchemaFold.Schema

/-- The definitions in a file, or why they cannot be had: its path is too long to open it, the
system refuses to open it, its bytes are no text, or its text is no document. -/
def contents (file : File) : Except Cause Document :=
  if Disk.pathBound ≤ file.1.utf8ByteSize then .error (.unopened ⟨.nameTooLong, file.1⟩)
  else
    match file.2 with
    | .error lock => .error (.unopened ⟨.locked lock, file.1⟩)
    | .ok bytes =>
      match Text.Encoding.utf8.read bytes with
      | .error f => .error (.unreadable f)
      | .ok text => (definitions text).mapError fun e => .invalid e (e.position text)

theorem contents_of_read {path : String} {bytes : List UInt8} {text : String}
    (hread : Text.Encoding.utf8.read bytes = .ok text)
    (hshort : path.utf8ByteSize < Disk.pathBound) :
    contents (path, .ok bytes) =
      (definitions text).mapError fun e => .invalid e (e.position text) := by
  simp only [contents, hread, if_neg (Nat.not_le.mpr hshort)]

theorem contents_eq_ok {path : String} {bytes : List UInt8} {text : String} {document : Document}
    (h : definitions text = .ok document) (hread : Text.Encoding.utf8.read bytes = .ok text)
    (hshort : path.utf8ByteSize < Disk.pathBound) :
    contents (path, .ok bytes) = .ok document := by
  rw [contents_of_read hread hshort, h, mapError_ok]

/-- The file can be opened and this is its text. -/
def HasText (file : File) (text : String) : Prop :=
  ∃ bytes, file.2 = .ok bytes ∧ Text.Encoding.utf8.read bytes = .ok text

/-- The definitions of all files, one file after the other. -/
def Reads (files : List File) (document : Document) : Prop :=
  ∃ parts, List.Forall₂ (fun file part => contents file = .ok part) files parts ∧
    parts.flatten = document

/-- The fault is that of the first file whose definitions cannot be had. -/
def FirstFault (files : List File) (e : LoadError) : Prop :=
  ∃ before file after, files = before ++ file :: after ∧
    (∀ earlier ∈ before, ∃ part, contents earlier = .ok part) ∧
    contents file = .error e.cause ∧ e.source = baseName file.1

theorem reads_cons {file : File} {files : List File} {document : Document} :
    Reads (file :: files) document ↔
      ∃ part rest, contents file = .ok part ∧ Reads files rest ∧ part ++ rest = document := by
  constructor
  · rintro ⟨parts, hparts, rfl⟩
    cases hparts with
    | @cons _ part _ parts hpart hparts =>
      exact ⟨part, parts.flatten, hpart, ⟨parts, hparts, rfl⟩, rfl⟩
  · rintro ⟨part, rest, hpart, ⟨parts, hparts, rfl⟩, rfl⟩
    exact ⟨part :: parts, .cons hpart hparts, rfl⟩

theorem reads_singleton {file : File} {document : Document} :
    Reads [file] document ↔ contents file = .ok document := by
  rw [reads_cons]
  simp [Reads]

theorem firstFault_cons {file : File} {files : List File} {e : LoadError} :
    FirstFault (file :: files) e ↔
      (contents file = .error e.cause ∧ e.source = baseName file.1) ∨
        ∃ part, contents file = .ok part ∧ FirstFault files e := by
  constructor
  · rintro ⟨before, failing, after, hfiles, hbefore, hfailing⟩
    cases before with
    | nil =>
      cases hfiles
      exact .inl hfailing
    | cons earlier before =>
      cases hfiles
      obtain ⟨part, hpart⟩ := hbefore file (by simp)
      refine .inr ⟨part, hpart, before, failing, after, rfl, ?_, hfailing⟩
      exact fun f hf => hbefore f (by simp [hf])
  · rintro (hfailing | ⟨part, hpart, before, failing, after, rfl, hbefore, hfailing⟩)
    · exact ⟨[], file, files, rfl, by simp, hfailing⟩
    · refine ⟨file :: before, failing, after, rfl, ?_, hfailing⟩
      intro earlier hearlier
      rcases List.mem_cons.mp hearlier with rfl | hearlier
      · exact ⟨part, hpart⟩
      · exact hbefore earlier hearlier

/-- A file with a path that can be asked for, however long. -/
structure Spelled (file : File) : Prop where
  nonempty : file.1 ≠ ""
  noNull : '\x00' ∉ file.1.toList

theorem spelled_of_locateText {d : Disk} {path : String} {loc : Location}
    (h : d.locateText path = .ok loc) (content : Except Lock (List UInt8)) :
    Spelled (path, content) := by
  obtain ⟨⟨⟩, hcheck, -⟩ := bind_eq_ok.mp h
  obtain ⟨hnull, hne, -⟩ := Disk.checkPath_eq_ok.mp hcheck
  exact ⟨hne, hnull⟩

/-- A file that can be opened and holds text is read as that text. -/
theorem readFile_of_read {encoding : String} {file : File} {opened : Text.Encoding}
    {bytes : List UInt8} {text : String} (hopen : openFile encoding file = .ok (opened, bytes))
    (hread : opened.read bytes = .ok text) :
    (readFile encoding file).result =
      (definitions text).mapError
        fun e => .load ⟨baseName file.1, .invalid e (e.position text)⟩ := by
  simp only [readFile, hopen, hread, Traced.result_bind, Traced.result_ofExcept, ok_bind]
  cases definitions text with
  | error e => simp
  | ok document => cases hempty : document.isEmpty <;> simp [hempty]

theorem readFile_result {file : File} (h : Spelled file) :
    (readFile "utf-8" file).result =
      (contents file).mapError fun cause => .load ⟨baseName file.1, cause⟩ := by
  have hname : Text.Encoding.ofName "utf-8" = .ok .utf8 := rfl
  obtain ⟨path, content⟩ := file
  by_cases hlong : Disk.pathBound ≤ path.utf8ByteSize
  · have hcheck : Disk.checkPath path = .error .nameTooLong := by
      simp [Disk.checkPath, h.nonempty, h.noNull, hlong]
    simp [readFile, openFile, bytesOf, hname, hcheck, contents, hlong]
  · have hcheck : Disk.checkPath path = .ok () :=
      Disk.checkPath_eq_ok.mpr ⟨h.noNull, h.nonempty, Nat.lt_of_not_le hlong⟩
    cases content with
    | error lock => simp [readFile, openFile, bytesOf, hname, hcheck, contents, hlong]
    | ok bytes =>
      have hopen : openFile "utf-8" (path, .ok bytes) = .ok (.utf8, bytes) := by
        simp [openFile, bytesOf, hname, hcheck]
      cases hread : Text.Encoding.utf8.read bytes with
      | error f => simp [readFile, hopen, hread, contents, hlong]
      | ok text =>
        rw [readFile_of_read hopen hread, contents_of_read hread (Nat.lt_of_not_le hlong)]
        cases definitions text <;> rfl

theorem readFiles_result_cons {file : File} (h : Spelled file) (files : List File) :
    (readFiles "utf-8" (file :: files)).result = (do
      let part ← (contents file).mapError fun cause => .load ⟨baseName file.1, cause⟩
      return part ++ (← (readFiles "utf-8" files).result)) := by
  simp only [readFiles, Traced.result_bind, readFile_result h, Traced.result_pure]
  rfl

theorem readFiles_eq_ok {files : List File} (h : ∀ file ∈ files, Spelled file)
    {document : Document} :
    (readFiles "utf-8" files).result = .ok document ↔ Reads files document := by
  induction files generalizing document with
  | nil => simp [readFiles, Reads]
  | cons file files ih =>
    have hrest : ∀ rest, (readFiles "utf-8" files).result = .ok rest ↔ Reads files rest :=
      fun rest => ih fun f hf => h f (by simp [hf])
    rw [readFiles_result_cons (h file (by simp)), reads_cons]
    simp [bind_eq_ok, mapError_eq_ok, hrest]

theorem readFiles_eq_error {files : List File} (h : ∀ file ∈ files, Spelled file)
    {failure : Failure} :
    (readFiles "utf-8" files).result = .error failure ↔
      ∃ e, FirstFault files e ∧ failure = .load e := by
  induction files with
  | nil => simp [readFiles, FirstFault]
  | cons file files ih =>
    have hrest := ih fun f hf => h f (by simp [hf])
    rw [readFiles_result_cons (h file (by simp))]
    simp only [firstFault_cons]
    cases hfile : contents file with
    | error cause =>
      simp only [mapError_error, error_bind, Except.error.injEq, reduceCtorEq, false_and,
        exists_false, or_false]
      constructor
      · rintro rfl
        exact ⟨⟨baseName file.1, cause⟩, ⟨rfl, rfl⟩, rfl⟩
      · rintro ⟨⟨source, fault⟩, ⟨rfl, rfl⟩, rfl⟩
        rfl
    | ok part =>
      have hpart : ∀ e, (∃ p, Except.ok part = (Except.ok p : Except Cause Document) ∧
          FirstFault files e) ↔ FirstFault files e := by simp
      simp only [mapError_ok, ok_bind, reduceCtorEq, false_and, false_or, hpart, ← hrest]
      cases (readFiles "utf-8" files).result <;> simp

theorem FirstFault.message_eq {files : List File} {e : LoadError} (h : FirstFault files e)
    (hnames : ∀ file ∈ files, baseName file.1 ≠ "") :
    e.message = e.source ++ ": " ++ e.cause.message := by
  obtain ⟨before, file, after, rfl, -, -, hsource⟩ := h
  have hne : e.source ≠ "" := by
    rw [hsource]
    exact hnames file (by simp)
  simp [LoadError.message, hne]

end SchemaFold.Schema
