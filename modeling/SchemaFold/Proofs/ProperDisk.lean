import SchemaFold.Proofs.Generating
import SchemaFold.Proofs.PathText
import SchemaFold.Session

/-! Disks on which a location has one entry at most, and every name is one that a path can spell.
Whatever is asked for in a session, a disk like this stays one. -/

namespace SchemaFold

/-- Whether no part of a path has a slash in it. -/
def Path.Proper (p : Path) : Prop :=
  ∀ part ∈ p.parts, '/' ∉ part.toList

namespace Path

theorem proper_ofText (text : String) : (ofText text).Proper := by
  intro part hpart
  exact not_mem_of_mem_pathSteps (List.mem_filter.mp hpart).1

theorem Proper.parent {p : Path} (h : p.Proper) : p.parent.Proper :=
  fun part hpart => h part (List.dropLast_subset _ hpart)

theorem Proper.child {p : Path} (h : p.Proper) {name : String} (hname : '/' ∉ name.toList) :
    (p.child name).Proper := by
  intro part hpart
  rcases List.mem_append.mp hpart with hpart | hpart
  · exact h part hpart
  · rwa [List.mem_singleton.mp hpart]

theorem mem_intercalate_of_mem {sep : List Char} {blocks : List (List Char)} {b : List Char}
    (hb : b ∈ blocks) {c : Char} (hc : c ∈ b) : c ∈ sep.intercalate blocks := by
  induction blocks with
  | nil => contradiction
  | cons first blocks ih =>
    by_cases hrest : blocks = []
    · subst hrest
      rw [List.mem_singleton] at hb
      simpa [← hb] using hc
    · rw [List.intercalate_cons_of_ne_nil hrest]
      rcases List.mem_cons.mp hb with rfl | hb
      · simp [hc]
      · simp [ih hb]

theorem mem_text_of_mem {p : Path} {part : String} (hpart : part ∈ p.parts) {c : Char}
    (hc : c ∈ part.toList) : c ∈ p.text.toList := by
  have hparts : c ∈ ['/'].intercalate (p.parts.map String.toList) :=
    mem_intercalate_of_mem (List.mem_map_of_mem hpart) hc
  have hne : p.parts ≠ [] := List.ne_nil_of_mem hpart
  unfold text
  split
  · simp [hparts]
  · simp [hne, hparts]

end Path

namespace Disk

structure Proper (d : Disk) : Prop where
  distinct : (d.entries.map Prod.fst).Nodup
  named : ∀ e ∈ d.entries, ∀ name ∈ e.1, IsEntryName name
  here : ∀ name ∈ d.here, IsEntryName name

theorem Proper.get?_eq_some {d : Disk} (h : d.Proper) {loc : Location} {entry : Entry}
    (hloc : loc ≠ []) : d.get? loc = some entry ↔ (loc, entry) ∈ d.entries := by
  have hget : d.get? loc = Assoc.get? loc d.entries := by simp [get?, hloc]
  rw [hget]
  exact ⟨Assoc.mem_of_get?, Assoc.get?_of_mem h.distinct⟩

theorem Proper.put {d : Disk} (h : d.Proper) {loc : Location}
    (hloc : ∀ name ∈ loc, IsEntryName name) (entry : Entry) : (d.put loc entry).Proper where
  distinct := Assoc.nodup_put loc entry h.distinct
  named := by
    intro e he
    rcases Assoc.mem_put he with rfl | he
    · exact hloc
    · exact h.named e he
  here := h.here

theorem Proper.erase {d : Disk} (h : d.Proper) (loc : Location) : (d.erase loc).Proper where
  distinct := h.distinct.sublist (List.filter_sublist.map Prod.fst)
  named e he := h.named e (List.mem_filter.mp he).1
  here := h.here

theorem move_named {loc : Location} {step : String} (hloc : ∀ name ∈ loc, IsEntryName name)
    (hslash : '/' ∉ step.toList) (hnull : '\x00' ∉ step.toList) :
    ∀ name ∈ move loc step, IsEntryName name := by
  intro name hname
  unfold move at hname
  split at hname
  · exact hloc name hname
  · rename_i hdot
    split at hname
    · exact hloc name (List.dropLast_subset _ hname)
    · rcases List.mem_append.mp hname with hname | hname
      · exact hloc name hname
      · rw [List.mem_singleton.mp hname]
        refine ⟨?_, hslash, hnull⟩
        rintro rfl
        simp at hdot

theorem follow_named {d : Disk} {start finish : Location} {steps : List String}
    (hstart : ∀ name ∈ start, IsEntryName name)
    (hsteps : ∀ step ∈ steps, '/' ∉ step.toList ∧ '\x00' ∉ step.toList)
    (h : d.follow start steps = .ok finish) : ∀ name ∈ finish, IsEntryName name := by
  induction steps generalizing start with
  | nil =>
    cases h
    exact hstart
  | cons step steps ih =>
    obtain ⟨-, -, hrest⟩ := follow_cons_eq_ok.mp h
    have hstep := hsteps step (by simp)
    have hmoved := move_named hstart hstep.1 hstep.2
    exact ih hmoved (fun s hs => hsteps s (by simp [hs])) hrest

theorem Proper.origin_named {d : Disk} (h : d.Proper) (absolute : Bool) :
    ∀ name ∈ d.origin absolute, IsEntryName name := by
  unfold origin
  split
  · simp
  · exact h.here

theorem Proper.locate_named {d : Disk} (h : d.Proper) {p : Path} (hp : p.Proper) {loc : Location}
    (hloc : d.locate p = .ok loc) : ∀ name ∈ loc, IsEntryName name := by
  obtain ⟨⟨⟩, hcheck, hfollow⟩ := bind_eq_ok.mp hloc
  have hnull : ∀ part ∈ p.parts, '\x00' ∉ part.toList := fun part hpart hc =>
    (checkPath_eq_ok.mp hcheck).1 (Path.mem_text_of_mem hpart hc)
  exact follow_named (h.origin_named _) (fun part hpart => ⟨hp part hpart, hnull part hpart⟩)
    hfollow

theorem Proper.locateText_named {d : Disk} (h : d.Proper) {text : String} {loc : Location}
    (hloc : d.locateText text = .ok loc) : ∀ name ∈ loc, IsEntryName name := by
  obtain ⟨⟨⟩, hcheck, hfollow⟩ := bind_eq_ok.mp hloc
  refine follow_named (h.origin_named _) ?_ hfollow
  intro step hstep
  exact ⟨not_mem_of_mem_pathSteps hstep, fun hc =>
    (checkPath_eq_ok.mp hcheck).1 (mem_of_mem_pathSteps hstep hc)⟩

theorem Proper.write {d d' : Disk} (h : d.Proper) {p : Path} (hp : p.Proper) {bytes : List UInt8}
    (hd : d.write p bytes = .ok d') : d'.Proper := by
  obtain ⟨loc, hloc, -, rfl⟩ := write_eq_ok.mp hd
  exact h.put (h.locate_named hp hloc) _

theorem Proper.makeFolder {d d' : Disk} (h : d.Proper) {p : Path} (hp : p.Proper)
    (hd : d.makeFolder p = .ok d') : d'.Proper := by
  unfold Disk.makeFolder at hd
  split at hd
  · contradiction
  · rename_i loc hloc
    split at hd
    · contradiction
    · cases hd
      exact h.put (h.locate_named hp hloc) _

theorem Proper.ensureFolder {d : Disk} (h : d.Proper) {p : Path} (hp : p.Proper) :
    (d.ensureFolder p).1.Proper := by
  unfold Disk.ensureFolder
  split
  · exact h.makeFolder hp ‹_›
  · split <;> exact h

/-- The folders above are made first, if at all, and what was made before a fault stays. -/
theorem Proper.ensureFoldersFrom {d : Disk} (h : d.Proper) (absolute : Bool)
    {above : List String} (habove : ∀ name ∈ above, '/' ∉ name.toList) :
    (Disk.ensureFoldersFrom absolute above d).1.Proper := by
  induction above with
  | nil => exact h.ensureFolder (p := ⟨absolute, []⟩) (by simp [Path.Proper])
  | cons name above ih =>
    have hpath : (Path.mk absolute (name :: above).reverse).Proper := by
      intro part hpart
      exact habove part (List.mem_reverse.mp hpart)
    have hrest := ih fun n hn => habove n (by simp [hn])
    rw [Disk.ensureFoldersFrom]
    split
    · split
      · rename_i hmade
        rw [hmade] at hrest
        exact hrest.ensureFolder hpath
      · rename_i hmade
        rwa [hmade] at hrest
    · exact h.ensureFolder hpath

theorem Proper.ensureFolders {d : Disk} (h : d.Proper) {p : Path} (hp : p.Proper) :
    (d.ensureFolders p).1.Proper :=
  h.ensureFoldersFrom p.absolute fun name hname => hp name (List.mem_reverse.mp hname)

theorem Proper.save {d : Disk} (h : d.Proper) {p : Path} (hp : p.Proper) (bytes : List UInt8) :
    (d.save p bytes).1.Proper := by
  have hmade := h.ensureFolders hp.parent
  unfold Disk.save
  split
  · rename_i hfault
    rwa [hfault] at hmade
  · rename_i hok
    rw [hok] at hmade
    split
    · exact hmade.write hp ‹_›
    · exact hmade

theorem Proper.remove {d d' : Disk} (h : d.Proper) {p : Path} (hd : d.remove p = .ok d') :
    d'.Proper := by
  unfold Disk.remove at hd
  split at hd
  · contradiction
  · split at hd <;> cases hd <;> exact h.erase _

end Disk

theorem Generator.target_proper {disk : Disk} {output : String} {path : Path}
    (h : target disk output = .ok path) : path.Proper := by
  obtain ⟨isFolder, -, hpath⟩ := bind_eq_ok.mp h
  cases hpath
  have houtput := Path.proper_ofText output
  split
  · exact houtput.child (by decide)
  · exact houtput

theorem Generator.generate_proper (g : Generator) {disk : Disk} (h : disk.Proper)
    (schema output : String) : (g.generate disk schema output).1.Proper := by
  unfold Generator.generate
  cases hcomposed : (g.compose disk schema output).result with
  | error f => simpa [hcomposed] using h
  | ok composed =>
    obtain ⟨path, content⟩ := composed
    have hpath : path.Proper := by
      obtain ⟨d, -, found, hfound, text, -, hpair⟩ := compose_eq_ok.mp hcomposed
      cases hpair
      exact target_proper hfound
    have hsaved := h.save hpath (Text.Utf8.encode content)
    simp only [hcomposed]
    split
    · rename_i hsave
      rwa [hsave] at hsaved
    · rename_i hsave
      rwa [hsave] at hsaved

namespace Session

theorem withDisk_proper (s : Session) {r : Disk × Except FileFault Unit} (h : r.1.Proper) :
    (s.withDisk r).1.disk.Proper := by
  obtain ⟨disk, _ | ⟨⟩⟩ := r
  · exact h
  · exact h

theorem removeFile_proper {s : Session} (h : s.disk.Proper) (path : String) :
    (s.removeFile path).1.Proper := by
  unfold removeFile
  split
  · exact h.remove ‹_›
  · exact h

theorem withGenerator_proper {s : Session} (h : s.disk.Proper) (id : String)
    {act : Handle → Generator → Reply} (hact : ∀ handle g, (act handle g).1.disk.Proper) :
    (s.withGenerator id act).1.disk.Proper := by
  unfold withGenerator
  split
  · exact h
  · split
    · exact h
    · exact hact _ _

theorem run_proper {s : Session} (h : s.disk.Proper) (request : Request) :
    (s.run request).1.disk.Proper := by
  cases request with
  | write path bytes => exact s.withDisk_proper (h.save (Path.proper_ofText path) bytes)
  | makeFolder path => exact s.withDisk_proper (h.ensureFolders (Path.proper_ofText path))
  | remove path => exact s.withDisk_proper (removeFile_proper h path)
  | create id draft hooks =>
    simp only [run, create]
    split <;> exact h
  | share id draft owner =>
    simp only [run, share]
    split
    · exact h
    · exact withGenerator_proper h owner fun _ _ => h
  | register id name type =>
    refine withGenerator_proper h id fun _ _ => ?_
    split <;> exact h
  | addPre id hook => exact withGenerator_proper h id fun _ _ => h
  | addPost id hook => exact withGenerator_proper h id fun _ _ => h
  | render id source => exact withGenerator_proper h id fun _ _ => h
  | generate id schema output =>
    exact withGenerator_proper h id fun _ g => g.generate_proper h schema output
  | read path => exact h
  | list => exact h
  | load path encoding => exact h

/-- However long a session goes on, its disk stays proper. -/
theorem runAll_proper {s : Session} (h : s.disk.Proper) (requests : List Request) :
    (s.runAll requests).1.disk.Proper := by
  induction requests generalizing s with
  | nil => exact h
  | cons request requests ih => exact ih (run_proper h request)

end Session
end SchemaFold
