import SchemaFold.Proofs.Outcome
import SchemaFold.Settings

/-! Which settings are accepted. Their names have to be names that a document can have, but a line
feed behind such a name is let through. -/

namespace SchemaFold

namespace Name

theorem accepted_iff (s : String) :
    accepted s = true ↔ ∃ n : Name, s = n.text ∨ s = n.text ++ "\n" := by
  constructor
  · intro h
    unfold accepted at h
    split at h
    · contradiction
    · rename_i c cs hs
      simp only [Bool.and_eq_true, Bool.or_eq_true, beq_iff_eq] at h
      obtain ⟨hc, hcs | hcs⟩ := h
      · have hvalid : wellFormed s.toList = true := by simp [hs, wellFormed, hc, hcs]
        exact ⟨⟨s, hvalid⟩, .inl rfl⟩
      · refine ⟨read c cs hc, .inr ?_⟩
        have hsplit := List.takeWhile_append_dropWhile (p := isContinue) (l := cs)
        rw [hcs] at hsplit
        rw [← String.toList_inj, String.toList_append, hs]
        simpa [read] using hsplit.symm
  · rintro ⟨n, rfl | rfl⟩
    · obtain ⟨c, cs, htext, hc, hcs⟩ := n.exists_cons
      simp [accepted, htext, hc, List.all_eq_true.mpr hcs]
    · obtain ⟨c, cs, htext, hc, hcs⟩ := n.exists_cons
      have hfeed : isContinue '\n' = false := by decide
      have hdrop : (cs ++ ['\n']).dropWhile isContinue = ['\n'] := by
        rw [List.dropWhile_append_of_pos hcs]
        simp [hfeed]
      simp [accepted, htext, hc, hdrop]

theorem append_feed_ne (n other : Name) : n.text ++ "\n" ≠ other.text := by
  intro h
  have hfeed : '\n' ∈ other.text.toList := by simp [← h]
  exact other.not_mem_of_not_isContinue (by decide) hfeed

end Name

theorem Scalar.isBuiltin_eq_false (name : String) :
    isBuiltin name = false ↔ name ∉ ["ID", "String", "Boolean", "Int", "Float"] := by
  rw [isBuiltin, Option.isSome_eq_false_iff, Option.isNone_iff_eq_none, Assoc.get?_eq_none]
  rfl

theorem Text.allBlank_eq_false (s : String) :
    allBlank s = false ↔ ∃ c ∈ s.toList, isBlank c = false := by
  simp [allBlank]

namespace Settings

theorem checkNames_eq_ok {names : List String} :
    checkNames names = .ok () ↔ ∀ name ∈ names, Name.accepted name = true := by
  unfold checkNames
  cases hfind : names.find? fun name => !Name.accepted name with
  | none => simpa using List.find?_eq_none.mp hfind
  | some name =>
    have hname := List.find?_some hfind
    simp only [reduceCtorEq, false_iff]
    intro hall
    simp [hall name (List.mem_of_find?_eq_some hfind)] at hname

theorem checkScalars_eq_ok {scalars : List (String × String)} :
    checkScalars scalars = .ok () ↔
      (∀ name ∈ scalars.map Prod.fst, Name.accepted name = true) ∧
        (∀ entry ∈ scalars, Scalar.isBuiltin entry.1 = false) ∧
        ∀ entry ∈ scalars, Text.allBlank entry.2 = false := by
  have hremapped : (scalars.map Prod.fst).filter Scalar.isBuiltin = [] ↔
      ∀ entry ∈ scalars, Scalar.isBuiltin entry.1 = false := by
    simp [List.filter_eq_nil_iff]
  have hblank : (scalars.find? fun entry => Text.allBlank entry.2) = none ↔
      ∀ entry ∈ scalars, Text.allBlank entry.2 = false := by
    simp [List.find?_eq_none]
  have hsteps : checkScalars scalars = .ok () ↔
      checkNames (scalars.map Prod.fst) = .ok () ∧
        (scalars.map Prod.fst).filter Scalar.isBuiltin = [] ∧
        (scalars.find? fun entry => Text.allBlank entry.2) = none := by
    unfold checkScalars
    cases hnames : checkNames (scalars.map Prod.fst) with
    | error cause => simp
    | ok u =>
      by_cases hfilter : (scalars.map Prod.fst).filter Scalar.isBuiltin = []
      · cases hfind : scalars.find? fun entry => Text.allBlank entry.2 with
        | none => simp [hfilter]
        | some entry => simp [hfilter, throw_eq_error]
      · simp [hfilter, throw_eq_error]
  rw [hsteps, checkNames_eq_ok, hremapped, hblank]

theorem checked_eq_ok {α : Type} {field : Field} {check : α → Except Cause Unit} {a b : α} :
    checked field check a = .ok b ↔ check a = .ok () ∧ a = b := by
  unfold checked
  cases check a <;> simp

/-- Settings are accepted field by field. -/
theorem ofDraft_eq_ok {d : Draft} {s : Settings} :
    ofDraft d = .ok s ↔
      (given d.scalars readScalars [] >>= checked .scalars checkScalars) = .ok s.scalars ∧
      (given d.handTyped (readSet .handTyped) ["Date"] >>= checked .handTyped checkNames) =
        .ok s.handTyped ∧
      (given d.operationRoots (readSet .operationRoots) ["Query", "Mutation", "Subscription"] >>=
        checked .operationRoots checkNames) = .ok s.operationRoots ∧
      given d.optionalMarker (readText .optionalMarker) "?" = .ok s.optionalMarker ∧
      given d.exportKeyword (readText .exportKeyword) "export" = .ok s.exportKeyword ∧
      given d.indent (readText .indent) "\t" = .ok s.indent ∧
      given d.templateDir (readOptionalText .templateDir) none = .ok s.templateDir := by
  constructor
  · intro h
    simp only [ofDraft] at h
    split at h
    · rename_i hscalars hhand hroots hmarker hkeyword hindent hdir
      cases h
      exact ⟨hscalars, hhand, hroots, hmarker, hkeyword, hindent, hdir⟩
    · contradiction
  · rintro ⟨hscalars, hhand, hroots, hmarker, hkeyword, hindent, hdir⟩
    simp only [ofDraft, Scalar.defaultHandTyped, hscalars, hhand, hroots, hmarker, hkeyword,
      hindent, hdir]

theorem checkScalars_of_ofDraft {draft : Draft} {s : Settings} (h : ofDraft draft = .ok s) :
    checkScalars s.scalars = .ok () := by
  obtain ⟨given, -, hchecked⟩ := bind_eq_ok.mp (ofDraft_eq_ok.mp h).1
  obtain ⟨hcheck, rfl⟩ := checked_eq_ok.mp hchecked
  exact hcheck

theorem keys_readTexts {κ : Type} {complain : κ → Complaint} {entries : List (κ × Given)}
    {texts : List (κ × String)} (h : readTexts complain entries = .ok texts) :
    texts.map Prod.fst = entries.map Prod.fst := by
  induction entries generalizing texts with
  | nil =>
    cases h
    rfl
  | cons entry entries ih =>
    obtain ⟨k, given⟩ := entry
    simp only [readTexts] at h
    split at h
    · rename_i s rest hrest
      cases h
      simp [ih hrest]
    all_goals contradiction

/-- No scalar has two types in settings that are accepted. -/
theorem nodup_scalars_of_ofDraft {draft : Draft} {s : Settings} (h : ofDraft draft = .ok s) :
    (s.scalars.map Prod.fst).Nodup := by
  obtain ⟨scalars, hgiven, hchecked⟩ := bind_eq_ok.mp (ofDraft_eq_ok.mp h).1
  obtain ⟨-, rfl⟩ := checked_eq_ok.mp hchecked
  cases hscalars : draft.scalars with
  | none =>
    rw [hscalars] at hgiven
    rw [← Except.ok.inj hgiven]
    exact List.nodup_nil
  | some g =>
    rw [hscalars] at hgiven
    cases g with
    | mapping entries =>
      have hkeys := keys_readTexts hgiven
      rw [hkeys]
      exact Assoc.nodup_ofPairs entries
    | _ => contradiction

theorem readTexts_texts {κ : Type} (complain : κ → Complaint) (texts : List (κ × String)) :
    readTexts complain (texts.map fun (k, s) => (k, .text s)) = .ok texts := by
  induction texts with
  | nil => rfl
  | cons entry texts ih => simp [readTexts, ih]

theorem readSet_texts (field : Field) (names : List String) :
    readSet field (.list (names.map .text)) = .ok names.eraseDups := by
  have hzip : (List.range (names.map Given.text).length).zip (names.map Given.text) =
      ((List.range names.length).zip names).map (Prod.map id .text) := by
    rw [List.length_map, List.zip_map_right]
  have hread : ∀ complain : Nat → Complaint,
      readTexts complain (((List.range names.length).zip names).map (Prod.map id .text)) =
        .ok ((List.range names.length).zip names) := fun complain => readTexts_texts complain _
  have hnames : ((List.range names.length).zip names).map Prod.snd = names :=
    List.map_snd_zip (by simp)
  simp only [readSet, hzip, hread, ok_bind, hnames, pure_eq_ok]

/-- What was given for each field, of the type that the field has; `none` asks for the default. -/
structure Typed where
  scalars : Option (List (String × String)) := none
  handTyped : Option (List String) := none
  operationRoots : Option (List String) := none
  optionalMarker : Option String := none
  exportKeyword : Option String := none
  indent : Option String := none
  templateDir : Option (Option String) := none

namespace Typed

def draft (t : Typed) : Draft where
  scalars := t.scalars.map fun pairs => .mapping (pairs.map fun (k, s) => (k, .text s))
  handTyped := t.handTyped.map fun names => .list (names.map .text)
  operationRoots := t.operationRoots.map fun names => .list (names.map .text)
  optionalMarker := t.optionalMarker.map .text
  exportKeyword := t.exportKeyword.map .text
  indent := t.indent.map .text
  templateDir := t.templateDir.map fun
    | some s => .text s
    | none => .null

/-- The types of the custom scalars. A name given twice has the type given last. -/
def mapping (t : Typed) : List (String × String) :=
  Assoc.ofPairs (t.scalars.getD [])

/-- All names that the settings speak of. -/
def names (t : Typed) : List String :=
  t.mapping.map Prod.fst ++ t.handTyped.getD ["Date"] ++
    t.operationRoots.getD ["Query", "Mutation", "Subscription"]

/-- Settings as they are documented: all names are names that a document can have, no built-in
scalar is given a type, and every type has some text. -/
structure Documented (t : Typed) : Prop where
  named : ∀ name ∈ t.names, ∃ n : Name, n.text = name
  custom : ∀ entry ∈ t.mapping, entry.1 ∉ ["ID", "String", "Boolean", "Int", "Float"]
  filled : ∀ entry ∈ t.mapping, ∃ c ∈ entry.2.toList, Text.isBlank c = false

theorem given_scalars (t : Typed) : given t.draft.scalars readScalars [] = .ok t.mapping := by
  cases hscalars : t.scalars with
  | none => simp [draft, mapping, given, hscalars, Assoc.ofPairs]
  | some pairs =>
    simp only [draft, mapping, given, hscalars, Option.map_some, Option.getD_some, readScalars]
    rw [Assoc.ofPairs_map, readTexts_texts]

theorem given_names (field : Field) (names : Option (List String)) {standard : List String}
    (hstandard : standard.eraseDups = standard) :
    given (names.map fun names => .list (names.map .text)) (readSet field) standard =
      .ok (names.getD standard).eraseDups := by
  cases names with
  | none => simp [given, hstandard]
  | some names => exact readSet_texts field names

theorem given_text (field : Field) (text : Option String) (standard : String) :
    given (text.map .text) (readText field) standard = .ok (text.getD standard) := by
  cases text <;> rfl

theorem given_dir (t : Typed) :
    given t.draft.templateDir (readOptionalText .templateDir) none =
      .ok (t.templateDir.getD none) := by
  cases hdir : t.templateDir with
  | none => simp [draft, hdir, given]
  | some dir => cases dir <;> simp [draft, hdir, given, readOptionalText, readText]

/-- The settings that these fields stand for, if they are accepted. -/
def settings (t : Typed) : Settings where
  scalars := t.mapping
  handTyped := (t.handTyped.getD ["Date"]).eraseDups
  operationRoots := (t.operationRoots.getD ["Query", "Mutation", "Subscription"]).eraseDups
  optionalMarker := t.optionalMarker.getD "?"
  exportKeyword := t.exportKeyword.getD "export"
  indent := t.indent.getD "\t"
  templateDir := t.templateDir.getD none

theorem names_accepted_iff (t : Typed) :
    (∀ name ∈ t.names, Name.accepted name = true) ↔
      (∀ name ∈ t.mapping.map Prod.fst, Name.accepted name = true) ∧
        (∀ name ∈ t.handTyped.getD ["Date"], Name.accepted name = true) ∧
        ∀ name ∈ t.operationRoots.getD ["Query", "Mutation", "Subscription"],
          Name.accepted name = true := by
  simp only [names, List.forall_mem_append, and_assoc]

/-- Of fields that have the right types, only the names and the types of scalars are checked. -/
theorem ofDraft_eq_ok_iff (t : Typed) (s : Settings) :
    ofDraft t.draft = .ok s ↔
      s = t.settings ∧ (∀ name ∈ t.names, Name.accepted name = true) ∧
        (∀ entry ∈ t.mapping, Scalar.isBuiltin entry.1 = false) ∧
        ∀ entry ∈ t.mapping, Text.allBlank entry.2 = false := by
  have hhand : given t.draft.handTyped (readSet .handTyped) ["Date"] =
      .ok t.settings.handTyped := given_names _ _ rfl
  have hroots : given t.draft.operationRoots (readSet .operationRoots)
      ["Query", "Mutation", "Subscription"] = .ok t.settings.operationRoots := given_names _ _ rfl
  have hmarker : given t.draft.optionalMarker (readText .optionalMarker) "?" =
      .ok t.settings.optionalMarker := given_text _ _ _
  have hkeyword : given t.draft.exportKeyword (readText .exportKeyword) "export" =
      .ok t.settings.exportKeyword := given_text _ _ _
  have hindent : given t.draft.indent (readText .indent) "\t" = .ok t.settings.indent :=
    given_text _ _ _
  rw [ofDraft_eq_ok, t.given_scalars, hhand, hroots, hmarker, hkeyword, hindent, t.given_dir,
    t.names_accepted_iff]
  simp only [ok_bind, checked_eq_ok, checkNames_eq_ok, checkScalars_eq_ok, Except.ok.injEq]
  obtain ⟨scalars, hand, roots, marker, keyword, indent, dir⟩ := s
  simp only [settings, List.mem_eraseDups, Settings.mk.injEq]
  grind

theorem Documented.no_feed {t : Typed} (h : t.Documented) :
    ¬∃ name ∈ t.names, ∃ n : Name, name = n.text ++ "\n" := by
  rintro ⟨name, hname, n, rfl⟩
  obtain ⟨other, hother⟩ := h.named _ hname
  exact n.append_feed_ne other hother.symm

/-- Settings are accepted where each name is one that a document can have, or such a name with a
line feed behind it, no built-in scalar is given a type and every type has some text. They are
documented to be accepted in the same way, but without the line feed, so the two differ only on
settings that are accepted with a name that ends in a line feed. -/
theorem ofDraft_documented_iff (t : Typed) :
    ((∃ s, ofDraft t.draft = .ok s) ↔
        (∀ name ∈ t.names, ∃ n : Name, name = n.text ∨ name = n.text ++ "\n") ∧
          (∀ entry ∈ t.mapping, entry.1 ∉ ["ID", "String", "Boolean", "Int", "Float"]) ∧
          ∀ entry ∈ t.mapping, ∃ c ∈ entry.2.toList, Text.isBlank c = false) ∧
      (((∃ s, ofDraft t.draft = .ok s) ↔ t.Documented) ↔
        ¬((∃ s, ofDraft t.draft = .ok s) ∧
          ∃ name ∈ t.names, ∃ n : Name, name = n.text ++ "\n")) := by
  have haccepted : (∃ s, ofDraft t.draft = .ok s) ↔
      (∀ name ∈ t.names, ∃ n : Name, name = n.text ∨ name = n.text ++ "\n") ∧
        (∀ entry ∈ t.mapping, entry.1 ∉ ["ID", "String", "Boolean", "Int", "Float"]) ∧
        ∀ entry ∈ t.mapping, ∃ c ∈ entry.2.toList, Text.isBlank c = false := by
    simp only [ofDraft_eq_ok_iff, Name.accepted_iff, Scalar.isBuiltin_eq_false,
      Text.allBlank_eq_false, exists_eq_left]
  refine ⟨haccepted, ?_, ?_⟩
  · rintro hsame ⟨hok, hfeed⟩
    exact (hsame.mp hok).no_feed hfeed
  · intro hfeed
    constructor
    · intro hok
      obtain ⟨hnames, hcustom, hfilled⟩ := haccepted.mp hok
      refine ⟨?_, hcustom, hfilled⟩
      intro name hname
      obtain ⟨n, htext | htext⟩ := hnames name hname
      · exact ⟨n, htext.symm⟩
      · exact absurd ⟨hok, name, hname, n, htext⟩ hfeed
    · rintro ⟨hnamed, hcustom, hfilled⟩
      refine haccepted.mpr ⟨?_, hcustom, hfilled⟩
      intro name hname
      obtain ⟨n, htext⟩ := hnamed name hname
      exact ⟨n, .inl htext.symm⟩

/-- A scalar's name with a line feed behind it is accepted, although no document has that name. -/
theorem ofDraft_accepts_feed :
    let t : Typed := { scalars := some [("Money\n", "string")] }
    (∃ s, ofDraft t.draft = .ok s) ∧ ¬t.Documented ∧ ∀ n : Name, n.text ≠ "Money\n" := by
  have hname : ∀ n : Name, n.text ≠ "Money\n" :=
    fun n h => Name.append_feed_ne ⟨"Money", rfl⟩ n h.symm
  refine ⟨⟨{ scalars := [("Money\n", "string")] }, rfl⟩, ?_, hname⟩
  intro h
  obtain ⟨n, hn⟩ := h.named "Money\n" (by decide)
  exact hname n hn

end Typed
end Settings
end SchemaFold
