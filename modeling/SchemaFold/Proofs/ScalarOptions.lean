import SchemaFold.Proofs.CommandLine
import SchemaFold.Proofs.Trimming

/-! Types of scalars as a command line gives them. Each value holds a name and a type around its
first equals sign. The first value that does not is reported; otherwise a name has the type that is
given for it last. No such type is blank, and so settings never complain of an empty one. -/

namespace SchemaFold

namespace Assoc

theorem ofPairs_concat {κ α : Type} [BEq κ] (pairs : List (κ × α)) (pair : κ × α) :
    ofPairs (pairs ++ [pair]) = put pair.1 pair.2 (ofPairs pairs) := by
  rw [ofPairs, List.foldl_append]
  rfl

theorem keys_put {κ α : Type} [DecidableEq κ] (key : κ) (value : α) (m : List (κ × α)) :
    (put key value m).map Prod.fst =
      if key ∈ m.map Prod.fst then m.map Prod.fst else m.map Prod.fst ++ [key] := by
  induction m with
  | nil => simp [put]
  | cons entry m ih =>
    by_cases hkey : entry.1 = key
    · simp [put, hkey]
    · have hput : put key value (entry :: m) = entry :: put key value m := by simp [put, hkey]
      rw [hput, List.map_cons, ih]
      by_cases hmem : key ∈ m.map Prod.fst <;> simp [hmem, Ne.symm hkey]

/-- Keys stand in the order in which they were set first. -/
theorem keys_ofPairs {κ α : Type} [DecidableEq κ] (pairs : List (κ × α)) :
    (ofPairs pairs).map Prod.fst = (pairs.map Prod.fst).eraseDups := by
  induction pairs using List.reverseRecOn with
  | nil => rfl
  | append_singleton pairs pair ih =>
    rw [ofPairs_concat, keys_put, ih, List.map_append, List.eraseDups_append]
    by_cases h : pair.1 ∈ pairs.map Prod.fst <;> simp [h, List.removeAll, List.eraseDups_cons]

theorem mem_of_mem_ofPairs {κ α : Type} [BEq κ] [LawfulBEq κ] {pairs : List (κ × α)}
    {entry : κ × α} (h : entry ∈ ofPairs pairs) : entry ∈ pairs := by
  induction pairs using List.reverseRecOn with
  | nil => exact h
  | append_singleton pairs pair ih =>
    rw [ofPairs_concat] at h
    rcases mem_put h with hlast | hbefore
    · simp [hlast]
    · exact List.mem_append_left _ (ih hbefore)

theorem get?_ofPairs (name : String) (pairs : List (String × String)) :
    get? name (ofPairs pairs) = Registry.lastType name pairs := by
  induction pairs using List.reverseRecOn with
  | nil => rfl
  | append_singleton pairs pair ih =>
    rw [ofPairs_concat, get?_put, ih]
    by_cases h : pair.1 = name <;> simp [Registry.lastType, h]

end Assoc

theorem Registry.lastType_eq_some {name type : String} {pairs : List (String × String)} :
    lastType name pairs = some type ↔
      ∃ earlier later, pairs = earlier ++ (name, type) :: later ∧
        ∀ pair ∈ later, pair.1 ≠ name := by
  simp only [lastType, Option.map_eq_some_iff, List.find?_eq_some_iff_append]
  constructor
  · rintro ⟨pair, ⟨hname, later, earlier, hsplit, hlater⟩, rfl⟩
    have hpair : pair = (name, pair.2) := by rw [← eq_of_beq hname]
    refine ⟨earlier.reverse, later.reverse, ?_, ?_⟩
    · rw [← hpair, ← List.reverse_reverse pairs, hsplit]
      simp
    · intro other hother
      simpa using hlater other (List.mem_reverse.mp hother)
  · rintro ⟨earlier, later, rfl, hlater⟩
    refine ⟨(name, type), ⟨beq_self_eq_true name, later.reverse, earlier.reverse, by simp, ?_⟩, rfl⟩
    intro other hother
    simpa using hlater other (List.mem_reverse.mp hother)

namespace Command

/-- A value that is no mapping: it has no equals sign, or nothing but white space before or after
the first one. -/
def IsMalformed (value : String) : Prop :=
  '=' ∉ value.toList ∨
    ∃ before after, value = before ++ "=" ++ after ∧ '=' ∉ before.toList ∧
      (Text.allBlank before = true ∨ Text.allBlank after = true)

theorem scalarMapping?_eq_none {value : String} :
    scalarMapping? value = none ↔ IsMalformed value := by
  have hsides : ∀ {before : String}, '=' ∉ before.toList → ∀ after,
      scalarMapping? (before ++ "=" ++ after) = none ↔
        Text.allBlank before = true ∨ Text.allBlank after = true := by
    intro before hbefore after
    rw [scalarMapping?_append hbefore, Text.isEmpty_trim, Text.isEmpty_trim]
    cases Text.allBlank before <;> cases Text.allBlank after <;> simp
  constructor
  · intro h
    by_cases hequals : '=' ∈ value.toList
    · obtain ⟨before, after, rfl, hbefore⟩ := exists_split hequals
      exact .inr ⟨before, after, rfl, hbefore, (hsides hbefore after).mp h⟩
    · exact .inl hequals
  · rintro (hequals | ⟨before, after, rfl, hbefore, hblank⟩)
    · exact scalarMapping?_of_not_mem hequals
    · exact (hsides hbefore after).mpr hblank

instance (value : String) : Decidable (IsMalformed value) :=
  decidable_of_iff _ scalarMapping?_eq_none

theorem scalarMappings_eq_error {values : List String} {value : String} :
    scalarMappings values = .error value ↔
      ∃ earlier later, values = earlier ++ value :: later ∧ (∀ v ∈ earlier, ¬IsMalformed v) ∧
        IsMalformed value := by
  simp only [scalarMappings, bind_pure_eq_error, mapM_eq_error]
  constructor
  · rintro ⟨earlier, v, later, rfl, hearlier, hv⟩
    cases hread : scalarMapping? v with
    | some pair => simp [hread] at hv
    | none =>
      have hvalue : v = value := by simpa [hread] using hv
      subst hvalue
      refine ⟨earlier, later, rfl, ?_, scalarMapping?_eq_none.mp hread⟩
      intro u hu hmalformed
      obtain ⟨pair, hpair⟩ := hearlier u hu
      simp [scalarMapping?_eq_none.mpr hmalformed] at hpair
  · rintro ⟨earlier, later, rfl, hearlier, hvalue⟩
    refine ⟨earlier, value, later, rfl, ?_, by rw [scalarMapping?_eq_none.mpr hvalue]⟩
    intro u hu
    have hread : scalarMapping? u ≠ none := mt scalarMapping?_eq_none.mp (hearlier u hu)
    obtain ⟨pair, hpair⟩ := Option.ne_none_iff_exists'.mp hread
    exact ⟨pair, by rw [hpair]⟩

end Command

namespace Settings

theorem cause_of_checkNames {names : List String} {cause : Cause}
    (h : checkNames names = .error cause) : ∃ name, cause = .invalidName name := by
  unfold checkNames at h
  split at h
  · cases h
    exact ⟨_, rfl⟩
  · contradiction

theorem checkScalars_ne_emptyType {scalars : List (String × String)}
    (h : ∀ entry ∈ scalars, Text.allBlank entry.2 = false) (name : String) :
    checkScalars scalars ≠ .error (.emptyType name) := by
  unfold checkScalars
  cases hnames : checkNames (scalars.map Prod.fst) with
  | error cause =>
    obtain ⟨other, rfl⟩ := cause_of_checkNames hnames
    simp
  | ok u =>
    have hfind : (scalars.find? fun entry => Text.allBlank entry.2) = none := by
      simpa [List.find?_eq_none] using h
    by_cases hfilter : (scalars.map Prod.fst).filter Scalar.isBuiltin = []
    · simp [hfilter, hfind]
    · simp [hfilter, throw_eq_error]

/-- Without a complaint that the type of a scalar is empty. -/
def FilledTypes {α : Type} (x : Checked α) : Prop :=
  ∀ c ∈ complaints x, ∀ name, c.cause ≠ .emptyType name

theorem FilledTypes.bind {α β : Type} {x : Checked α} {f : α → Checked β} (hx : FilledTypes x)
    (hf : ∀ a, x = .ok a → FilledTypes (f a)) : FilledTypes (x >>= f) := by
  cases x with
  | error cs => exact hx
  | ok a => exact hf a rfl

theorem filledTypes_ok {α : Type} (a : α) : FilledTypes (.ok a : Checked α) := by
  simp [FilledTypes, complaints]

theorem filledTypes_given {α : Type} {read : Given → Checked α} (h : ∀ g, FilledTypes (read g))
    (value : Option Given) (default : α) : FilledTypes (given value read default) := by
  cases value with
  | none => exact filledTypes_ok default
  | some g => exact h g

theorem filledTypes_single {α : Type} {field : Field} {place : Place} {cause : Cause}
    (h : ∀ name, cause ≠ .emptyType name) :
    FilledTypes (.error [⟨field, place, cause⟩] : Checked α) := by
  intro c hc
  rw [List.mem_singleton.mp hc]
  exact h

theorem filledTypes_checked {α : Type} {field : Field} {check : α → Except Cause Unit} {a : α}
    (h : ∀ name, check a ≠ .error (.emptyType name)) : FilledTypes (checked field check a) := by
  unfold checked
  cases hcheck : check a with
  | ok u => exact filledTypes_ok a
  | error cause =>
    apply filledTypes_single
    rintro name rfl
    exact h name hcheck

theorem filledTypes_checkNames (field : Field) (names : List String) :
    FilledTypes (checked field checkNames names) := by
  apply filledTypes_checked
  intro name h
  obtain ⟨other, hother⟩ := cause_of_checkNames h
  contradiction

theorem filledTypes_readText (field : Field) (g : Given) : FilledTypes (readText field g) := by
  cases g with
  | text s => exact filledTypes_ok s
  | _ => exact filledTypes_single (by simp)

theorem filledTypes_readOptionalText (field : Field) (g : Given) :
    FilledTypes (readOptionalText field g) := by
  cases g with
  | null => exact filledTypes_ok none
  | text s => exact filledTypes_ok (some s)
  | _ => exact filledTypes_single (by simp)

theorem filledTypes_readTexts {κ : Type} {complain : κ → Complaint}
    (h : ∀ k name, (complain k).cause ≠ .emptyType name) (entries : List (κ × Given)) :
    FilledTypes (readTexts complain entries) := by
  induction entries with
  | nil => exact filledTypes_ok []
  | cons entry entries ih =>
    obtain ⟨k, g⟩ := entry
    simp only [readTexts]
    split
    · exact filledTypes_ok _
    · rename_i hrest
      rwa [hrest] at ih
    · simpa [FilledTypes, complaints] using h k
    · rename_i hrest
      rw [hrest] at ih
      exact List.forall_mem_cons.mpr ⟨h k, ih⟩

theorem filledTypes_readSet (field : Field) (g : Given) : FilledTypes (readSet field g) := by
  cases g with
  | list items => exact (filledTypes_readTexts (by simp) _).bind fun texts _ => filledTypes_ok _
  | _ => exact filledTypes_single (by simp)

theorem filledTypes_names (field : Field) (value : Option Given) (default : List String) :
    FilledTypes (given value (readSet field) default >>= checked field checkNames) :=
  (filledTypes_given (filledTypes_readSet field) value default).bind fun names _ =>
    filledTypes_checkNames field names

/-- Only the scalars can be complained of for an empty type. -/
theorem filledTypes_ofDraft {d : Draft}
    (h : FilledTypes (given d.scalars readScalars [] >>= checked .scalars checkScalars)) :
    FilledTypes (ofDraft d) := by
  simp only [ofDraft]
  split
  · exact filledTypes_ok _
  · intro c hc
    simp only [complaints, List.mem_append] at hc
    rcases hc with (((((hc | hc) | hc) | hc) | hc) | hc) | hc
    · exact h c hc
    · exact filledTypes_names .handTyped d.handTyped _ c hc
    · exact filledTypes_names .operationRoots d.operationRoots _ c hc
    · exact filledTypes_given (filledTypes_readText .optionalMarker) _ _ c hc
    · exact filledTypes_given (filledTypes_readText .exportKeyword) _ _ c hc
    · exact filledTypes_given (filledTypes_readText .indent) _ _ c hc
    · exact filledTypes_given (filledTypes_readOptionalText .templateDir) _ _ c hc

theorem given_mapping (mapping : List (String × String)) :
    given (some (.mapping (mapping.map fun entry => (entry.1, .text entry.2)))) readScalars [] =
      .ok (Assoc.ofPairs mapping) :=
  Typed.given_scalars { scalars := some mapping }

theorem filledTypes_mapping {mapping : List (String × String)}
    (h : ∀ entry ∈ mapping, Text.allBlank entry.2 = false) (d : Draft) :
    FilledTypes (ofDraft { d with
      scalars := some (.mapping (mapping.map fun entry => (entry.1, .text entry.2))) }) := by
  apply filledTypes_ofDraft
  simp only [given_mapping, ok_bind]
  apply filledTypes_checked
  exact checkScalars_ne_emptyType fun entry hentry => h entry (Assoc.mem_of_mem_ofPairs hentry)

end Settings

namespace Command

/-- A mapping with the names of the pairs, in the order in which they come first, and with the type
that comes last for each of them. -/
structure Summarizes (mapping pairs : List (String × String)) : Prop where
  names : mapping.map Prod.fst = (pairs.map Prod.fst).eraseDups
  types : ∀ name type, Assoc.get? name mapping = some type ↔
    ∃ earlier later, pairs = earlier ++ (name, type) :: later ∧ ∀ pair ∈ later, pair.1 ≠ name

theorem summarizes_ofPairs (pairs : List (String × String)) :
    Summarizes (Assoc.ofPairs pairs) pairs where
  names := Assoc.keys_ofPairs pairs
  types name type := by rw [Assoc.get?_ofPairs, Registry.lastType_eq_some]

theorem IsMapping.not_isMalformed {value : String} {pair : String × String}
    (h : IsMapping value pair) : ¬IsMalformed value := by
  rw [← scalarMapping?_eq_none, scalarMapping?_eq_some.mpr h]
  simp

theorem IsMapping.filled {value : String} {pair : String × String} (h : IsMapping value pair) :
    Text.allBlank pair.2 = false := by
  obtain ⟨name, type, -, -, rfl, -, htype⟩ := h
  rw [ne_eq, Text.trim_eq_empty_iff, Bool.not_eq_true] at htype
  rw [(Text.stripped_trim type).allBlank_eq, htype]

/-- The name and the type that a value gives are what stands before and after its first equals sign,
without the white space at the ends. -/
def Gives (value : String) (pair : String × String) : Prop :=
  ∃ before after, value = before ++ "=" ++ after ∧ '=' ∉ before.toList ∧
    Text.Stripped before pair.1 ∧ Text.Stripped after pair.2

theorem IsMapping.gives {value : String} {pair : String × String} (h : IsMapping value pair) :
    Gives value pair := by
  obtain ⟨name, type, hvalue, hname, rfl, -, -⟩ := h
  exact ⟨name, type, hvalue, hname, Text.stripped_trim name, Text.stripped_trim type⟩

/-- Values for scalars are refused exactly if some value is malformed, with a message that shows the
first of these. Otherwise they give each name the type that comes last for it, and whatever the
other settings are, none of these types is complained of as empty. -/
theorem scalarMappings_first_fault_or_last_types (values : List String) :
    ((∃ value, scalarMappings values = .error value) ↔ ∃ value ∈ values, IsMalformed value) ∧
    (∀ message, (scalarMappings values).mapError mappingText = .error message ↔
      ∃ earlier value later, values = earlier ++ value :: later ∧
        (∀ v ∈ earlier, ¬IsMalformed v) ∧ IsMalformed value ∧
        message = "expected NAME=TYPE, got " ++ Text.quoted value) ∧
    ((∀ value ∈ values, ¬IsMalformed value) →
      ∃ pairs mapping, List.Forall₂ Gives values pairs ∧
        scalarMappings values = .ok mapping ∧ Summarizes mapping pairs ∧
        ∀ (draft : Settings.Draft) (complaints : List Settings.Complaint),
          Settings.ofDraft { draft with
            scalars := some (.mapping (mapping.map fun entry => (entry.1, .text entry.2))) } =
              .error complaints →
          ∀ c ∈ complaints, ∀ name, c.cause ≠ .emptyType name) := by
  refine ⟨⟨?_, ?_⟩, fun message => ⟨?_, ?_⟩, ?_⟩
  · rintro ⟨value, hvalue⟩
    obtain ⟨earlier, later, rfl, -, hmalformed⟩ := scalarMappings_eq_error.mp hvalue
    exact ⟨value, by simp, hmalformed⟩
  · rintro ⟨value, hmem, hmalformed⟩
    exact exists_scalarMappings_eq_error ⟨value, hmem, fun pair h => h.not_isMalformed hmalformed⟩
  · intro h
    cases hread : scalarMappings values with
    | ok mapping => simp [hread] at h
    | error value =>
      obtain ⟨earlier, later, hvalues, hearlier, hmalformed⟩ := scalarMappings_eq_error.mp hread
      have hmessage : mappingText value = message := by simpa [hread] using h
      exact ⟨earlier, value, later, hvalues, hearlier, hmalformed, hmessage.symm⟩
  · rintro ⟨earlier, value, later, hvalues, hearlier, hmalformed, rfl⟩
    rw [scalarMappings_eq_error.mpr ⟨earlier, later, hvalues, hearlier, hmalformed⟩]
    rfl
  · intro hvalues
    cases hread : scalarMappings values with
    | error value =>
      obtain ⟨earlier, later, rfl, -, hmalformed⟩ := scalarMappings_eq_error.mp hread
      exact absurd hmalformed (hvalues value (by simp))
    | ok mapping =>
      obtain ⟨pairs, hpairs, rfl⟩ := scalarMappings_eq_ok.mp hread
      have hfilled : ∀ entry ∈ Assoc.ofPairs pairs, Text.allBlank entry.2 = false := by
        intro entry hentry
        obtain ⟨value, -, hvalue⟩ := exists_mem_of_forall₂ hpairs (Assoc.mem_of_mem_ofPairs hentry)
        exact IsMapping.filled hvalue
      refine ⟨pairs, _, hpairs.imp fun _ _ => IsMapping.gives, rfl, summarizes_ofPairs pairs, ?_⟩
      intro draft complaints hrefused
      have h := Settings.filledTypes_mapping hfilled draft
      rwa [hrefused] at h

/-- A name with white space around it is the same name, and a type may hold an equals sign. The
second list has two malformed values, of which the first is reported. -/
theorem scalarMappings_first_fault_or_last_types_purse :
    (∀ value ∈ [" Purse =Coin", "Tide=number", "Purse=Map<a=b>\t"], ¬IsMalformed value) ∧
      (∃ pairs,
        List.Forall₂ Gives [" Purse =Coin", "Tide=number", "Purse=Map<a=b>\t"] pairs ∧
        scalarMappings [" Purse =Coin", "Tide=number", "Purse=Map<a=b>\t"] =
          .ok [("Purse", "Map<a=b>"), ("Tide", "number")] ∧
        Summarizes [("Purse", "Map<a=b>"), ("Tide", "number")] pairs) ∧
      (scalarMappings ["Purse=Coin", "Tide", " =number"]).mapError mappingText =
        .error ("expected NAME=TYPE, got " ++ Text.quoted "Tide") := by
  have hvalues : ∀ value ∈ [" Purse =Coin", "Tide=number", "Purse=Map<a=b>\t"],
      ¬IsMalformed value := by
    decide +kernel
  have hread : scalarMappings [" Purse =Coin", "Tide=number", "Purse=Map<a=b>\t"] =
      .ok [("Purse", "Map<a=b>"), ("Tide", "number")] := eq_ok_of_toOption (by decide +kernel)
  obtain ⟨-, -, hmaps⟩ := scalarMappings_first_fault_or_last_types
    [" Purse =Coin", "Tide=number", "Purse=Map<a=b>\t"]
  obtain ⟨pairs, mapping, hpairs, hmapping, hsummary, -⟩ := hmaps hvalues
  obtain ⟨-, hmessage, -⟩ := scalarMappings_first_fault_or_last_types
    ["Purse=Coin", "Tide", " =number"]
  rw [hread, Except.ok.injEq] at hmapping
  refine ⟨hvalues, ⟨pairs, hpairs, hread, hmapping ▸ hsummary⟩, ?_⟩
  refine (hmessage _).mpr ⟨["Purse=Coin"], "Tide", [" =number"], rfl, ?_, ?_, rfl⟩
  · decide +kernel
  · decide +kernel

end Command
end SchemaFold
