import SchemaFold.Command.Run
import SchemaFold.Proofs.DeclaredTypes
import SchemaFold.Proofs.ResolvedPath

/-! The `generate` command does what a generator does that is made from its options. -/

namespace SchemaFold.Command

open GenerateRequest

/-- The name and the type that a value gives: what stands before and after its first equals sign,
without the white space around them. Neither may be empty. -/
def IsMapping (value : String) (pair : String × String) : Prop :=
  ∃ name type, value = name ++ "=" ++ type ∧ '=' ∉ name.toList ∧
    pair = (Text.trim name, Text.trim type) ∧ Text.trim name ≠ "" ∧ Text.trim type ≠ ""

theorem exists_split {value : String} (h : '=' ∈ value.toList) :
    ∃ before after, value = before ++ "=" ++ after ∧ '=' ∉ before.toList := by
  obtain ⟨before, after, hsplit, hbefore⟩ := List.eq_append_cons_of_mem h
  refine ⟨String.ofList before, String.ofList after, ?_, by simpa using hbefore⟩
  apply String.toList_injective
  simp [hsplit]

theorem takeWhile_append_equals {name : List Char} (h : '=' ∉ name) (type : List Char) :
    (name ++ '=' :: type).takeWhile (· != '=') = name := by
  have hname : ∀ c ∈ name, (c != '=') = true := by
    intro c hc
    simpa using fun heq : c = '=' => h (heq ▸ hc)
  rw [List.takeWhile_append_of_pos hname]
  simp

theorem scalarMapping?_append {name : String} (h : '=' ∉ name.toList) (type : String) :
    scalarMapping? (name ++ "=" ++ type) =
      if (Text.trim name).isEmpty || (Text.trim type).isEmpty then none
      else some (Text.trim name, Text.trim type) := by
  have hvalue : (name ++ "=" ++ type).toList = name.toList ++ '=' :: type.toList := by simp
  simp only [scalarMapping?, hvalue, takeWhile_append_equals h, List.drop_left,
    String.ofList_toList]

theorem scalarMapping?_of_not_mem {value : String} (h : '=' ∉ value.toList) :
    scalarMapping? value = none := by
  have hall : value.toList.takeWhile (· != '=') = value.toList := by
    rw [List.takeWhile_eq_self_iff]
    intro c hc
    simpa using fun heq : c = '=' => h (heq ▸ hc)
  simp [scalarMapping?, hall]

theorem scalarMapping?_eq_some {value : String} {pair : String × String} :
    scalarMapping? value = some pair ↔ IsMapping value pair := by
  constructor
  · intro h
    by_cases hequals : '=' ∈ value.toList
    · obtain ⟨name, type, hvalue, hname⟩ := exists_split hequals
      rw [hvalue, scalarMapping?_append hname] at h
      split at h
      · cases h
      · rename_i hfilled
        simp only [Bool.or_eq_true, String.isEmpty_iff, not_or] at hfilled
        exact ⟨_, _, hvalue, hname, (Option.some.inj h).symm, hfilled.1, hfilled.2⟩
    · rw [scalarMapping?_of_not_mem hequals] at h
      cases h
  · rintro ⟨name, type, rfl, hname, rfl, hfilled, hfilled'⟩
    rw [scalarMapping?_append hname]
    simp [hfilled, hfilled']

theorem scalarMappings_eq_ok {values : List String} {mapping : List (String × String)} :
    scalarMappings values = .ok mapping ↔
      ∃ pairs, List.Forall₂ IsMapping values pairs ∧ Assoc.ofPairs pairs = mapping := by
  simp only [scalarMappings, bind_eq_ok, mapM_eq_ok, pure_eq_ok, Except.ok.injEq]
  refine exists_congr fun pairs => and_congr_left fun _ => ⟨fun h => h.imp ?_, fun h => h.imp ?_⟩
  · intro value pair hvalue
    split at hvalue
    · rename_i hfound
      cases hvalue
      exact scalarMapping?_eq_some.mp hfound
    · contradiction
  · intro value pair hvalue
    rw [scalarMapping?_eq_some.mpr hvalue]

theorem exists_scalarMappings_eq_error {values : List String}
    (h : ∃ value ∈ values, ∀ pair, ¬IsMapping value pair) :
    ∃ value, scalarMappings values = .error value := by
  cases hmappings : scalarMappings values with
  | error value => exact ⟨value, rfl⟩
  | ok mapping =>
    obtain ⟨pairs, hpairs, -⟩ := scalarMappings_eq_ok.mp hmappings
    obtain ⟨value, hmem, hnone⟩ := h
    obtain ⟨pair, -, hvalue⟩ := exists_mem_of_forall₂ hpairs.flip hmem
    exact absurd hvalue (hnone pair)

/-- Settings from options. Sets that are not given keep their defaults. -/
def askedSettings (options : List (GenerateOption × String)) (pairs : List (String × String)) :
    Settings.Typed where
  scalars := some (Assoc.ofPairs pairs)
  handTyped := if values options .handTyped = [] then none else some (values options .handTyped)
  operationRoots := if values options .root = [] then none else some (values options .root)
  templateDir := some (value? options .templateDir)

/-- Hooks from options: a filter for a prefix and a header, unless these are empty. -/
def askedHooks (options : List (GenerateOption × String)) : Hooks where
  pre := ((value? options .excludePrefix).toList.filter (· ≠ "")).map fun text =>
    NameFilter.hook { excludePrefix := some text }
  post := ((value? options .header).toList.filter (· ≠ "")).map headerHook

/-- A command line whose options can be read, do not ask for help, and pass the checks of their
paths. Its values for scalars may still be of any form. -/
structure Accepted (disk : Disk) (arguments : List String)
    (options : List (GenerateOption × String)) (schema output : String) : Prop where
  parsed : GenerateOption.table.parse true arguments = .ok ⟨options, []⟩
  noHelp : ∀ option ∈ options, option.1 ≠ .help
  schemaGiven : value? options .schema = some schema
  schemaExists : disk.existsText schema = true
  outputGiven : value? options .output = some output
  outputSpelled : '\x00' ∉ output.toList
  templateDir : ∀ dir, value? options .templateDir = some dir →
    '\x00' ∉ dir.toList ∧ disk.isFileText dir = false
  readable : ∀ o ∈ [GenerateOption.schema, .output, .templateDir], ∀ path,
    value? options o = some path → disk.isDenied path = false

theorem run_generate (disk : Disk) (arguments : List String) :
    run disk ("generate" :: arguments) = generate disk arguments := by
  have hword : GroupOption.table.word "generate" = .ok .argument := rfl
  simp [run, afterOptions, OptionTable.parse, hword, command]

/-- The request that a command line with these mappings makes. -/
def request (options : List (GenerateOption × String)) (schema output : String)
    (pairs : List (String × String)) : GenerateRequest where
  schema := schema
  output := output
  scalars := Assoc.ofPairs pairs
  handTyped := values options .handTyped
  roots := values options .root
  header := value? options .header
  excludePrefix := value? options .excludePrefix
  templateDir := value? options .templateDir
  verbose := (values options .verbose) ≠ []

theorem hooks_request (options : List (GenerateOption × String)) (schema output : String)
    (pairs : List (String × String)) :
    (request options schema output pairs).hooks = askedHooks options := by
  have hfilled : ∀ text, (filled text).toList = text.toList.filter (· ≠ "") := by
    intro text
    cases text with
    | none => rfl
    | some text => by_cases h : text = "" <;> simp [filled, h]
  simp only [hooks, request, askedHooks, hfilled]

theorem ofDraft_request (options : List (GenerateOption × String)) (schema output : String)
    (pairs : List (String × String)) :
    Settings.ofDraft (request options schema output pairs).draft =
      Settings.ofDraft (askedSettings options pairs).draft := by
  have hset : ∀ names : List String, GenerateRequest.setOf names =
      (if names = [] then none else some names).map fun names => .list (names.map .text) := by
    intro names
    by_cases h : names = [] <;> simp [GenerateRequest.setOf, h]
  simp only [GenerateRequest.draft, request, Settings.Typed.draft, askedSettings, hset]
  cases value? options .templateDir <;> rfl

theorem forIn_check_eq_ok {l : List GenerateOption} {check : GenerateOption → Except Refusal Unit} :
    (forIn l PUnit.unit fun o _ => do
      check o
      pure (ForInStep.yield PUnit.unit)) = (.ok PUnit.unit : Except Refusal PUnit) ↔
      ∀ o ∈ l, check o = .ok () := by
  induction l with
  | nil => simp [pure, Except.pure]
  | cons o l ih =>
    rw [List.forIn_cons, List.forall_mem_cons, ← ih]
    cases hcheck : check o with
    | ok u => exact (and_iff_right rfl).symm
    | error e => exact ⟨nofun, nofun⟩

theorem forIn_check_eq_error {l : List GenerateOption}
    {check : GenerateOption → Except Refusal Unit} {failing : GenerateOption} {e : Refusal}
    (hmem : failing ∈ l) (hfails : check failing = .error e)
    (h : ∀ o ≠ failing, check o = .ok ()) :
    (forIn l PUnit.unit fun o _ => do
      check o
      pure (ForInStep.yield PUnit.unit)) = (.error e : Except Refusal PUnit) := by
  induction l with
  | nil => contradiction
  | cons o l ih =>
    by_cases ho : o = failing
    · rw [List.forIn_cons, ho, hfails]
      rfl
    · rw [List.forIn_cons, h o ho]
      exact ih (List.mem_of_ne_of_mem (Ne.symm ho) hmem)

theorem mem_checkOrder (options : List (GenerateOption × String)) (o : GenerateOption) :
    o ∈ checkOrder options := by
  have hall : o ∈ GenerateOption.all := by cases o <;> decide
  unfold checkOrder
  by_cases h : o ∈ (options.map Prod.fst).eraseDups
  · exact List.mem_append_left _ h
  · refine List.mem_append_right _ (List.mem_filter.mpr ⟨hall, ?_⟩)
    simpa using h

theorem follow_ne_nullByte (disk : Disk) (start : Location) (steps : List String) :
    disk.follow start steps ≠ .error .nullByte := by
  induction steps generalizing start with
  | nil => simp [Disk.follow]
  | cons step steps ih =>
    rw [Disk.follow]
    cases disk.get? start with
    | none => simp
    | some entry =>
      cases entry with
      | folder =>
        by_cases hlong : Disk.nameBound < step.utf8ByteSize
        · simp [hlong]
        · simpa [hlong] using ih _
      | _ => simp

/-- A path is refused for its characters only if one of them ends it too early. -/
theorem locateText_eq_nullByte (disk : Disk) {path : String} :
    disk.locateText path = .error .nullByte ↔ '\x00' ∈ path.toList := by
  unfold Disk.locateText Disk.checkPath
  by_cases h : '\x00' ∈ path.toList
  · have hnull : path.toList.contains '\x00' = true := by simpa using h
    simp only [hnull, h, if_true, error_bind]
  · have hnull : path.toList.contains '\x00' = false := by simpa using h
    rw [hnull, iff_false_right h]
    split
    · contradiction
    · split
      · simp
      · split
        · simp
        · exact follow_ne_nullByte _ _ _

theorem checkReadable_eq_ok {disk : Disk} {o : GenerateOption} {path : String} :
    checkReadable disk o path = .ok () ↔ disk.isDenied path = false := by
  unfold checkReadable
  cases disk.isDenied path <;> simp

theorem checkPath_eq_ok {disk : Disk} {o : GenerateOption} {path : String} :
    checkPath disk o path = .ok () ↔ '\x00' ∉ path.toList ∧ disk.isDenied path = false ∧
      (o = .schema → disk.existsText path = true) ∧
      (o = .templateDir → disk.isFileText path = false) := by
  rw [← locateText_eq_nullByte disk]
  unfold checkPath
  split
  · simp_all
  · split <;> simp_all [checkReadable_eq_ok]
  · split <;> simp_all [checkReadable_eq_ok]
  · simp_all [checkReadable_eq_ok]

namespace Accepted

variable {disk : Disk} {arguments : List String} {options : List (GenerateOption × String)}
  {schema output : String}

theorem check_eq_ok (h : Accepted disk arguments options schema output) {o : GenerateOption}
    (ho : o ≠ .scalar) : check disk options o = .ok () := by
  cases o with
  | schema =>
    have hspelled : '\x00' ∉ schema.toList := by
      rw [← locateText_eq_nullByte disk]
      intro hnull
      have hexists := h.schemaExists
      simp [Disk.existsText, Disk.entryAt, hnull] at hexists
    simp only [check, h.schemaGiven]
    exact checkPath_eq_ok.mpr ⟨hspelled, h.readable _ (by simp) _ h.schemaGiven,
      fun _ => h.schemaExists, by simp⟩
  | output =>
    simp only [check, h.outputGiven]
    exact checkPath_eq_ok.mpr ⟨h.outputSpelled, h.readable _ (by simp) _ h.outputGiven, by simp,
      by simp⟩
  | templateDir =>
    cases hdir : value? options .templateDir with
    | none => simp [check, hdir]
    | some dir =>
      obtain ⟨hspelled, hfile⟩ := h.templateDir dir hdir
      simp only [check, hdir]
      exact checkPath_eq_ok.mpr ⟨hspelled, h.readable _ (by simp) _ hdir, by simp, fun _ => hfile⟩
  | scalar => contradiction
  | _ => rfl

/-- Every command line that makes a request is accepted. -/
theorem of_ofParsed {parsed : Parsed GenerateOption} {r : GenerateRequest}
    (hparsed : GenerateOption.table.parse true arguments = .ok parsed)
    (hhelp : ∀ option ∈ parsed.options, option.1 ≠ .help) (h : ofParsed disk parsed = .ok r) :
    Accepted disk arguments parsed.options r.schema r.output := by
  obtain ⟨options, arguments'⟩ := parsed
  obtain ⟨_, hloop, h⟩ := bind_eq_ok.mp h
  have hcheck : ∀ o, check disk options o = .ok () := fun o =>
    forIn_check_eq_ok.mp hloop o (mem_checkOrder options o)
  obtain ⟨schema, hschema⟩ : ∃ schema, value? options .schema = some schema := by
    cases hvalue : value? options .schema with
    | none => simpa [check, hvalue] using hcheck .schema
    | some schema => exact ⟨schema, rfl⟩
  obtain ⟨output, houtput⟩ : ∃ output, value? options .output = some output := by
    cases hvalue : value? options .output with
    | none => simpa [check, hvalue] using hcheck .output
    | some output => exact ⟨output, rfl⟩
  have hschemaPath := hcheck .schema
  have houtputPath := hcheck .output
  simp only [check, hschema, houtput, checkPath_eq_ok] at hschemaPath houtputPath
  split at h
  · cases h
  · rename_i hnone
    rw [ne_eq, not_not] at hnone
    subst hnone
    obtain ⟨scalars, -, h⟩ := bind_eq_ok.mp h
    cases h
    simp only [hschema, houtput, Option.getD_some]
    exact {
      parsed := hparsed
      noHelp := hhelp
      schemaGiven := hschema
      schemaExists := hschemaPath.2.2.1 trivial
      outputGiven := houtput
      outputSpelled := houtputPath.1
      templateDir := by
        intro dir hdir
        have hdirPath := hcheck .templateDir
        simp only [check, hdir, checkPath_eq_ok] at hdirPath
        exact ⟨hdirPath.1, hdirPath.2.2.2 trivial⟩
      readable := by
        intro o ho path hpath
        have hpathCheck := hcheck o
        simp only [List.mem_cons, List.not_mem_nil, or_false] at ho
        rcases ho with rfl | rfl | rfl
        all_goals
          simp only [check, hpath, checkPath_eq_ok] at hpathCheck
          exact hpathCheck.2.1 }

theorem ofParsed_of_isMapping (h : Accepted disk arguments options schema output)
    {pairs : List (String × String)}
    (hpairs : List.Forall₂ IsMapping (values options .scalar) pairs) :
    ofParsed disk ⟨options, []⟩ = .ok (request options schema output pairs) := by
  have hmappings := scalarMappings_eq_ok.mpr ⟨pairs, hpairs, rfl⟩
  have hchecks : ∀ o ∈ checkOrder options, check disk options o = .ok () := by
    intro o _
    by_cases ho : o = .scalar
    · simp only [ho, check, hmappings]
    · exact h.check_eq_ok ho
  have hloop := forIn_check_eq_ok.mpr hchecks
  simp only [ofParsed, hloop, ok_bind, hmappings, h.schemaGiven, h.outputGiven]
  rfl

theorem ofParsed_of_error (h : Accepted disk arguments options schema output) {value : String}
    (hvalue : scalarMappings (values options .scalar) = .error value) :
    ofParsed disk ⟨options, []⟩ = .error (.misuse (.notMapping value)) := by
  have hfails : check disk options .scalar = .error (.misuse (.notMapping value)) := by
    simp only [check, hvalue]
  have hloop := forIn_check_eq_error (mem_checkOrder options .scalar) hfails
    fun o ho => h.check_eq_ok ho
  simp only [ofParsed, hloop, error_bind]

theorem any_help (h : Accepted disk arguments options schema output) :
    options.any (·.1 = .help) = false := by
  simpa using h.noHelp

theorem run_of_isMapping (h : Accepted disk arguments options schema output)
    {pairs : List (String × String)}
    (hpairs : List.Forall₂ IsMapping (values options .scalar) pairs) :
    run disk ("generate" :: arguments) = carryOut disk (request options schema output pairs) := by
  rw [run_generate, generate, h.parsed]
  simp only [h.any_help, h.ofParsed_of_isMapping hpairs, Bool.false_eq_true, if_false]

theorem run_of_error (h : Accepted disk arguments options schema output) {value : String}
    (hvalue : scalarMappings (values options .scalar) = .error value) :
    run disk ("generate" :: arguments) = generateMisuse (.notMapping value) disk := by
  rw [run_generate, generate, h.parsed]
  simp only [h.any_help, h.ofParsed_of_error hvalue, Bool.false_eq_true, if_false]

end Accepted

theorem exitCode_generateMisuse (m : Misuse) (disk : Disk) :
    (generateMisuse m disk).exitCode = 2 := rfl

theorem carryOut_of_settings_error {disk : Disk} {r : GenerateRequest}
    {complaints : List Settings.Complaint} (h : Settings.ofDraft r.draft = .error complaints) :
    carryOut disk r = generateMisuse (.settings complaints) disk := by
  simp only [carryOut, h]

theorem carryOut_of_generator (disk : Disk) {r : GenerateRequest} {schema output : String}
    {g : Generator} (hschema : r.schema = schema) (houtput : r.output = output)
    (h : Generator.ofDraft r.draft r.hooks = .ok g) :
    let made := g.generate disk (disk.resolveText schema) output
    (carryOut disk r).disk = made.1 ∧
      (∀ written, made.2.result = .ok written → (carryOut disk r).exitCode = 0) ∧
      ∀ f, made.2.result = .error f → (carryOut disk r).exitCode = 1 := by
  obtain ⟨settings, hsettings, hg⟩ := bind_eq_ok.mp h
  rw [mapError_eq_ok] at hsettings
  simp only [carryOut, hsettings, hg, hschema, houtput]
  cases (g.generate disk (disk.resolveText schema) output).2.result with
  | ok written => simp
  | error f => cases hreported : reported? f <;> simp [hreported]

/-- The path that the schema is loaded from, and the path that was given for it if no path is too
long. -/
def SchemaPath (disk : Disk) (schema path : String) : Prop :=
  path = disk.resolveText schema ∨
    path = schema ∧ disk.Proper ∧ disk.Rooted ∧ ∃ loc, disk.locateText schema = .ok loc ∧
      Schema.Short disk loc schema ∧ Schema.Short disk loc (disk.resolveText schema)

theorem SchemaPath.generate_eq {disk : Disk} {schema path : String}
    (h : SchemaPath disk schema path) (g : Generator) (output : String) :
    (g.generate disk (disk.resolveText schema) output).1 = (g.generate disk path output).1 ∧
      ∀ written, (g.generate disk (disk.resolveText schema) output).2.result = .ok written ↔
        (g.generate disk path output).2.result = .ok written := by
  rcases h with rfl | ⟨rfl, hproper, hrooted, loc, hloc, hgiven, hresolved⟩
  · exact ⟨rfl, fun _ => .rfl⟩
  · exact Generator.generate_resolveText hproper hrooted hloc hgiven hresolved output

theorem Accepted.run_of_settings_error {disk : Disk} {arguments : List String}
    {options : List (GenerateOption × String)} {schema output : String}
    (h : Accepted disk arguments options schema output) {pairs : List (String × String)}
    (hpairs : List.Forall₂ IsMapping (values options .scalar) pairs)
    {complaints : List Settings.Complaint}
    (hcomplaints : Settings.ofDraft (askedSettings options pairs).draft = .error complaints) :
    run disk ("generate" :: arguments) = generateMisuse (.settings complaints) disk := by
  rw [h.run_of_isMapping hpairs]
  exact carryOut_of_settings_error ((ofDraft_request _ _ _ _).trans hcomplaints)

theorem Accepted.run_of_generator {disk : Disk} {arguments : List String}
    {options : List (GenerateOption × String)} {schema output path : String}
    (h : Accepted disk arguments options schema output) (hpath : SchemaPath disk schema path)
    {pairs : List (String × String)}
    (hpairs : List.Forall₂ IsMapping (values options .scalar) pairs) {g : Generator}
    (hg : Generator.ofDraft (askedSettings options pairs).draft (askedHooks options) = .ok g) :
    let outcome := run disk ("generate" :: arguments)
    let made := g.generate disk path output
    outcome.disk = made.1 ∧ (∀ written, made.2.result = .ok written → outcome.exitCode = 0) ∧
      ∀ f, made.2.result = .error f → outcome.exitCode = 1 := by
  have hrequest : Generator.ofDraft (request options schema output pairs).draft
      (request options schema output pairs).hooks = .ok g := by
    rw [← hg]
    simp only [Generator.ofDraft, ofDraft_request, hooks_request]
  have hschema : (request options schema output pairs).schema = schema := rfl
  have houtput : (request options schema output pairs).output = output := rfl
  obtain ⟨hdisk, hok, herror⟩ := carryOut_of_generator disk hschema houtput hrequest
  obtain ⟨hsame, hresult⟩ := hpath.generate_eq g output
  rw [h.run_of_isMapping hpairs]
  refine ⟨hdisk.trans hsame, fun written hwritten => hok _ ((hresult written).mpr hwritten), ?_⟩
  intro f hf
  cases hmade : (g.generate disk (disk.resolveText schema) output).2.result with
  | error f' => exact herror f' hmade
  | ok written =>
    rw [(hresult written).mp hmade] at hf
    contradiction

/-- The command succeeds exactly if its values for scalars are well-formed, its settings are
accepted and the generator made from its options succeeds, and it leaves the disk that the generator
leaves. The generator is given the path of the schema in resolved form; the path as it was written
does as well, unless some path is too long. -/
theorem run_generate_refines {disk : Disk} {arguments : List String}
    {options : List (GenerateOption × String)} {schema output path : String}
    (h : Accepted disk arguments options schema output) (hpath : SchemaPath disk schema path) :
    let outcome := run disk ("generate" :: arguments)
    (outcome.exitCode = 0 ↔ ∃ pairs g written,
      List.Forall₂ IsMapping (values options .scalar) pairs ∧
        Generator.ofDraft (askedSettings options pairs).draft (askedHooks options) = .ok g ∧
        (g.generate disk path output).2.result = .ok written) ∧
    ((∃ value ∈ values options .scalar, ∀ pair, ¬IsMapping value pair) →
      outcome.exitCode = 2 ∧ outcome.disk = disk) ∧
    ∀ pairs, List.Forall₂ IsMapping (values options .scalar) pairs →
      (∀ complaints, Settings.ofDraft (askedSettings options pairs).draft = .error complaints →
        outcome.exitCode = 2 ∧ outcome.disk = disk) ∧
      ∀ g, Generator.ofDraft (askedSettings options pairs).draft (askedHooks options) = .ok g →
        outcome.disk = (g.generate disk path output).1 ∧
        ∀ f, (g.generate disk path output).2.result = .error f →
          outcome.exitCode = 1 ∧ ((∀ fault, f ≠ .file fault) → outcome.disk = disk) := by
  refine ⟨⟨?_, ?_⟩, ?_, ?_⟩
  · intro hexit
    cases hmappings : scalarMappings (values options .scalar) with
    | error value =>
      rw [h.run_of_error hmappings, exitCode_generateMisuse] at hexit
      omega
    | ok mapping =>
      obtain ⟨pairs, hpairs, -⟩ := scalarMappings_eq_ok.mp hmappings
      cases hsettings : Settings.ofDraft (askedSettings options pairs).draft with
      | error complaints =>
        rw [h.run_of_settings_error hpairs hsettings, exitCode_generateMisuse] at hexit
        omega
      | ok settings =>
        obtain ⟨registry, hg⟩ := Generator.ofDraft_of_accepted hsettings (askedHooks options)
        obtain ⟨-, -, herror⟩ := h.run_of_generator hpath hpairs hg
        cases hmade : (Generator.mk settings registry (askedHooks options)
            |>.generate disk path output).2.result with
        | error f =>
          rw [herror f hmade] at hexit
          omega
        | ok written => exact ⟨pairs, _, written, hpairs, hg, hmade⟩
  · rintro ⟨pairs, g, written, hpairs, hg, hmade⟩
    exact (h.run_of_generator hpath hpairs hg).2.1 written hmade
  · intro hbad
    obtain ⟨value, hvalue⟩ := exists_scalarMappings_eq_error hbad
    rw [h.run_of_error hvalue]
    exact ⟨rfl, rfl⟩
  · intro pairs hpairs
    refine ⟨?_, ?_⟩
    · intro complaints hcomplaints
      rw [h.run_of_settings_error hpairs hcomplaints]
      exact ⟨rfl, rfl⟩
    · intro g hg
      obtain ⟨hdisk, -, herror⟩ := h.run_of_generator hpath hpairs hg
      refine ⟨hdisk, fun f hf => ⟨herror f hf, fun hother => ?_⟩⟩
      rw [hdisk]
      exact Generator.generate_disk_of_failure hf hother

/-- Generating from a schema in one file. -/
theorem generate_of_single {g : Generator} {disk : Disk} (hd : disk.Proper)
    (hbuiltin : TemplateSet.UsesBuiltin disk g.settings.templateDir) {schema output : String}
    {file : Schema.File} {document : Document} {path : Path} {text content : String}
    (hselection : Schema.selection disk schema = [file])
    (hcontents : Schema.contents file = .ok document)
    (htarget : Generator.target disk output = .ok path) (hwritable : disk.Writable path)
    (htext : Declarations.moduleText g.settings.exportKeyword (g.entries document) = text)
    (hcontent : g.hooks.runPost path.name text = content) :
    (g.generate disk schema output).2.result = .ok (path, content) ∧
      (g.generate disk schema output).1.read path = .ok (Text.Utf8.encode content) := by
  have hload : (Schema.load disk schema).result = .ok document := by
    rw [Schema.load_eq_ok_iff hd, hselection, Schema.reads_singleton]
    exact ⟨by simp, hcontents⟩
  have hrender : (g.render disk document).result = .ok text := by
    rw [Generator.render_result hbuiltin, htext]
  have hcompose : (g.compose disk schema output).result = .ok (path, content) :=
    Generator.compose_eq_ok.mpr ⟨document, hload, path, htarget, text, hrender, by rw [hcontent]⟩
  exact Generator.generate_of_compose hcompose hwritable

/-- A command line with options of every form: with the value in the same word or in the next, and
with no value to speak of. -/
def moneyArguments : List String :=
  ["-s", "schema/../schema", "--output=out/", "--scalar", "Money = bigint", "--header", "// Money",
    "--exclude-prefix", ""]

def moneyOptions : List (GenerateOption × String) :=
  [(.schema, "schema/../schema"), (.output, "out/"), (.scalar, "Money = bigint"),
    (.header, "// Money"), (.excludePrefix, "")]

/-- The generator that they ask for. -/
def moneyWriter : Generator :=
  ⟨{ scalars := [("Money", "bigint")] }, ⟨[("Money", "bigint")], ["Date"]⟩,
    { post := [headerHook "// Money"] }⟩

theorem accepted_moneyArguments :
    Accepted Generator.moneyDisk moneyArguments moneyOptions "schema/../schema" "out/" where
  parsed := by
    have hschema : GenerateOption.table.word "-s" = .ok (.valued [] .schema "-s") := rfl
    have houtput : GenerateOption.table.word "--output=out/" = .ok (.options [(.output, "out/")]) :=
      rfl
    have hscalar : GenerateOption.table.word "--scalar" = .ok (.valued [] .scalar "--scalar") := rfl
    have hheader : GenerateOption.table.word "--header" = .ok (.valued [] .header "--header") := rfl
    have hexclude : GenerateOption.table.word "--exclude-prefix" =
        .ok (.valued [] .excludePrefix "--exclude-prefix") := rfl
    simp [moneyArguments, moneyOptions, OptionTable.parse, hschema, houtput, hscalar, hheader,
      hexclude, Parsed.addOptions]
  noHelp := by decide
  schemaGiven := rfl
  schemaExists := rfl
  outputGiven := rfl
  outputSpelled := by decide
  templateDir := nofun
  readable := by decide

theorem schemaPath_moneyDisk :
    SchemaPath Generator.moneyDisk "schema/../schema" "schema/../schema" := by
  have hbelow : Generator.moneyDisk.filesBelow ["schema"] =
      [(["api.graphql"], .ok (Text.Utf8.encode "scalar Money"))] := rfl
  refine .inr ⟨rfl, Generator.moneyDisk_proper, rfl, ["schema"], rfl, ⟨by decide, ?_⟩,
    ⟨by decide, ?_⟩⟩
  · rw [hbelow]
    decide
  · rw [hbelow]
    decide

theorem isMapping_money : IsMapping "Money = bigint" ("Money", "bigint") :=
  ⟨"Money ", " bigint", by decide, by decide, by decide, by decide, by decide⟩

theorem ofDraft_moneyOptions :
    Generator.ofDraft (askedSettings moneyOptions [("Money", "bigint")]).draft
      (askedHooks moneyOptions) = .ok moneyWriter := rfl

theorem generate_moneyWriter :
    let made := moneyWriter.generate Generator.moneyDisk "schema/../schema" "out/"
    made.2.result =
        .ok (⟨false, ["out", "schema.d.ts"]⟩, "// Money\n\nexport type Money = bigint") ∧
      made.1.read ⟨false, ["out", "schema.d.ts"]⟩ =
        .ok (Text.Utf8.encode "// Money\n\nexport type Money = bigint") := by
  obtain ⟨document, hdocument, htext⟩ : ∃ document,
      Schema.definitions "scalar Money" = .ok document ∧
      Declarations.moduleText "export" (moneyWriter.entries document) =
        "export type Money = bigint" :=
    exists_of_toOption_map (by decide +kernel)
  have hselection : Schema.selection Generator.moneyDisk "schema/../schema" =
      [("schema/../schema/api.graphql", .ok (Text.Utf8.encode "scalar Money"))] := by
    have hloc : Generator.moneyDisk.locateText "schema/../schema" = .ok ["schema"] := rfl
    exact Schema.selection_eq_of_perm Generator.moneyDisk_proper hloc rfl (.of_eq rfl)
      (List.pairwise_singleton _ _)
  have hbuiltin : TemplateSet.UsesBuiltin Generator.moneyDisk moneyWriter.settings.templateDir :=
    TemplateSet.usesBuiltin_of_no_folder rfl
  have hcontent : moneyWriter.hooks.runPost "schema.d.ts" "export type Money = bigint" =
      "// Money\n\nexport type Money = bigint" := by decide
  exact generate_of_single Generator.moneyDisk_proper hbuiltin hselection
    (Schema.contents_eq_ok hdocument rfl (by decide)) rfl ⟨[], _, rfl⟩ htext hcontent

theorem run_generate_refines_moneyDisk :
    let outcome := run Generator.moneyDisk ("generate" :: moneyArguments)
    Accepted Generator.moneyDisk moneyArguments moneyOptions "schema/../schema" "out/" ∧
      SchemaPath Generator.moneyDisk "schema/../schema" "schema/../schema" ∧
      outcome.exitCode = 0 ∧
      outcome.disk.read ⟨false, ["out", "schema.d.ts"]⟩ =
        .ok (Text.Utf8.encode "// Money\n\nexport type Money = bigint") := by
  obtain ⟨hmade, hread⟩ := generate_moneyWriter
  have hpairs : List.Forall₂ IsMapping (values moneyOptions .scalar) [("Money", "bigint")] :=
    .cons isMapping_money .nil
  obtain ⟨hexit, -, hrun⟩ := run_generate_refines accepted_moneyArguments schemaPath_moneyDisk
  obtain ⟨hdisk, -⟩ := (hrun _ hpairs).2 moneyWriter ofDraft_moneyOptions
  exact ⟨accepted_moneyArguments, schemaPath_moneyDisk,
    hexit.mpr ⟨_, _, _, hpairs, ofDraft_moneyOptions, hmade⟩, by rw [hdisk, hread]⟩

theorem accepted_paths {disk : Disk} {schema output : String}
    (hschema : disk.existsText schema = true) (houtput : '\x00' ∉ output.toList)
    (hreadable : ∀ path ∈ [schema, output], disk.isDenied path = false) :
    Accepted disk ["-s", schema, "-o", output] [(.schema, schema), (.output, output)] schema
      output where
  parsed := by
    have hs : GenerateOption.table.word "-s" = .ok (.valued [] .schema "-s") := rfl
    have ho : GenerateOption.table.word "-o" = .ok (.valued [] .output "-o") := rfl
    simp [OptionTable.parse, hs, ho, Parsed.addOptions]
  noHelp := by simp
  schemaGiven := rfl
  schemaExists := hschema
  outputGiven := rfl
  outputSpelled := houtput
  templateDir := nofun
  readable := by
    intro o ho path hpath
    apply hreadable
    cases o <;> simp_all [value?, values]

theorem accepted_scalarDisk {schema : String} (h : Schema.scalarDisk.locateText schema = .ok []) :
    Accepted Schema.scalarDisk ["-s", schema, "-o", "out.d.ts"]
      [(.schema, schema), (.output, "out.d.ts")] schema "out.d.ts" := by
  refine accepted_paths ?_ (by decide) ?_
  · rw [Disk.existsText, h]
    rfl
  · simp only [List.mem_cons, List.not_mem_nil, or_false]
    rintro path (rfl | rfl)
    · rw [Disk.isDenied, h]
      rfl
    · rfl

theorem ofDraft_paths (schema output : String) :
    let options := [(.schema, schema), (.output, output)]
    Generator.ofDraft (askedSettings options []).draft (askedHooks options) =
      .ok Generator.standard := rfl

/-- The file below the root of the disk is found by any path to the root, however long. -/
theorem run_scalarDisk {schema : String} (hloc : Schema.scalarDisk.locateText schema = .ok []) :
    let outcome := run Schema.scalarDisk ["generate", "-s", schema, "-o", "out.d.ts"]
    outcome.exitCode = 0 ∧
      outcome.disk.read ⟨false, ["out.d.ts"]⟩ = .ok (Text.Utf8.encode "export type A = any") := by
  obtain ⟨document, hdocument, htext⟩ : ∃ document,
      Schema.definitions "scalar A" = .ok document ∧
      Declarations.moduleText "export" (Generator.standard.entries document) =
        "export type A = any" :=
    exists_of_toOption_map (by decide +kernel)
  have hselection : Schema.selection Schema.scalarDisk "/" =
      [("/a.graphql", .ok (Text.Utf8.encode "scalar A"))] := by
    have hroot : Schema.scalarDisk.locateText "/" = .ok [] := rfl
    exact Schema.selection_eq_of_perm Schema.scalarDisk_proper hroot rfl (.of_eq rfl)
      (List.pairwise_singleton _ _)
  have hbuiltin :
      TemplateSet.UsesBuiltin Schema.scalarDisk Generator.standard.settings.templateDir :=
    TemplateSet.usesBuiltin_of_no_folder rfl
  have htarget : Generator.target Schema.scalarDisk "out.d.ts" = .ok ⟨false, ["out.d.ts"]⟩ := rfl
  have hcontent : Generator.standard.hooks.runPost "out.d.ts" "export type A = any" =
      "export type A = any" := rfl
  obtain ⟨hmade, hread⟩ := generate_of_single Schema.scalarDisk_proper hbuiltin hselection
    (Schema.contents_eq_ok hdocument rfl (by decide)) htarget ⟨[], _, rfl⟩ htext hcontent
  have hpath : SchemaPath Schema.scalarDisk schema "/" :=
    .inl (Disk.resolveText_of_locateText hloc).symm
  obtain ⟨hdisk, hok, -⟩ := (accepted_scalarDisk hloc).run_of_generator hpath .nil
    (ofDraft_paths schema "out.d.ts")
  exact ⟨hok _ hmade, by rw [hdisk, hread]⟩

theorem generate_scalarDisk_of_long (g : Generator) {schema : String} {file : Schema.File}
    (output : String) (hselection : Schema.selection Schema.scalarDisk schema = [file])
    (hlong : Disk.pathBound ≤ file.1.utf8ByteSize) (written : Path × String) :
    (g.generate Schema.scalarDisk schema output).2.result ≠ .ok written := by
  intro hwritten
  obtain ⟨document, hload, -⟩ := Generator.compose_eq_ok.mp (Generator.compose_of_generate hwritten)
  rw [Schema.load_eq_ok_iff Schema.scalarDisk_proper, hselection, Schema.reads_singleton,
    Schema.contents, if_pos hlong] at hload
  exact absurd hload.2 (by simp)

/-- A path that is too long for the files below it is not too long for the command, which resolves
it first. -/
theorem run_generates_on_long_path :
    let schema := Schema.dottedPath 2043
    let options := [(.schema, schema), (.output, "out.d.ts")]
    let outcome := run Schema.scalarDisk ["generate", "-s", schema, "-o", "out.d.ts"]
    Accepted Schema.scalarDisk ["-s", schema, "-o", "out.d.ts"] options schema "out.d.ts" ∧
      (∃ g, Generator.ofDraft (askedSettings options []).draft (askedHooks options) = .ok g ∧
        ∀ written, (g.generate Schema.scalarDisk schema "out.d.ts").2.result ≠ .ok written) ∧
      outcome.exitCode = 0 ∧
      outcome.disk.read ⟨false, ["out.d.ts"]⟩ = .ok (Text.Utf8.encode "export type A = any") := by
  have hn : 2 * 2043 + 1 < Disk.pathBound := by decide
  have hlong : Disk.pathBound ≤ (Schema.dottedPath 2043 ++ "/" ++ "a.graphql").utf8ByteSize := by
    have hname : "a.graphql".utf8ByteSize = 9 := rfl
    have hslash : "/".utf8ByteSize = 1 := rfl
    have hbound : Disk.pathBound = 4096 := rfl
    simp only [String.utf8ByteSize_append, Schema.size_dottedPath, hname, hslash, hbound]
    omega
  have hloc : Schema.scalarDisk.locateText (Schema.dottedPath 2043) = .ok [] :=
    Schema.locateText_dottedPath rfl hn
  have hfails (g : Generator) := generate_scalarDisk_of_long g "out.d.ts"
    (Schema.selection_scalarDisk hn) hlong
  exact ⟨accepted_scalarDisk hloc, ⟨_, ofDraft_paths _ _, hfails _⟩, run_scalarDisk hloc⟩

end SchemaFold.Command
