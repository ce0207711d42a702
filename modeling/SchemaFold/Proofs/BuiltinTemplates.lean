import Mathlib.Data.List.Nodup
import SchemaFold.Fold
import SchemaFold.Proofs.Outcome

/-! The templates that are built in, as they are once read, and the text that comes of filling them
in. What is filled in is written as it stands. -/

namespace SchemaFold

namespace TemplateSet

open Template

def aliasPieces : List Piece :=
  [.text "type ", .output (.name "name"), .text " = ",
    .output (.filtered (.name "members") "join" [.literal " | "])]

def interfacePieces : List Piece :=
  [.text "interface ", .output (.name "name"), .text " ",
    .branch (.name "interfaces")
      [.text "extends ", .output (.filtered (.name "interfaces") "join" [.literal ", "]), .text " "]
      [],
    .text "\x7b\n",
    .loop "field" (.name "fields")
      [.output (.name "indent"), .output (.name "field"), .text "\n"] [],
    .text "\x7d"]

def builtin : TemplateSet where
  interfaceText := ⟨interfaceFile, interfacePieces⟩
  aliasText := ⟨aliasFile, aliasPieces⟩

def aliasSegments : List Segment :=
  [.text "type ", .output [.word "name"], .text " = ",
    .output [.word "members", .mark '|', .word "join", .mark '(', .quote " | ", .mark ')']]

def interfaceSegments : List Segment :=
  [.text "interface ", .output [.word "name"], .text " ", .tag [.word "if", .word "interfaces"],
    .text "extends ",
    .output [.word "interfaces", .mark '|', .word "join", .mark '(', .quote ", ", .mark ')'],
    .text " ", .tag [.word "endif"], .text "\x7b\n",
    .tag [.word "for", .word "field", .word "in", .word "fields"], .output [.word "indent"],
    .output [.word "field"], .text "\n", .tag [.word "endfor"], .text "\x7d"]

-- To decode a long literal takes the kernel seconds, so its characters are read off it instead.
theorem toList_literal {s : String} {cs : List Char} (h : s = String.ofList cs) :
    s.toList = cs := by
  rw [h, String.toList_ofList]

theorem toList_append_eq {s t : String} {cs ds : List Char} (hs : s.toList = cs)
    (ht : t.toList = ds) : (s ++ t).toList = cs ++ ds := by
  rw [String.toList_append, hs, ht]

theorem segments_alias :
    segments (.text [] false) (dropLastNewline (Text.unifyNewlines builtinAlias.toList)) =
      .ok aliasSegments := by
  rw [builtinAlias, toList_literal rfl]
  exact eq_ok_of_toOption (by decide +kernel)

theorem segments_interface :
    segments (.text [] false) (dropLastNewline (Text.unifyNewlines builtinInterface.toList)) =
      .ok interfaceSegments := by
  have htext : builtinInterface.toList = _ := toList_append_eq (toList_append_eq (toList_append_eq
    (toList_literal rfl) (toList_literal rfl)) (toList_literal rfl)) (toList_literal rfl)
  rw [htext]
  exact eq_ok_of_toOption (by decide +kernel)

/-- A template is ready once its segments make up pieces that nothing is wrong with. -/
theorem load_of_segments {title source : String} {parts : List Segment} {pieces : List Piece}
    (hs : segments (.text [] false) (dropLastNewline (Text.unifyNewlines source.toList)) =
      .ok parts)
    (ha : assemble parts [] [] = .ok pieces) (hf : faultIn? false pieces = none)
    (hl : layoutFault? ⟨title, pieces⟩ = none) :
    Template.load title source = .ok ⟨title, pieces⟩ := by
  have hread : Template.read title source = .ok ⟨title, pieces⟩ := by
    simp [Template.read, hs, ha, hf]
  simp [Template.load, hread, hl]

theorem load_alias : Template.load aliasFile builtinAlias = .ok builtin.aliasText :=
  load_of_segments segments_alias rfl rfl (by decide +kernel)

theorem load_interface : Template.load interfaceFile builtinInterface = .ok builtin.interfaceText :=
  load_of_segments segments_interface rfl rfl (by decide +kernel)

/-- Whether the templates in effect have the texts that are built in. -/
def UsesBuiltin (d : Disk) (templateDir : Option String) : Prop :=
  ∃ p, (folder d templateDir).result = .ok p ∧
    source d p interfaceFile builtinInterface = .ok builtinInterface ∧
    source d p aliasFile builtinAlias = .ok builtinAlias

theorem usesBuiltin_of_no_folder {d : Disk} {templateDir : Option String}
    (h : (folder d templateDir).result = .ok none) : UsesBuiltin d templateDir :=
  ⟨none, h, rfl, rfl⟩

theorem readFrom_of_source {d : Disk} {p : Option Path} {file text : String} {t : Template}
    (hs : source d p file text = .ok text) (h : Template.load file text = .ok t) :
    readFrom d p file text = .ok t := by
  simp only [readFrom, hs, h, ok_bind, mapError_ok]

theorem UsesBuiltin.load {d : Disk} {templateDir : Option String}
    (h : UsesBuiltin d templateDir) : (TemplateSet.load d templateDir).result = .ok builtin := by
  obtain ⟨p, hp, hi, ha⟩ := h
  simp only [TemplateSet.load, Traced.result_bind, Traced.result_ofExcept, Traced.result_pure]
  rw [hp, ok_bind, readFrom_of_source hi load_interface, ok_bind,
    readFrom_of_source ha load_alias, ok_bind]

end TemplateSet

namespace Text

theorem foldl_addOrdered_of_lt {codes : List Nat} (h : ∀ code ∈ codes, code < 0x300)
    (done : List Nat) :
    codes.foldl (fun done code => addOrdered code done) done = codes.reverse ++ done := by
  induction codes generalizing done with
  | nil => rfl
  | cons code codes ih =>
    have hcode : combiningClass code = 0 := if_pos (h code (by simp))
    have hadd : addOrdered code done = code :: done := by
      cases done <;> simp [addOrdered, hcode]
    simp [hadd, ih fun code hc => h code (by simp [hc])]

theorem normalForm_of_ascii {s : String} (h : ∀ c ∈ s.toList, c.toNat < 0x80) :
    normalForm s = s.toList.map Char.toNat := by
  have hd : s.toList.flatMap decompose = s.toList.map Char.toNat := by
    rw [← List.flatMap_singleton' (s.toList.map Char.toNat), List.flatMap_map]
    exact List.flatMap_congr fun c hc => if_pos (h c hc)
  have hlt : ∀ code ∈ s.toList.map Char.toNat, code < 0x300 := by
    intro code hcode
    obtain ⟨c, hc, rfl⟩ := List.mem_map.mp hcode
    have := h c hc
    omega
  simp [normalForm, hd, foldl_addOrdered_of_lt hlt]

/-- Names in ASCII share a place only if they are the same. -/
theorem eq_of_compatible_ascii {s t : String} (hs : ∀ c ∈ s.toList, c.toNat < 0x80)
    (ht : ∀ c ∈ t.toList, c.toNat < 0x80) (h : compatible s t = true) : s = t := by
  simp only [compatible, normalForm_of_ascii hs, normalForm_of_ascii ht, Bool.or_eq_true,
    beq_iff_eq] at h
  rcases h with h | h
  · exact h
  · have hinj : Function.Injective Char.toNat := fun c d hcd => Char.toNat_inj.mp hcd
    exact String.toList_inj.mp (hinj.list_map h)

end Text

theorem find?_eq_some_of_unique {α : Type} {p : α → Bool} {l : List α} {a : α} (ha : a ∈ l)
    (hp : p a = true) (hu : ∀ x ∈ l, p x = true → x = a) : l.find? p = some a := by
  cases h : l.find? p with
  | none => exact absurd hp (List.find?_eq_none.mp h a ha)
  | some x => rw [hu x (List.mem_of_find?_eq_some h) (List.find?_some h)]

namespace Template

/-- The names that the built-in templates read. -/
def builtinNames : List String :=
  ["name", "members", "interfaces", "fields", "indent", "field"]

theorem builtinNames_ascii : ∀ s ∈ builtinNames, ∀ c ∈ s.toList, c.toNat < 0x80 := by
  have h : builtinNames.all (fun s => s.toList.all fun c => c.toNat < 0x80) = true := rfl
  simpa only [List.all_eq_true, decide_eq_true_eq] using h

/-- In a level whose names share no place, each name has its own value. -/
theorem Level.get?_of_mem {level : Level} (hnames : ∀ e ∈ level, e.name ∈ builtinNames)
    (hnd : (level.map Entry.name).Nodup) {e : Entry} (he : e ∈ level) {d : Datum}
    (hd : e.value = some d) : level.get? e.name = some d := by
  have hinj : ∀ x ∈ level, x.name = e.name → x = e :=
    fun x hx h => List.inj_on_of_nodup_map hnd hx he h
  have hfirst : level.find? (·.name == e.name) = some e :=
    find?_eq_some_of_unique he (by simp) fun x hx h => hinj x hx (by simpa using h)
  have hlast : level.reverse.find? (Text.compatible e.name ·.name) = some e := by
    apply find?_eq_some_of_unique (by simpa using he)
    · simp [Text.compatible]
    · intro x hx h
      have hx' : x ∈ level := by simpa using hx
      have heq : e.name = x.name := Text.eq_of_compatible_ascii
        (builtinNames_ascii _ (hnames e he)) (builtinNames_ascii _ (hnames x hx')) h
      exact hinj x hx' heq.symm
  simp [Level.get?, hfirst, hlast, hd]

theorem Scope.get_of_mem {s : Scope} {level : Level} {levels : List Level}
    (hs : s.levels = level :: levels) (hnames : ∀ e ∈ level, e.name ∈ builtinNames)
    (hnd : (level.map Entry.name).Nodup) {e : Entry} (he : e ∈ level) {d : Datum}
    (hd : e.value = some d) : s.get e.name = d := by
  simp [Scope.get, hs, Level.get?_of_mem hnames hnd he hd]

theorem forEach_texts {render : Nat → Value → Except Fault String} {f : String → String}
    (h : ∀ i t, render i (.text t) = .ok (f t)) (i : Nat) (texts : List String) :
    forEach render i (texts.map .text) = .ok (String.join (texts.map f)) := by
  induction texts generalizing i with
  | nil => rfl
  | cons t ts ih => simp [forEach, h, ih]

theorem renderAll_single {s : Scope} {p : Piece} {text : String} (hp : p.render s = .ok text) :
    renderAll s [p] = .ok text := by
  simp [renderAll, hp]

theorem render_of_level {t : Template} {context : List (String × Datum)} (level : Level)
    (htitle : makesMarkup t.title = false) (hspecial : special ownName t.pieces = [])
    (hlevel : (newNames [] (levelNames t.pieces)).map
      (fun name => ⟨name, .read, (context ++ Datum.standard).lookup name⟩) = level) :
    t.render context =
      renderAll { context := context ++ Datum.standard, levels := [level] } t.pieces := by
  simp only [Template.render, htitle, hspecial, ← hlevel, Scope.enter, Scope.names, List.map_nil,
    List.nil_append, List.flatMap_nil]

theorem filterNamed_join : filterNamed "join" = .ok .join := rfl

end Template

def Declarations.aliasText (name : String) (members : List String) : String :=
  "type " ++ name ++ " = " ++ " | ".intercalate members

def Declarations.interfaceText (indent name : String) (interfaces fields : List String) : String :=
  String.join
    ["interface ", name, " ",
      if interfaces.isEmpty then "" else "extends " ++ ", ".intercalate interfaces ++ " ",
      "\x7b\n", String.join (fields.map fun field => indent ++ field ++ "\n"), "\x7d"]

open Template Declarations

theorem display_texts (texts : List String) : (texts.map Value.text).map Value.display = texts := by
  simp [Value.display, Function.comp_def]

theorem apply_join (separator : String) (texts : List String) :
    Template.Filter.join.apply (.value (.entries (texts.map .text))) [.text separator] =
      .ok (.text (separator.intercalate texts)) := by
  have h : Template.Filter.join.apply (.value (.entries (texts.map .text))) [.text separator] =
      .ok (.text (separator.intercalate ((texts.map Value.text).map Value.display))) := rfl
  rw [h, display_texts]

theorem render_join {s : Scope} {name : String} {texts : List String} (hs : s.inMarkup = false)
    (separator : String) (h : s.get name = .value (.entries (texts.map .text))) :
    (Piece.output (.filtered (.name name) "join" [.literal separator])).render s =
      .ok (separator.intercalate texts) := by
  apply render_output hs
  simp only [Expr.eval, evalAll, h, filterNamed_join, apply_join, ok_bind, pure_eq_ok]

theorem makesMarkup_alias : makesMarkup TemplateSet.builtin.aliasText.title = false := by
  decide +kernel

theorem makesMarkup_interface : makesMarkup TemplateSet.builtin.interfaceText.title = false := by
  decide +kernel

theorem render_alias (name : String) (members : List String) :
    TemplateSet.builtin.aliasText.render
        [("name", .text name), ("members", .value (.entries (members.map .text)))] =
      .ok (aliasText name members) := by
  let values : Level :=
    [⟨"name", .read, some (.text name)⟩,
      ⟨"members", .read, some (.value (.entries (members.map .text)))⟩]
  have hin : ∀ e ∈ values, e.name ∈ builtinNames := by simp [values, builtinNames]
  have hnd : (values.map Entry.name).Nodup := by simp [values]
  refine (render_of_level values makesMarkup_alias rfl rfl).trans ?_
  generalize hs : Scope.mk _ _ _ = s
  have hplain : s.inMarkup = false := by rw [← hs]
  have hl : s.levels = [values] := by rw [← hs]
  have hname : s.get "name" = .text name :=
    Scope.get_of_mem (e := ⟨"name", .read, _⟩) hl hin hnd (by simp [values]) rfl
  have hmembers : s.get "members" = .value (.entries (members.map .text)) :=
    Scope.get_of_mem (e := ⟨"members", .read, _⟩) hl hin hnd (by simp [values]) rfl
  have h : renderAll s TemplateSet.aliasPieces = _ :=
    renderAll_cons (render_text s "type ") (renderAll_cons (render_name hplain hname)
      (renderAll_cons (render_text s " = ") (renderAll_single (render_join hplain " | " hmembers))))
  refine h.trans ?_
  simp only [aliasText, String.append_assoc]

/-- The line of a field inside the repetition over all fields. -/
theorem render_line {s : Scope} {indent field : String} (hplain : s.inMarkup = false)
    (hindent : s.context.lookup "indent" = some (.text indent))
    (hnames : s.names = ["name", "interfaces", "fields"]) :
    renderAll (s.enter [("field", .text field)] ["indent", "field"])
        [.output (.name "indent"), .output (.name "field"), .text "\n"] =
      .ok (indent ++ field ++ "\n") := by
  let values : Level :=
    [⟨"field", .given, some (.text field)⟩, ⟨"indent", .read, some (.text indent)⟩]
  have hin : ∀ e ∈ values, e.name ∈ builtinNames := by simp [values, builtinNames]
  have hnd : (values.map Entry.name).Nodup := by simp [values]
  have hnew : newNames ["field", "name", "interfaces", "fields"] ["indent", "field"] =
      ["indent"] := by
    decide
  generalize hs : s.enter _ _ = s'
  have hplain' : s'.inMarkup = false := by rw [← hs, Scope.inMarkup_enter, hplain]
  have hl : s'.levels = values :: s.levels := by
    rw [← hs]
    simp only [Scope.enter, hnames, hnew, hindent, values, List.map_cons, List.map_nil,
      List.singleton_append]
  have hi : s'.get "indent" = .text indent :=
    Scope.get_of_mem (e := ⟨"indent", .read, _⟩) hl hin hnd (by simp [values]) rfl
  have hf : s'.get "field" = .text field :=
    Scope.get_of_mem (e := ⟨"field", .given, _⟩) hl hin hnd (by simp [values]) rfl
  simp [renderAll, render_text, render_name hplain' hi, render_name hplain' hf,
    String.append_assoc]

theorem render_lines {s : Scope} {indent : String} {fields : List String}
    (hplain : s.inMarkup = false) (hindent : s.context.lookup "indent" = some (.text indent))
    (hnames : s.names = ["name", "interfaces", "fields"])
    (hfields : s.get "fields" = .value (.entries (fields.map .text))) :
    (Piece.loop "field" (.name "fields")
        [.output (.name "indent"), .output (.name "field"), .text "\n"] []).render s =
      .ok (String.join (fields.map fun field => indent ++ field ++ "\n")) := by
  have hitems : (Datum.value (.entries (fields.map .text))).items = .ok (fields.map .text) := rfl
  rw [Piece.render, Expr.eval, hfields, ok_bind, hitems, ok_bind]
  cases fields with
  | nil => rfl
  | cons field rest =>
    simp only [List.map_cons, List.isEmpty_cons, Bool.false_eq_true, if_false]
    rw [← List.map_cons]
    apply forEach_texts
    intro i t
    exact render_line hplain hindent hnames

theorem render_extends {s : Scope} {interfaces : List String} (hplain : s.inMarkup = false)
    (h : s.get "interfaces" = .value (.entries (interfaces.map .text))) :
    (Piece.branch (.name "interfaces")
        [.text "extends ", .output (.filtered (.name "interfaces") "join" [.literal ", "]),
          .text " "] []).render s =
      .ok (if interfaces.isEmpty then ""
        else "extends " ++ ", ".intercalate interfaces ++ " ") := by
  have hjoin := render_join hplain ", " h
  rw [Piece.render, Expr.eval, h, ok_bind]
  cases interfaces with
  | nil => rfl
  | cons i is =>
    simp [Datum.isTrue, Value.isEmpty, renderAll, render_text, hjoin, String.append_assoc]

theorem render_interface (indent name : String) (interfaces fields : List String) :
    TemplateSet.builtin.interfaceText.render
        [("name", .text name), ("interfaces", .value (.entries (interfaces.map .text))),
          ("fields", .value (.entries (fields.map .text))), ("indent", .text indent)] =
      .ok (interfaceText indent name interfaces fields) := by
  let values : Level := [⟨"name", .read, some (.text name)⟩,
    ⟨"interfaces", .read, some (.value (.entries (interfaces.map .text)))⟩,
    ⟨"fields", .read, some (.value (.entries (fields.map .text)))⟩]
  have hin : ∀ e ∈ values, e.name ∈ builtinNames := by simp [values, builtinNames]
  have hnd : (values.map Entry.name).Nodup := by simp [values]
  refine (render_of_level values makesMarkup_interface rfl rfl).trans ?_
  generalize hs : Scope.mk _ _ _ = s
  have hplain : s.inMarkup = false := by rw [← hs]
  have hl : s.levels = [values] := by rw [← hs]
  have hn : s.names = ["name", "interfaces", "fields"] := by rw [← hs]; rfl
  have hi : s.context.lookup "indent" = some (.text indent) := by rw [← hs]; rfl
  have hname : s.get "name" = .text name :=
    Scope.get_of_mem (e := ⟨"name", .read, _⟩) hl hin hnd (by simp [values]) rfl
  have hinterfaces : s.get "interfaces" = .value (.entries (interfaces.map .text)) :=
    Scope.get_of_mem (e := ⟨"interfaces", .read, _⟩) hl hin hnd (by simp [values]) rfl
  have hfields : s.get "fields" = .value (.entries (fields.map .text)) :=
    Scope.get_of_mem (e := ⟨"fields", .read, _⟩) hl hin hnd (by simp [values]) rfl
  have h : renderAll s TemplateSet.interfacePieces = _ :=
    renderAll_cons (render_text s "interface ") (renderAll_cons (render_name hplain hname)
      (renderAll_cons (render_text s " ") (renderAll_cons (render_extends hplain hinterfaces)
        (renderAll_cons (render_text s "\x7b\n") (renderAll_cons (render_lines hplain hi hn hfields)
          (renderAll_single (render_text s "\x7d")))))))
  refine h.trans ?_
  simp only [interfaceText, String.join_cons, String.join_nil, String.append_empty]

/-- The built-in templates, read from their sources, write whatever they are filled in with as it
stands: marks of markup are not replaced, and marks of templates are not read again. -/
theorem render_builtin_verbatim (disk : Disk) (name indent : String)
    (interfaces fields members : List String) :
    ∃ templates, (TemplateSet.load disk none).result = .ok templates ∧
      Template.load TemplateSet.interfaceFile TemplateSet.builtinInterface =
        .ok templates.interfaceText ∧
      Template.load TemplateSet.aliasFile TemplateSet.builtinAlias = .ok templates.aliasText ∧
      templates.interfaceText.render
          [("name", .text name), ("interfaces", .value (.entries (interfaces.map .text))),
            ("fields", .value (.entries (fields.map .text))), ("indent", .text indent)] =
        .ok ("interface " ++ name ++ " " ++
          (if interfaces = [] then "" else "extends " ++ ", ".intercalate interfaces ++ " ") ++
          "\x7b\n" ++ String.join (fields.map fun field => indent ++ field ++ "\n") ++ "\x7d") ∧
      templates.aliasText.render
          [("name", .text name), ("members", .value (.entries (members.map .text)))] =
        .ok ("type " ++ name ++ " = " ++ " | ".intercalate members) := by
  have hload : (TemplateSet.load disk none).result = .ok TemplateSet.builtin :=
    (TemplateSet.usesBuiltin_of_no_folder rfl).load
  refine ⟨TemplateSet.builtin, hload, TemplateSet.load_interface, TemplateSet.load_alias, ?_,
    render_alias name members⟩
  rw [render_interface]
  simp only [interfaceText, List.isEmpty_iff, String.join_cons, String.join_nil,
    String.append_empty, String.append_assoc]

-- The same pieces under a title for markup.
example : (Template.mk "alias.html" TemplateSet.aliasPieces).render
    [("name", .text "Page"), ("members", .value (.entries [.text "Map<a & b>"]))] =
      .ok "type Page = Map&lt;a &amp; b&gt;" :=
  eq_ok_of_toOption (by decide +kernel)

end SchemaFold
