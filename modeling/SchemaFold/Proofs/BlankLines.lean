import SchemaFold.Proofs.AliasMembers
import SchemaFold.Proofs.PathText

/-! Blank lines stand between declarations and nowhere else. If no text of the settings or of the
registry breaks a line, a module taken apart at its blank lines gives its declarations. -/

namespace SchemaFold

/-- The parts of a text between two line feeds in a row, from left to right. -/
def splitAtBlankLines : List Char → List (List Char)
  | [] => [[]]
  | '\n' :: '\n' :: cs => [] :: splitAtBlankLines cs
  | c :: cs => (splitAtBlankLines cs).modifyHead (c :: ·)

/-- There is something on every line. -/
def IsSolid (text : List Char) : Prop :=
  ∀ l ∈ splitAtChar '\n' text, ∃ c ∈ l, Text.isBlank c = false

structure IsLine (l : List Char) : Prop where
  unbroken : '\n' ∉ l
  filled : ∃ c ∈ l, Text.isBlank c = false

namespace IsSolid

variable {text l : List Char}

theorem of_line (hl : IsLine l) : IsSolid l := by
  rw [IsSolid, splitAtChar_of_not_mem hl.unbroken]
  simpa using hl.filled

theorem line_append (hl : IsLine l) (h : IsSolid text) : IsSolid (l ++ '\n' :: text) := by
  rw [IsSolid, splitAtChar_append, splitAtChar_of_not_mem hl.unbroken]
  intro l' hl'
  rcases List.mem_cons.mp hl' with rfl | hl'
  · exact hl.filled
  · exact h l' hl'

theorem nil_not_mem (h : IsSolid text) : [] ∉ splitAtChar '\n' text := by
  intro hnil
  obtain ⟨c, hc, -⟩ := h [] hnil
  contradiction

theorem no_blank_line (h : IsSolid text) : ¬['\n', '\n'] <:+: text := by
  rintro ⟨before, after, rfl⟩
  apply h.nil_not_mem
  have hsplit : before ++ ['\n', '\n'] ++ after = before ++ '\n' :: ([] ++ '\n' :: after) := by simp
  rw [hsplit, splitAtChar_append, splitAtChar_append]
  simp [splitAtChar]

theorem head_ne (h : IsSolid text) : text.head? ≠ some '\n' := by
  intro hhead
  obtain ⟨rest, rfl⟩ := List.head?_eq_some_iff.mp hhead
  apply h.nil_not_mem
  simp [splitAtChar]

theorem getLast_ne (h : IsSolid text) : text.getLast? ≠ some '\n' := by
  intro hlast
  obtain ⟨front, rfl⟩ := List.getLast?_eq_some_iff.mp hlast
  apply h.nil_not_mem
  rw [splitAtChar_append]
  simp [splitAtChar]

theorem prepend {front : List Char} (hfront : '\n' ∉ front) (h : IsSolid text) :
    IsSolid (front ++ text) := by
  induction front with
  | nil => exact h
  | cons c front ih =>
    simp only [List.mem_cons, not_or] at hfront
    have hc : (c == '\n') = false := by simpa using Ne.symm hfront.1
    have hrest := ih hfront.2
    obtain ⟨first, rest, hsplit⟩ :=
      List.exists_cons_of_ne_nil (splitAtChar_ne_nil '\n' (front ++ text))
    simp only [IsSolid, List.cons_append, splitAtChar, hc, hsplit] at hrest ⊢
    intro l hl
    rcases List.mem_cons.mp hl with rfl | hl
    · obtain ⟨d, hd, hblank⟩ := hrest first List.mem_cons_self
      exact ⟨d, List.mem_cons_of_mem _ hd, hblank⟩
    · exact hrest l (List.mem_cons_of_mem _ hl)

end IsSolid

theorem splitAtBlankLines_cons {c : Char} {cs : List Char} (h : ¬['\n', '\n'] <+: c :: cs) :
    splitAtBlankLines (c :: cs) = (splitAtBlankLines cs).modifyHead (c :: ·) := by
  rw [splitAtBlankLines]
  rintro rest rfl rfl
  exact h ⟨rest, rfl⟩

theorem splitAtBlankLines_of_no_blank_line {text : List Char} (h : ¬['\n', '\n'] <:+: text) :
    splitAtBlankLines text = [text] := by
  induction text with
  | nil => rfl
  | cons c cs ih =>
    have hrest : ¬['\n', '\n'] <:+: cs :=
      fun hwithin => h (hwithin.trans (List.suffix_cons c cs).isInfix)
    rw [splitAtBlankLines_cons fun hstart => h hstart.isInfix, ih hrest]
    rfl

theorem splitAtBlankLines_append {text : List Char} (h : ¬['\n', '\n'] <:+: text)
    (hlast : text.getLast? ≠ some '\n') (rest : List Char) :
    splitAtBlankLines (text ++ '\n' :: '\n' :: rest) = text :: splitAtBlankLines rest := by
  induction text with
  | nil => rw [List.nil_append, splitAtBlankLines]
  | cons c cs ih =>
    have hrest : ¬['\n', '\n'] <:+: cs :=
      fun hwithin => h (hwithin.trans (List.suffix_cons c cs).isInfix)
    -- A line feed at the end of the text would pair up with the first of the two.
    have hstart : ¬['\n', '\n'] <+: c :: (cs ++ '\n' :: '\n' :: rest) := by
      rintro ⟨tail, htail⟩
      cases cs with
      | nil =>
        obtain rfl : '\n' = c := (List.cons.inj htail).1
        exact hlast rfl
      | cons d ds =>
        simp only [List.cons_append, List.nil_append, List.cons.injEq] at htail
        obtain ⟨rfl, rfl, -⟩ := htail
        exact h ⟨[], ds, rfl⟩
    have hlast' : cs.getLast? ≠ some '\n' := by
      intro hcs
      apply hlast
      rw [List.getLast?_cons, hcs]
      rfl
    rw [List.cons_append, splitAtBlankLines_cons hstart, ih hrest hlast']
    rfl

theorem splitAtBlankLines_intercalate {blocks : List (List Char)} (hne : blocks ≠ [])
    (h : ∀ b ∈ blocks, IsSolid b) :
    splitAtBlankLines (['\n', '\n'].intercalate blocks) = blocks := by
  induction blocks with
  | nil => contradiction
  | cons b blocks ih =>
    have hb := h b List.mem_cons_self
    by_cases hblocks : blocks = []
    · rw [hblocks, List.intercalate_singleton, splitAtBlankLines_of_no_blank_line hb.no_blank_line]
    · have hrest := ih hblocks fun b' hb' => h b' (List.mem_cons_of_mem _ hb')
      have htext : ['\n', '\n'].intercalate (b :: blocks) =
          b ++ '\n' :: '\n' :: ['\n', '\n'].intercalate blocks := by
        simp [List.intercalate_cons_of_ne_nil hblocks]
      rw [htext, splitAtBlankLines_append hb.no_blank_line hb.getLast_ne, hrest]

namespace Declarations

theorem mem_texts {entries : List Value} {s : String} : s ∈ texts entries ↔ .text s ∈ entries := by
  simp only [texts, List.mem_filterMap]
  constructor
  · rintro ⟨v, hv, hs⟩
    cases v with
    | text t =>
      cases hs
      exact hv
    | _ => contradiction
  · intro hs
    exact ⟨.text s, hs, rfl⟩

theorem not_mem_intercalate {c : Char} {sep : String} {texts : List String} (hsep : c ∉ sep.toList)
    (h : ∀ s ∈ texts, c ∉ s.toList) : c ∉ (sep.intercalate texts).toList := by
  rw [String.toList_intercalate]
  intro hc
  rcases Declaration.mem_intercalate hc with hc | ⟨chars, hchars, hc⟩
  · exact hsep hc
  · obtain ⟨s, hs, rfl⟩ := List.mem_map.mp hchars
    exact h s hs hc

theorem isSolid_alias (name : Name) {members : List String} (h : ∀ m ∈ members, '\n' ∉ m.toList) :
    IsSolid (aliasText name.text members).toList := by
  have hname := name.not_mem_of_not_isContinue (c := '\n') rfl
  have hmembers : '\n' ∉ (" | ".intercalate members).toList :=
    not_mem_intercalate (by decide) h
  refine .of_line ⟨?_, 't', by simp [aliasText], by decide⟩
  simp only [aliasText, String.toList_append, List.mem_append, not_or]
  exact ⟨⟨⟨by decide, hname⟩, by decide⟩, hmembers⟩

def interfaceHead (name : String) (interfaces : List String) : String :=
  "interface " ++ name ++ " " ++
    (if interfaces.isEmpty then "" else "extends " ++ ", ".intercalate interfaces ++ " ") ++ "\x7b"

def interfaceBody (indent : String) (lines : List String) : String :=
  String.join (lines.map fun s => indent ++ s ++ "\n") ++ "\x7d"

theorem toList_interfaceText (indent name : String) (interfaces lines : List String) :
    (interfaceText indent name interfaces lines).toList =
      (interfaceHead name interfaces).toList ++ '\n' :: (interfaceBody indent lines).toList := by
  simp [interfaceText, interfaceHead, interfaceBody]

theorem isSolid_interfaceBody {indent : String} (hindent : '\n' ∉ indent.toList)
    {lines : List String} (h : ∀ s ∈ lines, IsLine s.toList) :
    IsSolid (interfaceBody indent lines).toList := by
  induction lines with
  | nil =>
    have hnil : (interfaceBody indent []).toList = ['\x7d'] := by simp [interfaceBody]
    rw [hnil]
    exact .of_line ⟨by decide, '\x7d', by simp, by decide⟩
  | cons s lines ih =>
    obtain ⟨hs, c, hc, hblank⟩ := h s List.mem_cons_self
    have hcons : (interfaceBody indent (s :: lines)).toList =
        (indent.toList ++ s.toList) ++ '\n' :: (interfaceBody indent lines).toList := by
      simp [interfaceBody]
    rw [hcons]
    have hline : IsLine (indent.toList ++ s.toList) :=
      ⟨by simp [hindent, hs], c, List.mem_append_right _ hc, hblank⟩
    exact .line_append hline (ih fun s hs => h s (List.mem_cons_of_mem _ hs))

theorem isSolid_interface {indent : String} (hindent : '\n' ∉ indent.toList) (name : Name)
    {interfaces lines : List String} (hinterfaces : ∀ s ∈ interfaces, '\n' ∉ s.toList)
    (hlines : ∀ s ∈ lines, IsLine s.toList) :
    IsSolid (interfaceText indent name.text interfaces lines).toList := by
  have hname := name.not_mem_of_not_isContinue (c := '\n') rfl
  have hextended : '\n' ∉ (", ".intercalate interfaces).toList :=
    not_mem_intercalate (by decide) hinterfaces
  have hhead : '\n' ∉ (interfaceHead name.text interfaces).toList := by
    simp only [interfaceHead, String.toList_append, List.mem_append, not_or]
    refine ⟨⟨⟨⟨by decide, hname⟩, by decide⟩, ?_⟩, by decide⟩
    split
    · decide
    · simp only [String.toList_append, List.mem_append, not_or]
      exact ⟨⟨by decide, hextended⟩, by decide⟩
  rw [toList_interfaceText]
  exact .line_append ⟨hhead, 'i', by simp [interfaceHead], by decide⟩
    (isSolid_interfaceBody hindent hlines)

theorem isSolid_exported {keyword declaration : String} (hkeyword : '\n' ∉ keyword.toList)
    (h : IsSolid declaration.toList) : IsSolid (exported keyword declaration).toList := by
  unfold exported
  split
  · exact h
  · rw [String.toList_append]
    exact h.prepend (by simpa using hkeyword)

end Declarations

theorem TypeRef.isLine_line {marker : String} (hmarker : '\n' ∉ marker.toList) (t : TypeRef)
    (n : Name) : IsLine (t.line marker n).toList where
  unbroken := by
    have hname := n.not_mem_of_not_isContinue (c := '\n') rfl
    have htype := (t.declared n).not_mem_type (c := '\n') rfl (by decide)
    rw [← Declaration.textUnder_declared, Declaration.Field.toList_textUnder,
      Declaration.Field.optionalMark]
    split <;> simp_all [declared]
  filled := by
    obtain ⟨c, hc, hblank⟩ := n.exists_not_blank
    exact ⟨c, by simp [line, hc], hblank⟩

/-- No text that is taken over into declarations breaks a line. -/
structure Unbroken (settings : Settings) (registry : Registry) : Prop where
  indent : '\n' ∉ settings.indent.toList
  optionalMarker : '\n' ∉ settings.optionalMarker.toList
  exportKeyword : '\n' ∉ settings.exportKeyword.toList
  scalars : ∀ e ∈ registry.custom, '\n' ∉ e.2.toList

namespace Unbroken

variable {settings : Settings} {registry : Registry}

theorem declaredType (h : Unbroken settings registry) (name : String) :
    '\n' ∉ (registry.declaredType name).toList := by
  unfold Registry.declaredType
  split
  · rename_i type hget
    split
    · decide
    · exact h.scalars _ (Assoc.mem_of_get? hget)
  · decide

theorem isSolid_entry (h : Unbroken settings registry) (roots : List String) (x : Definition)
    {s : String} (hs : x.entry settings registry roots = .text s) : IsSolid s.toList := by
  have hnames : ∀ names : List Name, ∀ s ∈ names.map Name.resolved, '\n' ∉ s.toList := by
    intro names s hs
    obtain ⟨n, -, rfl⟩ := List.mem_map.mp hs
    exact n.target.not_mem_of_not_isContinue rfl
  have hfields : ∀ fields : List FieldDefinition,
      ∀ s ∈ fields.map (FieldDefinition.line settings.optionalMarker), IsLine s.toList := by
    intro fields s hs
    obtain ⟨f, -, rfl⟩ := List.mem_map.mp hs
    exact f.type.isLine_line h.optionalMarker f.name
  cases x with
  | type description name directives body =>
    cases body with
    | scalar =>
      simp only [Definition.entry, TypeBody.entry] at hs
      split at hs
      · contradiction
      · cases hs
        exact Declarations.isSolid_alias name (by simpa using h.declaredType name.text)
    | enum values =>
      cases hs
      refine Declarations.isSolid_alias name fun m hm => ?_
      obtain ⟨v, -, rfl⟩ := List.mem_map.mp hm
      simpa using v.name.not_mem_of_not_isContinue rfl
    | union members =>
      cases hs
      exact Declarations.isSolid_alias name (hnames members)
    | object interfaces fields =>
      simp only [Definition.entry, TypeBody.entry] at hs
      split at hs
      · contradiction
      · cases hs
        exact Declarations.isSolid_interface h.indent name (hnames interfaces) (hfields fields)
    | interface interfaces fields =>
      cases hs
      exact Declarations.isSolid_interface h.indent name (by simp) (hfields fields)
    | input fields =>
      cases hs
      refine Declarations.isSolid_interface h.indent name (by simp) fun s hs => ?_
      obtain ⟨v, -, rfl⟩ := List.mem_map.mp hs
      exact v.type.isLine_line h.optionalMarker v.name
  | _ => contradiction

end Unbroken

namespace Declarations

theorem splitAtBlankLines_moduleText {keyword : String} {entries : List Value}
    (hkeyword : '\n' ∉ keyword.toList) (hne : texts entries ≠ [])
    (h : ∀ s ∈ texts entries, IsSolid s.toList) :
    (splitAtBlankLines (moduleText keyword entries).toList).map String.ofList =
      (texts entries).map (exported keyword) := by
  have hblocks : ∀ b ∈ ((texts entries).map (exported keyword)).map String.toList, IsSolid b := by
    intro b hb
    obtain ⟨t, ht, rfl⟩ := List.mem_map.mp hb
    obtain ⟨s, hs, rfl⟩ := List.mem_map.mp ht
    exact isSolid_exported hkeyword (h s hs)
  have hseparator : separator.toList = ['\n', '\n'] := by decide
  rw [moduleText, String.toList_intercalate, hseparator,
    splitAtBlankLines_intercalate (by simpa using hne) hblocks, List.map_map]
  simp

end Declarations

/-- A module taken apart at its blank lines gives the declarations that the document folds into, as
they are exported. There is no blank line in any of them, and no line feed at either end. -/
theorem Generator.render_splits_at_blank_lines {g : Generator} {disk : Disk}
    (hbuiltin : TemplateSet.UsesBuiltin disk g.settings.templateDir)
    (hunbroken : Unbroken g.settings g.registry) (d : Document) :
    ∃ entries text,
      (foldTree disk g.settings g.registry (g.hooks.runPre d).toTree).result = .ok entries ∧
        (g.render disk d).result = .ok text ∧
        (Declarations.texts entries = [] ∧ text = "" ∨
          Declarations.texts entries ≠ [] ∧ (splitAtBlankLines text.toList).map String.ofList =
            (Declarations.texts entries).map (Declarations.exported g.settings.exportKeyword)) ∧
        ∀ s ∈ Declarations.texts entries,
          ∀ t ∈ [s, Declarations.exported g.settings.exportKeyword s],
            IsSolid t.toList ∧ ¬['\n', '\n'] <:+: t.toList ∧ t.toList.head? ≠ some '\n' ∧
              t.toList.getLast? ≠ some '\n' := by
  have hsolid : ∀ s ∈ Declarations.texts (g.entries d), IsSolid s.toList := by
    intro s hs
    obtain ⟨x, -, hx⟩ := List.mem_map.mp (Declarations.mem_texts.mp hs)
    exact hunbroken.isSolid_entry _ x hx
  refine ⟨g.entries d, _, foldTree_runPre hbuiltin d, render_result hbuiltin d, ?_, ?_⟩
  · by_cases htexts : Declarations.texts (g.entries d) = []
    · exact .inl ⟨htexts, by simp [Declarations.moduleText, htexts]⟩
    · exact .inr ⟨htexts,
        Declarations.splitAtBlankLines_moduleText hunbroken.exportKeyword htexts hsolid⟩
  · intro s hs t ht
    have htext : IsSolid t.toList := by
      rcases List.mem_pair.mp ht with rfl | rfl
      · exact hsolid t hs
      · exact Declarations.isSolid_exported hunbroken.exportKeyword (hsolid s hs)
    exact ⟨htext, htext.no_blank_line, htext.head_ne, htext.getLast_ne⟩

/-- A schema with declarations that are left out, one without members and one that spans lines. -/
def wharfSchema : Document :=
  [.type none ⟨"Stamp", rfl⟩ [] .scalar,
    .type none ⟨"Pier", rfl⟩ [] (.interface []
      [⟨none, ⟨"berths", rfl⟩, [], .list (.named ⟨"Boat", rfl⟩ true) false, []⟩]),
    .type none ⟨"Query", rfl⟩ [] (.object [] []),
    .type none ⟨"Crew", rfl⟩ [] (.union []),
    .type none ⟨"Toll", rfl⟩ [] .scalar]

theorem Generator.render_splits_at_blank_lines_wharfSchema :
    let g : Generator :=
      ⟨{ indent := "", optionalMarker := "", exportKeyword := "declare" },
        ⟨[("Toll", "bigint")], ["Stamp"]⟩, {}⟩
    TemplateSet.UsesBuiltin {} g.settings.templateDir ∧ Unbroken g.settings g.registry ∧
      ∃ text, (g.render {} wharfSchema).result = .ok text ∧
        (splitAtBlankLines text.toList).map String.ofList =
          ["declare interface Pier \x7b\nberths: Boat[]\n\x7d", "declare type Crew = ",
            "declare type Toll = bigint"] := by
  intro g
  have hbuiltin : TemplateSet.UsesBuiltin {} g.settings.templateDir :=
    TemplateSet.usesBuiltin_of_no_folder rfl
  have hunbroken : Unbroken g.settings g.registry :=
    ⟨by simp [g], by simp [g], by simp [g], by simp [g]⟩
  have htexts : Declarations.texts (g.entries wharfSchema) =
      ["interface Pier \x7b\nberths: Boat[]\n\x7d", "type Crew = ", "type Toll = bigint"] := rfl
  obtain ⟨entries, text, hfold, hrender, hsplit, -⟩ :=
    render_splits_at_blank_lines hbuiltin hunbroken wharfSchema
  rw [foldTree_runPre hbuiltin] at hfold
  cases hfold
  refine ⟨hbuiltin, hunbroken, text, hrender, ?_⟩
  rcases hsplit with ⟨hnone, -⟩ | ⟨-, hsplit⟩
  · rw [htexts] at hnone
    exact absurd hnone (List.cons_ne_nil _ _)
  · rw [hsplit, htexts]
    rfl

end SchemaFold
