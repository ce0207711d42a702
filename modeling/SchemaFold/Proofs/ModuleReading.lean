import SchemaFold.Proofs.DeclaredTypes

/-! Reading a module back. Declarations are apart by blank lines, a line is taken word by word, and
the words at each place are known: what a module declares can be told from its text. -/

namespace SchemaFold

namespace Name

theorem not_mem_of_all {c : Char} (h : isContinue c = false) {word : List Char}
    (hw : word.all isContinue = true) : c ∉ word := by
  intro hc
  simp [List.all_eq_true.mp hw c hc] at h

theorem filter_isContinue (n : Name) : n.text.toList.filter isContinue = n.text.toList :=
  List.filter_eq_self.mpr fun _ hc => n.isContinue_of_mem hc

def ofChars? (cs : List Char) : Option Name :=
  if h : wellFormed cs = true then some ⟨String.ofList cs, by simpa using h⟩ else none

@[simp]
theorem ofChars?_toList (n : Name) : ofChars? n.text.toList = some n := by
  simp [ofChars?, n.valid]

end Name

namespace Declaration

/-- What is kept of a word are the characters that names have. -/
def readName (word : List Char) : Option Name :=
  Name.ofChars? (word.filter Name.isContinue)

def Field.read (line : List Char) : Option Field :=
  match line.splitOn ' ' with
  | [label, type] => do
    return ⟨← readName label, label.contains '?', ← readName type, type.count '['⟩
  | _ => none

def Member.read : List Char → Option Member
  | '"' :: word => Member.literal <$> readName word
  | word => Member.type <$> readName word

def readAlias (line : List Char) : Option Declaration :=
  match line.splitOn ' ' with
  | _ :: _ :: name :: _ :: words => do
    return .typeAlias (← readName name) (← (words.filter (·.any Name.isContinue)).mapM Member.read)
  | _ => none

def readInterface (header : List Char) (body : List (List Char)) : Option Declaration :=
  match header.splitOn ' ' with
  | _ :: _ :: name :: words => do
    return .interface (← readName name) (← (words.drop 1).dropLast.mapM readName)
      (← body.dropLast.mapM Field.read)
  | _ => none

/-- An alias is written in one line, an interface in more. -/
def read : List (List Char) → Option Declaration
  | [] => none
  | [line] => readAlias line
  | header :: body => readInterface header body

def readModule (text : String) : Option (List Declaration) :=
  (((text.toList.splitOn '\n').splitOn []).filter (· ≠ [])).mapM read

theorem intercalate_append {α : Type} (sep : List α) {xs ys : List (List α)} (hx : xs ≠ [])
    (hy : ys ≠ []) :
    sep.intercalate (xs ++ ys) = sep.intercalate xs ++ (sep ++ sep.intercalate ys) := by
  induction xs with
  | nil => contradiction
  | cons x xs ih =>
    by_cases h : xs = []
    · simp [h, List.intercalate_cons_of_ne_nil hy]
    · rw [List.cons_append, List.intercalate_cons_of_ne_nil (by simp [h]), ih h,
        List.intercalate_cons_of_ne_nil h]
      simp

theorem intercalate_ne_nil {α : Type} (sep : List α) {blocks : List (List α)} (h : blocks ≠ [])
    (hb : ∀ b ∈ blocks, b ≠ []) : sep.intercalate blocks ≠ [] := by
  obtain ⟨b, rest, rfl⟩ := List.exists_cons_of_ne_nil h
  have hfirst := hb b (by simp)
  by_cases hrest : rest = []
  · simpa [hrest] using hfirst
  · simp [List.intercalate_cons_of_ne_nil hrest, hfirst]

theorem mem_intercalate {α : Type} {sep : List α} {blocks : List (List α)} {a : α}
    (h : a ∈ sep.intercalate blocks) : a ∈ sep ∨ ∃ b ∈ blocks, a ∈ b := by
  induction blocks with
  | nil => simp at h
  | cons b blocks ih =>
    by_cases hb : blocks = []
    · exact .inr ⟨b, by simp, by simpa [hb] using h⟩
    · simp only [List.intercalate_cons_of_ne_nil hb, List.mem_append] at h
      rcases h with (h | h) | h
      · exact .inr ⟨b, by simp, h⟩
      · exact .inl h
      · rcases ih h with hsep | ⟨b', hb', ha⟩
        · exact .inl hsep
        · exact .inr ⟨b', by simp [hb'], ha⟩

theorem readName_append {n : Name} {word mark : List Char}
    (h : word.filter Name.isContinue = n.text.toList)
    (hm : mark.filter Name.isContinue = []) : readName (word ++ mark) = some n := by
  simp [readName, h, hm]

@[simp]
theorem readName_toList (n : Name) : readName n.text.toList = some n := by
  simp [readName, n.filter_isContinue]

theorem Member.read_text (m : Member) : Member.read m.text.toList = some m := by
  cases m with
  | literal n =>
    have hword : (Member.literal n).text.toList = '"' :: (n.text.toList ++ ['"']) := by
      simp [Member.text]
    have hname : readName (n.text.toList ++ ['"']) = some n :=
      readName_append n.filter_isContinue rfl
    simp [hword, Member.read, hname]
  | type n =>
    have hhead : ∀ word, n.text.toList ≠ '"' :: word := by
      intro word hn
      exact n.not_mem_of_not_isContinue (c := '"') rfl (by simp [hn])
    have hname := readName_toList n
    change Member.read n.text.toList = _
    unfold Member.read
    split
    · rename_i word hn
      exact absurd hn (hhead word)
    · simp [hname]

/-- The words of a line, with a blank between them. -/
def line (words : List (List Char)) : List Char :=
  [' '].intercalate words

theorem splitOn_line {words : List (List Char)} (hne : words ≠ []) (h : ∀ w ∈ words, ' ' ∉ w) :
    (line words).splitOn ' ' = words :=
  List.splitOn_intercalate ' ' h hne

def Field.marks (f : Field) : List Char :=
  if f.optional then ['?', ':'] else [':']

def Field.label (f : Field) : List Char :=
  '\t' :: (f.name.text.toList ++ f.marks)

def Field.type (f : Field) : List Char :=
  f.base.text.toList ++ (List.replicate f.depth ['[', ']']).flatten

/-- What stands between the name of a field and the colon. -/
def Field.optionalMark (marker : String) (f : Field) : List Char :=
  if f.optional then marker.toList else []

theorem Field.toList_textUnder (marker : String) (f : Field) :
    (f.textUnder marker).toList =
      f.name.text.toList ++ (f.optionalMark marker ++ ':' :: ' ' :: f.type) := by
  have hbrackets : (List.replicate f.depth "[]").flatMap String.toList =
      (List.replicate f.depth ['[', ']']).flatten := by
    rw [List.flatMap_def, List.map_replicate]
    rfl
  cases h : f.optional <;>
    simp [Field.textUnder, Field.optionalMark, Field.type, h, hbrackets]

theorem Field.toList_text (f : Field) : '\t' :: f.text.toList = line [f.label, f.type] := by
  rw [Field.text, f.toList_textUnder]
  cases h : f.optional <;>
    simp [Field.optionalMark, Field.label, Field.marks, line, h, List.intercalate_cons_cons]

theorem filter_brackets (depth : Nat) :
    (List.replicate depth ['[', ']']).flatten.filter Name.isContinue = [] := by
  apply List.filter_eq_nil_iff.mpr
  intro c hc
  obtain ⟨pair, hpair, hmem⟩ := List.mem_flatten.mp hc
  rw [List.eq_of_mem_replicate hpair] at hmem
  rcases List.mem_pair.mp hmem with rfl | rfl <;> decide

theorem count_brackets (depth : Nat) :
    (List.replicate depth ['[', ']']).flatten.count '[' = depth := by
  induction depth with
  | zero => rfl
  | succ depth ih => simpa [List.replicate_succ] using ih

theorem Field.not_mem_label (f : Field) {c : Char} (hc : Name.isContinue c = false)
    (hmark : c ∉ ['\t', '?', ':']) : c ∉ f.label := by
  have hname := f.name.not_mem_of_not_isContinue hc
  cases h : f.optional <;> simp_all [Field.label, Field.marks]

theorem Field.not_mem_type (f : Field) {c : Char} (hc : Name.isContinue c = false)
    (hmark : c ∉ ['[', ']']) : c ∉ f.type := by
  have hbase := f.base.not_mem_of_not_isContinue hc
  simp_all [Field.type]

theorem Field.read_text (f : Field) : Field.read ('\t' :: f.text.toList) = some f := by
  have hlabel : readName f.label = some f.name := by
    have htab : readName f.label = readName (f.name.text.toList ++ f.marks) := rfl
    rw [htab]
    refine readName_append f.name.filter_isContinue ?_
    unfold Field.marks
    split <;> rfl
  have htype : readName f.type = some f.base :=
    readName_append f.base.filter_isContinue (filter_brackets f.depth)
  have hoptional : f.label.contains '?' = f.optional := by
    have hname := f.name.not_mem_of_not_isContinue (c := '?') rfl
    cases h : f.optional <;> simp [Field.label, Field.marks, h, hname]
  have hdepth : f.type.count '[' = f.depth := by
    have hbase := List.count_eq_zero.mpr (f.base.not_mem_of_not_isContinue (c := '[') rfl)
    simp [Field.type, hbase, count_brackets]
  have hwords : (line [f.label, f.type]).splitOn ' ' = [f.label, f.type] := by
    apply splitOn_line (by simp)
    intro w hw
    rcases List.mem_pair.mp hw with rfl | rfl
    · exact f.not_mem_label rfl (by decide)
    · exact f.not_mem_type rfl (by decide)
  rw [f.toList_text]
  simp only [Field.read, hwords, hlabel, htype, hoptional, hdepth]
  rfl

/-- The members of an alias with bars between them. No members leave an empty word. -/
def memberWords : List (List Char) → List (List Char)
  | [] => [[]]
  | [m] => [m]
  | m :: m' :: ms => m :: ['|'] :: memberWords (m' :: ms)

theorem memberWords_ne_nil (ms : List (List Char)) : memberWords ms ≠ [] := by
  fun_cases memberWords ms <;> simp

theorem line_cons (w : List Char) {words : List (List Char)} (h : words ≠ []) :
    line (w :: words) = w ++ ' ' :: line words := by
  simp [line, List.intercalate_cons_of_ne_nil h]

theorem line_memberWords (ms : List (List Char)) :
    line (memberWords ms) = [' ', '|', ' '].intercalate ms := by
  induction ms using memberWords.induct with
  | case1 => rfl
  | case2 m => rfl
  | case3 m m' ms ih =>
    have hne := memberWords_ne_nil (m' :: ms)
    rw [memberWords, line_cons m (by simp), line_cons ['|'] hne, ih, List.intercalate_cons_cons]
    simp

theorem filter_memberWords {ms : List (List Char)}
    (h : ∀ m ∈ ms, m.any Name.isContinue = true) :
    (memberWords ms).filter (·.any Name.isContinue) = ms := by
  induction ms using memberWords.induct with
  | case1 => rfl
  | case2 m => simpa [memberWords] using h m (by simp)
  | case3 m m' ms ih =>
    have hfirst := h m (by simp)
    have hbar : ['|'].any Name.isContinue = false := rfl
    have hrest := ih fun x hx => h x (List.mem_cons_of_mem _ hx)
    simp [memberWords, hfirst, hbar, hrest]

theorem not_mem_memberWords {ms : List (List Char)} {c : Char} (hbar : c ≠ '|')
    (h : ∀ m ∈ ms, c ∉ m) : ∀ w ∈ memberWords ms, c ∉ w := by
  induction ms using memberWords.induct with
  | case1 => simp [memberWords]
  | case2 m => simpa [memberWords] using h
  | case3 m m' ms ih =>
    intro w hw
    have hrest := ih fun x hx => h x (List.mem_cons_of_mem _ hx)
    simp only [memberWords, List.mem_cons] at hw
    rcases hw with rfl | rfl | hw
    · exact h w (by simp)
    · simpa using hbar
    · exact hrest w (by simpa using hw)

theorem Member.any_isContinue (m : Member) : m.text.toList.any Name.isContinue = true := by
  have hany : ∀ n : Name, n.text.toList.any Name.isContinue = true := by
    intro n
    obtain ⟨c, hc⟩ := List.exists_mem_of_ne_nil _ n.toList_ne_nil
    exact List.any_eq_true.mpr ⟨c, hc, n.isContinue_of_mem hc⟩
  cases m with
  | literal n => simp [Member.text, hany n]
  | type n => exact hany n

theorem Member.not_mem_text (m : Member) {c : Char} (hc : Name.isContinue c = false)
    (hquote : c ≠ '"') : c ∉ m.text.toList := by
  cases m with
  | literal n => simp [Member.text, hquote, n.not_mem_of_not_isContinue hc]
  | type n => exact n.not_mem_of_not_isContinue hc

def aliasWords (name : Name) (members : List Member) : List (List Char) :=
  "export".toList :: "type".toList :: name.text.toList :: "=".toList ::
    memberWords (members.map fun m => m.text.toList)

theorem not_mem_aliasWords (name : Name) (members : List Member) {c : Char}
    (hc : Name.isContinue c = false) (hmark : c ∉ ['=', '|', '"']) :
    ∀ w ∈ aliasWords name members, c ∉ w := by
  intro w hw
  simp only [List.mem_cons, List.not_mem_nil, or_false, not_or] at hmark
  simp only [aliasWords, List.mem_cons] at hw
  rcases hw with rfl | rfl | rfl | rfl | hw
  · exact Name.not_mem_of_all hc (by decide)
  · exact Name.not_mem_of_all hc (by decide)
  · exact name.not_mem_of_not_isContinue hc
  · simpa using hmark.1
  · refine not_mem_memberWords hmark.2.1 ?_ w hw
    intro m hm
    obtain ⟨member, -, rfl⟩ := List.mem_map.mp hm
    exact member.not_mem_text hc hmark.2.2

theorem toList_alias (name : Name) (members : List Member) :
    ("export " ++ (Declaration.typeAlias name members).text).toList =
      line (aliasWords name members) := by
  have hwords := line_memberWords (members.map fun m => m.text.toList)
  have hne := memberWords_ne_nil (members.map fun m => m.text.toList)
  rw [aliasWords, line_cons _ (by simp), line_cons _ (by simp), line_cons _ (by simp),
    line_cons _ hne, hwords]
  simp [text_typeAlias, Declarations.aliasText, Function.comp_def]

theorem read_alias (name : Name) (members : List Member) :
    readAlias (line (aliasWords name members)) = some (.typeAlias name members) := by
  have hwords := splitOn_line (by simp [aliasWords])
    (not_mem_aliasWords name members (c := ' ') rfl (by decide))
  have hfilter : (memberWords (members.map fun m => m.text.toList)).filter
      (·.any Name.isContinue) = members.map fun m => m.text.toList := by
    apply filter_memberWords
    intro m hm
    obtain ⟨member, -, rfl⟩ := List.mem_map.mp hm
    exact member.any_isContinue
  have hmembers := mapM_map_pure Member.read_text members
  rw [readAlias, hwords]
  simp [aliasWords, hfilter, hmembers]

/-- Names with a comma after each but the last. -/
def commaWords : List (List Char) → List (List Char)
  | [] => []
  | [n] => [n]
  | n :: n' :: ns => (n ++ [',']) :: commaWords (n' :: ns)

theorem commaWords_ne_nil {ns : List (List Char)} (h : ns ≠ []) : commaWords ns ≠ [] := by
  fun_cases commaWords ns <;> simp_all

theorem line_commaWords (ns : List (List Char)) :
    line (commaWords ns) = [',', ' '].intercalate ns := by
  induction ns using commaWords.induct with
  | case1 => rfl
  | case2 n => rfl
  | case3 n n' ns ih =>
    have hne : commaWords (n' :: ns) ≠ [] := commaWords_ne_nil (by simp)
    rw [commaWords, line_cons _ hne, ih, List.intercalate_cons_cons]
    simp

theorem mapM_commaWords (names : List Name) :
    (commaWords (names.map fun n => n.text.toList)).mapM readName = some names := by
  have hcomma : ∀ n : Name, readName (n.text.toList ++ [',']) = some n :=
    fun n => readName_append n.filter_isContinue rfl
  induction names with
  | nil => rfl
  | cons n names ih =>
    cases names with
    | nil => simp [commaWords]
    | cons n' names =>
      rw [List.map_cons] at ih
      simp [commaWords, hcomma, ih]

theorem not_mem_commaWords (names : List Name) {c : Char} (hc : Name.isContinue c = false)
    (hcomma : c ≠ ',') : ∀ w ∈ commaWords (names.map fun n => n.text.toList), c ∉ w := by
  induction names with
  | nil => simp [commaWords]
  | cons n names ih =>
    have hn := n.not_mem_of_not_isContinue hc
    cases names with
    | nil => simpa [commaWords] using hn
    | cons n' names => simp_all [commaWords]

/-- What stands between the name of an interface and the bracket that opens it. -/
def extendsWords (extended : List Name) : List (List Char) :=
  if extended = [] then [] else "extends".toList :: commaWords (extended.map fun n => n.text.toList)

def headerWords (name : Name) (extended : List Name) : List (List Char) :=
  "export".toList :: "interface".toList :: name.text.toList ::
    (extendsWords extended ++ [['\x7b']])

theorem not_mem_headerWords (name : Name) (extended : List Name) {c : Char}
    (hc : Name.isContinue c = false) (hmark : c ∉ [',', '\x7b']) :
    ∀ w ∈ headerWords name extended, c ∉ w := by
  intro w hw
  simp only [List.mem_cons, List.not_mem_nil, or_false, not_or] at hmark
  simp only [headerWords, List.mem_cons, List.mem_append, List.not_mem_nil, or_false] at hw
  rcases hw with rfl | rfl | rfl | hw | rfl
  · exact Name.not_mem_of_all hc (by decide)
  · exact Name.not_mem_of_all hc (by decide)
  · exact name.not_mem_of_not_isContinue hc
  · unfold extendsWords at hw
    split at hw
    · contradiction
    · rcases List.mem_cons.mp hw with rfl | hw
      · exact Name.not_mem_of_all hc (by decide)
      · exact not_mem_commaWords extended hc hmark.1 w hw
  · simpa using hmark.2

theorem line_extendsWords (extended : List Name) :
    line (extendsWords extended ++ [['\x7b']]) =
      (if extended = [] then []
        else "extends ".toList ++ [',', ' '].intercalate (extended.map fun n => n.text.toList) ++
          [' ']) ++ ['\x7b'] := by
  by_cases h : extended = []
  · simp [extendsWords, h, line]
  · have hne : commaWords (extended.map fun n => n.text.toList) ≠ [] :=
      commaWords_ne_nil (by simpa using h)
    have hwords := line_commaWords (extended.map fun n => n.text.toList)
    rw [extendsWords, if_neg h, List.cons_append, line_cons _ (by simp), line,
      intercalate_append _ hne (by simp), if_neg h, ← hwords]
    simp [line]

def bodyLines (fields : List Field) : List (List Char) :=
  fields.map (fun f => '\t' :: f.text.toList) ++ [['\x7d']]

theorem intercalate_bodyLines (fields : List Field) :
    ['\n'].intercalate (bodyLines fields) =
      fields.flatMap (fun f => '\t' :: (f.text.toList ++ ['\n'])) ++ ['\x7d'] := by
  induction fields with
  | nil => rfl
  | cons f fields ih =>
    have hne : bodyLines fields ≠ [] := by simp [bodyLines]
    have hcons : bodyLines (f :: fields) = ('\t' :: f.text.toList) :: bodyLines fields := rfl
    rw [hcons, List.intercalate_cons_of_ne_nil hne, ih]
    simp

theorem toList_interface (name : Name) (extended : List Name) (fields : List Field) :
    ("export " ++ (Declaration.interface name extended fields).text).toList =
      ['\n'].intercalate (line (headerWords name extended) :: bodyLines fields) := by
  have hbody : bodyLines fields ≠ [] := by simp [bodyLines]
  have hheader : line (headerWords name extended) = "export interface ".toList ++
      name.text.toList ++ ' ' :: line (extendsWords extended ++ [['\x7b']]) := by
    rw [headerWords, line_cons _ (by simp), line_cons _ (by simp), line_cons _ (by simp)]
    simp
  rw [List.intercalate_cons_of_ne_nil hbody, intercalate_bodyLines, hheader, line_extendsWords]
  by_cases h : extended = []
  · simp [text_interface, Declarations.interfaceText, h, List.flatMap_map]
  · simp [text_interface, Declarations.interfaceText, h, List.flatMap_map, Function.comp_def]

theorem read_interface (name : Name) (extended : List Name) (fields : List Field) :
    readInterface (line (headerWords name extended)) (bodyLines fields) =
      some (.interface name extended fields) := by
  have hwords := splitOn_line (by simp [headerWords])
    (not_mem_headerWords name extended (c := ' ') rfl (by decide))
  have hextended : ((extendsWords extended ++ [['\x7b']]).drop 1).dropLast.mapM readName =
      some extended := by
    by_cases h : extended = []
    · simp [extendsWords, h]
    · simpa [extendsWords, h] using mapM_commaWords extended
  have hfields : (bodyLines fields).dropLast.mapM Field.read = some fields := by
    rw [bodyLines, List.dropLast_concat]
    simpa using mapM_map_pure Field.read_text fields
  rw [readInterface, hwords]
  simp only [headerWords, readName_toList, hextended, hfields]
  rfl

/-- The lines of a declaration. -/
def lines : Declaration → List (List Char)
  | .interface name extended fields => line (headerWords name extended) :: bodyLines fields
  | .typeAlias name members => [line (aliasWords name members)]

theorem toList_text (d : Declaration) :
    ("export " ++ d.text).toList = ['\n'].intercalate d.lines := by
  cases d with
  | interface name extended fields => exact toList_interface name extended fields
  | typeAlias name members => rw [toList_alias, lines, List.intercalate_singleton]

theorem read_lines (d : Declaration) : read d.lines = some d := by
  cases d with
  | interface name extended fields =>
    obtain ⟨first, rest, hbody⟩ : ∃ first rest, bodyLines fields = first :: rest :=
      List.exists_cons_of_ne_nil (by simp [bodyLines])
    have hread := read_interface name extended fields
    rw [lines, hbody]
    rwa [hbody] at hread
  | typeAlias name members => exact read_alias name members

theorem not_mem_line {words : List (List Char)} {c : Char} (hblank : c ≠ ' ')
    (h : ∀ w ∈ words, c ∉ w) : c ∉ line words := by
  intro hc
  rcases mem_intercalate hc with hsep | ⟨w, hw, hmem⟩
  · exact hblank (List.mem_singleton.mp hsep)
  · exact h w hw hmem

theorem line_ne_nil {w : List Char} (hw : w ≠ []) (words : List (List Char)) :
    line (w :: words) ≠ [] := by
  by_cases h : words = []
  · simpa [h, line] using hw
  · simp [line_cons w h]

/-- No line of a declaration is blank, and none has a line break in it. -/
theorem lines_solid (d : Declaration) : ∀ l ∈ d.lines, l ≠ [] ∧ '\n' ∉ l := by
  intro l hl
  cases d with
  | interface name extended fields =>
    simp only [lines, bodyLines, List.mem_cons, List.mem_append, List.mem_map, List.not_mem_nil,
      or_false] at hl
    rcases hl with rfl | ⟨f, -, rfl⟩ | rfl
    · exact ⟨line_ne_nil (by decide) _,
        not_mem_line (by decide) (not_mem_headerWords name extended rfl (by decide))⟩
    · refine ⟨by simp, ?_⟩
      rw [f.toList_text]
      apply not_mem_line (by decide)
      intro w hw
      rcases List.mem_pair.mp hw with rfl | rfl
      · exact f.not_mem_label rfl (by decide)
      · exact f.not_mem_type rfl (by decide)
    · decide
  | typeAlias name members =>
    rw [lines, List.mem_singleton] at hl
    subst hl
    exact ⟨line_ne_nil (by decide) _,
      not_mem_line (by decide) (not_mem_aliasWords name members rfl (by decide))⟩

theorem lines_ne_nil (d : Declaration) : d.lines ≠ [] := by
  cases d <;> simp [lines]

/-- Blocks of lines with blank lines between them, as lines. -/
theorem intercalate_blocks {blocks : List (List (List Char))} (h : ∀ b ∈ blocks, b ≠ []) :
    ['\n', '\n'].intercalate (blocks.map ['\n'].intercalate) =
      ['\n'].intercalate ([[]].intercalate blocks) := by
  induction blocks with
  | nil => rfl
  | cons b blocks ih =>
    have hb := h b (by simp)
    have hrest := ih fun b' hb' => h b' (by simp [hb'])
    cases blocks with
    | nil => simp
    | cons b' blocks =>
      have hne : [[]].intercalate (b' :: blocks) ≠ [] :=
        intercalate_ne_nil [[]] (by simp) fun x hx => h x (List.mem_cons_of_mem _ hx)
      have hmap : (b' :: blocks).map ['\n'].intercalate ≠ [] := by simp
      have hright : [[]].intercalate (b :: b' :: blocks) =
          b ++ [] :: [[]].intercalate (b' :: blocks) := by
        simp [List.intercalate_cons_cons]
      rw [List.map_cons, List.intercalate_cons_of_ne_nil hmap, hrest, hright,
        intercalate_append ['\n'] hb (by simp), List.intercalate_cons_of_ne_nil hne]
      simp

theorem toList_moduleText (ds : List Declaration) :
    (moduleText ds).toList = ['\n'].intercalate ([[]].intercalate (ds.map lines)) := by
  have hblocks : ∀ b ∈ ds.map lines, b ≠ [] := by
    intro b hb
    obtain ⟨d, -, rfl⟩ := List.mem_map.mp hb
    exact d.lines_ne_nil
  have htexts : ds.map (String.toList ∘ fun d => "export " ++ d.text) =
      ds.map (['\n'].intercalate ∘ lines) :=
    List.map_congr_left fun d _ => toList_text d
  rw [← intercalate_blocks hblocks, moduleText, String.toList_intercalate, List.map_map, htexts,
    List.map_map]
  rfl

/-- What a module declares is read back from its text. -/
theorem readModule_moduleText (ds : List Declaration) :
    readModule (moduleText ds) = some ds := by
  by_cases hds : ds = []
  · subst hds
    rfl
  · have hmap : ds.map lines ≠ [] := by simpa using hds
    have hblocks : ∀ b ∈ ds.map lines, b ≠ [] ∧ ∀ l ∈ b, l ≠ [] ∧ '\n' ∉ l := by
      intro b hb
      obtain ⟨d, -, rfl⟩ := List.mem_map.mp hb
      exact ⟨d.lines_ne_nil, d.lines_solid⟩
    have hbreak : ∀ l ∈ [[]].intercalate (ds.map lines), '\n' ∉ l := by
      intro l hl
      rcases mem_intercalate hl with hsep | ⟨b, hb, hl⟩
      · simp [List.mem_singleton.mp hsep]
      · exact ((hblocks b hb).2 l hl).2
    -- A blank line can only be one that stands between declarations.
    have hblank : ∀ b ∈ ds.map lines, [] ∉ b := fun b hb hmem => ((hblocks b hb).2 [] hmem).1 rfl
    have hall := intercalate_ne_nil [[]] hmap fun b hb => (hblocks b hb).1
    have hfilter : (ds.map lines).filter (· ≠ []) = ds.map lines :=
      List.filter_eq_self.mpr fun b hb => by simpa using (hblocks b hb).1
    rw [readModule, toList_moduleText, List.splitOn_intercalate '\n' hbreak hall,
      List.splitOn_intercalate [] hblank hmap, hfilter]
    simpa using mapM_map_pure read_lines ds

end Declaration

/-- Under the standard settings a document is rendered as text that tells exactly what it declares:
reading the text back gives the declarations, and two documents are rendered alike only if they
declare the same. -/
theorem Generator.render_tells_declarations {g : Generator} (hg : Generator.ofDraft {} = .ok g) :
    (∀ disk d, ∃ text, (g.render disk d).result = .ok text ∧
      Declaration.readModule text = some d.declarations) ∧
    ∀ disk d disk' d', (g.render disk d).result = (g.render disk' d').result ↔
      d.declarations = d'.declarations := by
  have hstandard : g = Generator.standard := by
    have h : Generator.ofDraft {} = .ok Generator.standard := rfl
    rw [h] at hg
    exact (Except.ok.inj hg).symm
  subst hstandard
  refine ⟨?_, ?_⟩
  · intro disk d
    exact ⟨_, Generator.render_standard disk d, Declaration.readModule_moduleText d.declarations⟩
  · intro disk d disk' d'
    rw [Generator.render_standard, Generator.render_standard]
    constructor
    · intro h
      have htext : Declaration.moduleText d.declarations = Declaration.moduleText d'.declarations :=
        Except.ok.inj h
      have hread := Declaration.readModule_moduleText d.declarations
      rw [htext, Declaration.readModule_moduleText] at hread
      exact (Option.some.inj hread).symm
    · intro h
      rw [h]

theorem Generator.render_tells_declarations_userSchema :
    Generator.ofDraft {} = .ok Generator.standard ∧
      ∃ text, (Generator.standard.render {} userSchema).result = .ok text ∧
        Declaration.readModule text =
          some [.interface ⟨"User", rfl⟩ [⟨"Node", rfl⟩]
              [⟨⟨"id", rfl⟩, false, ⟨"string", rfl⟩, 0⟩, ⟨⟨"tags", rfl⟩, true, ⟨"string", rfl⟩, 2⟩],
            .typeAlias ⟨"Hue", rfl⟩ [.literal ⟨"RED", rfl⟩, .literal ⟨"BLUE", rfl⟩]] := by
  have hg : Generator.ofDraft {} = .ok Generator.standard := rfl
  exact ⟨hg, (Generator.render_tells_declarations hg).1 {} userSchema⟩

end SchemaFold
