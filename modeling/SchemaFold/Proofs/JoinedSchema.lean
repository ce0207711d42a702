import SchemaFold.Proofs.JoinedDefinitions
import SchemaFold.Proofs.Loading

/-! A schema in many files and the one text that their texts make up, a line feed between each two
of them, have the same definitions. -/

namespace SchemaFold

namespace Tokens

theorem Reaches.proper {ts rest : Tokens} (h : ts.Reaches rest) (hts : ts.Proper) :
    rest.Proper :=
  h.keeps hts fun _ _ _ => And.right

theorem Reaches.readable {ts rest : Tokens} (h : ts.Reaches rest) (hts : ts.checked = .ok ts) :
    rest.checked = .ok rest :=
  h.keeps hts fun _ _ hrest _ => hrest

theorem Reaches.whole_of {ts rest : Tokens} (h : ts.Reaches rest) (hts : ts.Proper)
    (hrest : rest.Whole) : ts.Whole := by
  induction h using Relation.ReflTransGen.head_induction_on with
  | refl => exact hrest
  | head hnext _ ih =>
    rcases next_cases hnext with ⟨start, rfl, rfl⟩ | ⟨⟨t, rfl⟩, -⟩
    · trivial
    · exact ⟨hts.1, ih hts.2⟩

theorem Proper.eq_last {ts : Tokens} (h : ts.Proper) (hreadable : ts.checked = .ok ts)
    (heof : ts.lexeme = .eof) : ∃ start, ts = .last start := by
  cases ts with
  | last start => exact ⟨start, rfl⟩
  | stop e => contradiction
  | cons t rest => exact absurd heof h.1

theorem Whole.proper {ts : Tokens} (h : ts.Whole) : ts.Proper := by
  induction ts with
  | last start => trivial
  | stop e => trivial
  | cons t rest ih => exact ⟨h.1, ih h.2⟩

theorem Whole.readable {ts : Tokens} (h : ts.Whole) : ts.checked = .ok ts := by
  cases ts with
  | stop e => exact h.elim
  | _ => rfl

theorem size_followedBy {ts : Tokens} (h : ts.Whole) (us : Tokens) :
    (ts.followedBy us).size = ts.size + us.size := by
  induction ts with
  | last start => simp [followedBy, size]
  | stop e => exact h.elim
  | cons t rest ih =>
    rw [followedBy, size, size, ih h.2]
    omega

theorem Whole.followedBy {ts us : Tokens} (h : ts.Whole) (hus : us.Whole) :
    (ts.followedBy us).Whole := by
  induction ts with
  | last start => exact hus
  | stop e => exact h
  | cons t rest ih => exact ⟨h.1, ih h.2⟩

theorem Whole.alike_followedBy {ts : Tokens} (h : ts.Whole) (start : Nat) :
    Alike (ts.followedBy (.last start)) ts := by
  induction ts with
  | last start' => exact .last _ _
  | stop e => exact h.elim
  | cons t rest ih => exact .cons t.lexeme t.start t.start (ih h.2)

theorem Alike.whole {ts ts' : Tokens} (h : Alike ts ts') (hts : ts.Whole) : ts'.Whole := by
  induction h with
  | last start start' => trivial
  | stop e e' => exact hts
  | cons l start start' h ih => exact ⟨hts.1, ih hts.2⟩

/-- Words that are read as the definitions `ds` from the first to the last, also where they follow
others. -/
structure Holds (ts : Tokens) (ds : List Definition) : Prop where
  whole : ts.Whole
  startsAnew : ts.StartsAnew
  reads : ∀ {m n : Nat}, ts.size < m → ts.size ≤ n →
    ∃ rest, Parser.definitionsUntilEnd m n ts = .ok (ds, rest)

end Tokens

namespace Parser

open Tokens

/-- Reading goes on to the end of the text, one definition after the other. -/
theorem definitionsUntilEnd_succ {m n : Nat} {ts rest : Tokens} {ds : List Definition} :
    definitionsUntilEnd (m + 1) n ts = .ok (ds, rest) ↔
      (ts.lexeme = .eof ∧ ds = [] ∧ rest = ts) ∨
        ts.lexeme ≠ .eof ∧ ∃ first mid others, definition n ts = .ok (first, mid) ∧
          definitionsUntilEnd m n mid = .ok (others, rest) ∧ ds = first :: others := by
  have hrun : definitionsUntilEnd (m + 1) n ts =
      (if ts.lexeme = .eof then pure []
        else definition >>= fun first => definitionsUntilEnd m >>= fun others =>
          pure (first :: others) : Parser (List Definition)) n ts := rfl
  rw [hrun]
  by_cases heof : ts.lexeme = .eof
  · have hpure : (pure [] : Parser (List Definition)) n ts = .ok ([], ts) := rfl
    simp [heof, hpure, eq_comm]
  · simp only [heof, if_false, false_and, false_or, not_false_eq_true, true_and, ne_eq]
    constructor
    · intro h
      obtain ⟨⟨first, mid⟩, hfirst, h⟩ := bind_eq_ok.mp h
      obtain ⟨⟨others, last⟩, hothers, hresult⟩ := bind_eq_ok.mp h
      cases hresult
      exact ⟨first, mid, others, hfirst, hothers, rfl⟩
    · rintro ⟨first, mid, others, hfirst, hothers, rfl⟩
      exact bind_eq_ok.mpr ⟨_, hfirst, bind_eq_ok.mpr ⟨_, hothers, rfl⟩⟩

theorem whole_of_definitionsUntilEnd {m n : Nat} {ts rest : Tokens} {ds : List Definition}
    (hproper : ts.Proper) (hreadable : ts.checked = .ok ts) (hm : ts.size < m)
    (h : definitionsUntilEnd m n ts = .ok (ds, rest)) : ts.Whole := by
  induction m generalizing ts ds with
  | zero => contradiction
  | succ m ih =>
    rcases definitionsUntilEnd_succ.mp h with
      ⟨heof, -, -⟩ | ⟨-, first, mid, others, hfirst, hothers, -⟩
    · obtain ⟨start, rfl⟩ := hproper.eq_last hreadable heof
      trivial
    · have hmid := firm_definition.moves hfirst
      have hsize := firm_definition.takes (Nat.zero_le _) hfirst
      exact hmid.whole_of hproper
        (ih (hmid.proper hproper) (hmid.readable hreadable) (by omega) hothers)

/-- The definitions of words, and then those of the words that follow. -/
theorem definitionsUntilEnd_followedBy {us : Tokens} {es : List Definition} (hus : us.Holds es)
    {m k n n' : Nat} {ts rest : Tokens} {ds : List Definition} (hjoint : Joint us n n' ts)
    (hn' : us.size ≤ n') (hm : ts.size < m) (hk : ts.size + us.size < k)
    (h : definitionsUntilEnd m n ts = .ok (ds, rest)) :
    ∃ rest', definitionsUntilEnd k n' (ts.followedBy us) = .ok (ds ++ es, rest') := by
  induction m generalizing k ts ds with
  | zero => contradiction
  | succ m ih =>
    rcases definitionsUntilEnd_succ.mp h with
      ⟨heof, rfl, -⟩ | ⟨hword, first, mid, others, hfirst, hothers, rfl⟩
    -- Where the first words end, the others are read as they would be on their own.
    · obtain ⟨start, rfl⟩ := hjoint.whole.proper.eq_last hjoint.whole.readable heof
      have hsize : us.size < k := by simpa [Tokens.size] using hk
      exact hus.reads hsize hn'
    · have hmid := firm_definition.moves hfirst
      have hsize := firm_definition.takes (Nat.zero_le _) hfirst
      have hfirst' := firm_definition.same hjoint (Nat.zero_le _) hfirst
      obtain ⟨j, rfl⟩ : ∃ j, k = j + 1 := ⟨k - 1, by omega⟩
      obtain ⟨rest', hothers'⟩ := ih (k := j) (hjoint.reaches hmid) (by omega) (by omega) hothers
      refine ⟨rest', definitionsUntilEnd_succ.mpr (.inr ⟨?_, _, _, _, hfirst', hothers', rfl⟩)⟩
      rwa [lexeme_followedBy (one_le_size hword)]

theorem lexeme_ne_eof_of_definition {n : Nat} {ts : Tokens} {x : Definition × Tokens}
    (h : definition n ts = .ok x) : ts.lexeme ≠ .eof := by
  obtain ⟨ahead, p, hahead, hp, -⟩ := definition_eq_ok.mp h
  intro heof
  unfold Tokens.ahead at hahead
  rw [heof] at hahead
  cases hahead
  exact definitionFor?_ne_eof hp heof

end Parser

namespace Tokens

theorem holds_last (start : Nat) : (last start).Holds [] where
  whole := trivial
  startsAnew := ⟨rfl, by simp [lexeme], by simp [lexeme, Parser.isKeyword]⟩
  reads {m n} hm _ := by
    obtain ⟨k, rfl⟩ : ∃ k, m = k + 1 := ⟨m - 1, by simp only [size] at hm; omega⟩
    exact ⟨_, Parser.definitionsUntilEnd_succ.mpr (.inl ⟨rfl, rfl, rfl⟩)⟩

theorem StartsAnew.of_lexeme {us vs : Tokens} (h : us.StartsAnew) (hvs : vs.checked = .ok vs)
    (hword : vs.lexeme = us.lexeme) : vs.StartsAnew :=
  ⟨hvs, hword ▸ h.noPunctuator, hword ▸ h.noKeyword⟩

theorem Holds.followedBy {ts us : Tokens} {ds es : List Definition} (h : ts.Holds ds)
    (hus : us.Holds es) : (ts.followedBy us).Holds (ds ++ es) where
  whole := h.whole.followedBy hus.whole
  startsAnew := by
    by_cases hsize : 1 ≤ ts.size
    · exact h.startsAnew.of_lexeme (h.whole.followedBy hus.whole).readable
        (lexeme_followedBy hsize us)
    · obtain ⟨start, rfl⟩ := h.whole.eq_last hsize
      exact hus.startsAnew
  reads hm hn := by
    rw [size_followedBy h.whole] at hm hn
    obtain ⟨rest, hrest⟩ := h.reads (Nat.lt_succ_self _) (Nat.le_refl _)
    have hjoint : Parser.Joint us ts.size _ ts :=
      ⟨hus.startsAnew, h.whole, Nat.le_refl _, (Nat.le_add_right _ _).trans hn⟩
    exact Parser.definitionsUntilEnd_followedBy hus hjoint (by omega) (Nat.lt_succ_self _) hm hrest

theorem Holds.of_alike {ts ts' : Tokens} {ds : List Definition} (h : ts.Holds ds)
    (halike : Alike ts ts') : ts'.Holds ds where
  whole := halike.whole h.whole
  startsAnew := h.startsAnew.of_lexeme (halike.whole h.whole).readable halike.lexeme_eq.symm
  reads hm hn := by
    rw [← halike.size_eq] at hm hn
    obtain ⟨rest, hrest⟩ := h.reads hm hn
    obtain ⟨rest', hrest', -⟩ := Parser.blind_definitionsUntilEnd _ halike hrest
    exact ⟨rest', hrest'⟩

/-- What one reading of all the words shows, every other does that is told as many words. -/
theorem holds_of_run {m : Nat} {ts rest : Tokens} {ds : List Definition} (hproper : ts.Proper)
    (hanew : ts.StartsAnew) (hm : ts.size < m)
    (h : Parser.definitionsUntilEnd m ts.size ts = .ok (ds, rest)) : ts.Holds ds := by
  have hwhole := Parser.whole_of_definitionsUntilEnd hproper hanew.readable hm h
  refine ⟨hwhole, hanew, fun {k n'} hk hn' => ?_⟩
  -- Other bounds do for the words with nothing after them: they differ from `ts` only in position.
  have hjoint : Parser.Joint (.last 0) ts.size n' ts :=
    ⟨(holds_last 0).startsAnew, hwhole, Nat.le_refl _, hn'⟩
  obtain ⟨rest', hrest'⟩ := Parser.definitionsUntilEnd_followedBy (k := k) (holds_last 0) hjoint
    (Nat.zero_le _) hm hk h
  rw [List.append_nil] at hrest'
  obtain ⟨rest'', hrest'', -⟩ :=
    Parser.blind_definitionsUntilEnd _ (hwhole.alike_followedBy 0) hrest'
  exact ⟨rest'', hrest''⟩

theorem definitionFor?_name {l : Lexeme} {p : Parser Definition}
    (hbrace : l ≠ .punctuator .braceLeft) (h : Parser.definitionFor? false l = some p) :
    ∃ w, l = .name w ∧ w.text ∉ continuations := by
  cases l with
  | name w =>
    refine ⟨w, rfl, fun hmem => ?_⟩
    simp only [continuations, List.mem_cons, List.not_mem_nil, or_false] at hmem
    simp only [Parser.definitionFor?] at h
    rcases hmem with hword | hword | hword <;> rw [hword] at h <;> contradiction
  | punctuator p =>
    cases p with
    | braceLeft => contradiction
    | _ => contradiction
  | _ => contradiction

theorem startsAnew_of_definition {n : Nat} {ts : Tokens} {x : Definition × Tokens}
    (hreadable : ts.checked = .ok ts) (hbrace : ts.lexeme ≠ .punctuator .braceLeft)
    (h : Parser.definition n ts = .ok x) : ts.StartsAnew := by
  obtain ⟨ahead, p, hahead, hp, -⟩ := Parser.definition_eq_ok.mp h
  unfold Tokens.ahead at hahead
  cases hstring : ts.lexeme.isString with
  | true =>
    constructor
    · exact hreadable
    · intro p hword
      simp [hword, Lexeme.isString] at hstring
    · intro word _
      cases hword : ts.lexeme with
      | name w => simp [hword, Lexeme.isString] at hstring
      | _ => rfl
  | false =>
    rw [hstring] at hahead hp
    cases hahead
    obtain ⟨w, hw, hnot⟩ := definitionFor?_name hbrace hp
    refine ⟨hreadable, by simp [hw], fun word hmem => ?_⟩
    have htext : w.text ≠ word := by
      rintro rfl
      exact hnot hmem
    simp [hw, Parser.isKeyword, htext]

theorem eq_of_checked {ts t : Tokens} (h : ts.checked = .ok t) : t = ts := by
  cases ts with
  | stop e => contradiction
  | _ =>
    cases h
    rfl

end Tokens

/-- A text is a document if its words are definitions to the end, and there is one at least. -/
theorem Document.parse_eq_ok {source : String} {d : Document} :
    let ts := Tokens.ofSource source
    Document.parse source = .ok d ↔ ts.checked = .ok ts ∧ ts.lexeme ≠ .eof ∧
      ∃ rest, Parser.definitionsUntilEnd (ts.size + 2) ts.size ts = .ok (d, rest) := by
  intro ts
  constructor
  · intro h
    obtain ⟨ts', hts, h⟩ := bind_eq_ok.mp h
    obtain rfl := Tokens.eq_of_checked hts
    obtain ⟨⟨document, rest⟩, hdocument, hd⟩ := bind_eq_ok.mp h
    cases hd
    obtain ⟨⟨first, mid⟩, hfirst, h⟩ := bind_eq_ok.mp hdocument
    obtain ⟨⟨others, last⟩, hothers, hresult⟩ := bind_eq_ok.mp h
    cases hresult
    have hword : ts.lexeme ≠ .eof := Parser.lexeme_ne_eof_of_definition hfirst
    exact ⟨hts, hword, _, Parser.definitionsUntilEnd_succ.mpr
      (.inr ⟨hword, first, mid, others, hfirst, hothers, rfl⟩)⟩
  · rintro ⟨hts, hword, rest, hrun⟩
    obtain ⟨heof, -⟩ | ⟨-, first, mid, others, hfirst, hothers, rfl⟩ :=
      Parser.definitionsUntilEnd_succ.mp hrun
    · exact absurd heof hword
    · refine bind_eq_ok.mpr ⟨ts, hts, ?_⟩
      have hdocument : Parser.document ts.size ts = .ok (first :: others, rest) :=
        bind_eq_ok.mpr ⟨_, hfirst, bind_eq_ok.mpr ⟨_, hothers, rfl⟩⟩
      exact bind_eq_ok.mpr ⟨_, hdocument, rfl⟩

theorem Document.ne_nil_of_parse {source : String} {d : Document}
    (h : Document.parse source = .ok d) : d ≠ [] := by
  obtain ⟨-, hword, rest, hrun⟩ := Document.parse_eq_ok.mp h
  obtain ⟨heof, -⟩ | ⟨-, first, mid, others, -, -, rfl⟩ :=
    Parser.definitionsUntilEnd_succ.mp hrun
  · exact absurd heof hword
  · simp

namespace Schema

open Tokens

theorem holds_of_definitions {text : String} {part : Document}
    (hbrace : (Tokens.ofSource text).lexeme ≠ .punctuator .braceLeft)
    (h : definitions text = .ok part) : (Tokens.ofSource text).Holds part := by
  have hproper : (Tokens.ofSource text).Proper := proper_scan 0 text.toList
  obtain ⟨filled, hfilled, h⟩ := bind_eq_ok.mp h
  obtain ⟨ts, hts, hresult⟩ := bind_eq_ok.mp hfilled
  obtain rfl := eq_of_checked hts
  cases hresult
  by_cases heof : (Tokens.ofSource text).lexeme = .eof
  · simp only [heof, ne_eq, not_true_eq_false, decide_false, Bool.false_eq_true, if_false] at h
    cases h
    obtain ⟨start, hlast⟩ := hproper.eq_last hts heof
    rw [hlast]
    exact holds_last start
  · simp only [heof, ne_eq, not_false_eq_true, decide_true, if_true] at h
    obtain ⟨-, -, rest, hrun⟩ := Document.parse_eq_ok.mp h
    obtain ⟨heof', -⟩ | ⟨-, first, mid, others, hfirst, -⟩ :=
      Parser.definitionsUntilEnd_succ.mp hrun
    · exact absurd heof' heof
    · have hanew := startsAnew_of_definition hts hbrace hfirst
      exact holds_of_run hproper hanew (by omega) hrun

/-- The texts of a schema's files as one text. -/
theorem holds_joined {texts : List String} {parts : List Document} (hne : texts ≠ [])
    (hbrace : ∀ text ∈ texts, (Tokens.ofSource text).lexeme ≠ .punctuator .braceLeft)
    (h : List.Forall₂ (fun text part => definitions text = .ok part) texts parts) (offset : Nat) :
    (scan offset (['\n'].intercalate (texts.map String.toList))).Holds parts.flatten := by
  induction h generalizing offset with
  | nil => contradiction
  | @cons text part texts parts hpart hparts ih =>
    have hfirst : (scan offset text.toList).Holds part :=
      (holds_of_definitions (hbrace text (by simp)) hpart).of_alike (alike_scan_offset 0 offset _)
    cases hparts with
    | nil => simpa using hfirst
    | cons hpart' hparts =>
      rw [List.map_cons, List.map_cons, List.intercalate_cons_cons, List.append_assoc,
        List.singleton_append, scan_line offset _ _ hfirst.whole, List.flatten_cons]
      refine hfirst.followedBy ?_
      exact ih (by simp) (fun text htext => hbrace text (List.mem_cons_of_mem _ htext)) _

theorem definitions_ne_nil {text : String} {part : Document}
    (hsome : hasDefinitions text = .ok true) (h : definitions text = .ok part) : part ≠ [] := by
  have hparse : Document.parse text = .ok part := by
    rw [definitions, hsome] at h
    exact h
  exact Document.ne_nil_of_parse hparse

theorem flatten_ne_nil {texts : List String} {parts : List Document}
    (hsome : ∃ text ∈ texts, hasDefinitions text = .ok true)
    (h : List.Forall₂ (fun text part => definitions text = .ok part) texts parts) :
    parts.flatten ≠ [] := by
  obtain ⟨text, hmem, htext⟩ := hsome
  induction h with
  | nil => contradiction
  | @cons first part texts parts hpart _ ih =>
    rw [List.flatten_cons]
    rcases List.mem_cons.mp hmem with rfl | hmem
    · exact List.append_ne_nil_of_left_ne_nil (definitions_ne_nil htext hpart) _
    · exact List.append_ne_nil_of_right_ne_nil _ (ih hmem)

theorem parse_joined {texts : List String} {parts : List Document} (hne : parts.flatten ≠ [])
    (hbrace : ∀ text ∈ texts, (Tokens.ofSource text).lexeme ≠ .punctuator .braceLeft)
    (h : List.Forall₂ (fun text part => definitions text = .ok part) texts parts) :
    Document.parse ("\n".intercalate texts) = .ok parts.flatten := by
  have htexts : texts ≠ [] := by
    rintro rfl
    cases h
    contradiction
  have hsource : Tokens.ofSource ("\n".intercalate texts) =
      scan 0 (['\n'].intercalate (texts.map String.toList)) := by
    rw [Tokens.ofSource, String.toList_intercalate]
    rfl
  have hholds := holds_joined htexts hbrace h 0
  rw [← hsource] at hholds
  obtain ⟨rest, hrun⟩ := hholds.reads (Nat.lt_add_of_pos_right Nat.two_pos) (Nat.le_refl _)
  refine Document.parse_eq_ok.mpr ⟨hholds.whole.readable, ?_, rest, hrun⟩
  intro heof
  obtain ⟨-, hnone, -⟩ | ⟨hword, -⟩ := Parser.definitionsUntilEnd_succ.mp hrun
  · exact hne hnone
  · exact hword heof

/-- Files whose contents can be had, with their texts. -/
theorem exists_parts {files : List File} {texts : List String}
    (hparts : ∀ file ∈ files, ∃ part, contents file = .ok part)
    (htexts : List.Forall₂ HasText files texts) :
    ∃ parts, List.Forall₂ (fun file part => contents file = .ok part) files parts ∧
      List.Forall₂ (fun text part => definitions text = .ok part) texts parts := by
  induction htexts with
  | nil => exact ⟨[], .nil, .nil⟩
  | @cons file text files texts htext _ ih =>
    obtain ⟨path, content⟩ := file
    obtain ⟨bytes, rfl, hread⟩ := htext
    obtain ⟨part, hpart⟩ := hparts (path, .ok bytes) (by simp)
    obtain ⟨parts, hcontents, hdefinitions⟩ :=
      ih fun file hfile => hparts file (List.mem_cons_of_mem _ hfile)
    have hdefined : definitions text = .ok part := by
      have hshort : path.utf8ByteSize < Disk.pathBound := by
        by_contra hlong
        rw [contents, if_pos (Nat.not_lt.mp hlong)] at hpart
        contradiction
      rwa [contents_of_read hread hshort, mapError_eq_ok] at hpart
    exact ⟨part :: parts, .cons hpart hcontents, .cons hdefined hdefinitions⟩

/-- A schema in many files is read as the text that theirs make up, joined by line feeds, provided
that no file begins with a query in braces, which the definition before it could take for its
own part. -/
theorem load_eq_parse_joined {d : Disk} (hd : d.Proper) {path : String} {texts : List String}
    (htexts : List.Forall₂ HasText (selection d path) texts)
    (hparts : ∀ file ∈ selection d path, ∃ part, contents file = .ok part)
    (hsome : ∃ text ∈ texts, hasDefinitions text = .ok true)
    (hbrace : ∀ text ∈ texts, (Tokens.ofSource text).lexeme ≠ .punctuator .braceLeft) :
    ∃ document, (load d path).result = .ok document ∧
      Document.parse ("\n".intercalate texts) = .ok document := by
  obtain ⟨parts, hcontents, hdefinitions⟩ := exists_parts hparts htexts
  have hne := flatten_ne_nil hsome hdefinitions
  have hselection : selection d path ≠ [] := by
    intro hempty
    rw [hempty] at htexts
    cases htexts
    obtain ⟨text, hmem, -⟩ := hsome
    contradiction
  exact ⟨parts.flatten, (load_eq_ok_iff hd).mpr ⟨hselection, parts, hcontents, rfl⟩,
    parse_joined hne hbrace hdefinitions⟩

/-- Files that end in a comment, hold nothing, begin with a mark of byte order or a description, or
end where a definition might go on. -/
def dayDisk : Disk where
  entries := [
    (["schema"], .folder),
    (["schema", "e.gql"], .file (Text.Utf8.encode "\"a day\" enum Day")),
    (["schema", "d"], .folder),
    (["schema", "d", "e.graphqls"], .file (Text.Utf8.encode "\ufeffextend type Week @long")),
    (["schema", "b.graphql"], .file (Text.Utf8.encode "# none")),
    (["schema", "a.graphql"], .file (Text.Utf8.encode "type Week # of days")),
    (["schema", "notes.txt"], .file (Text.Utf8.encode "to do"))]

theorem dayDisk_proper : dayDisk.Proper where
  distinct := by decide
  named := by decide
  here := by decide

def dayTexts : List String :=
  ["type Week # of days", "# none", "\ufeffextend type Week @long", "\"a day\" enum Day"]

theorem selection_dayDisk :
    selection dayDisk "schema" =
      ["schema/a.graphql", "schema/b.graphql", "schema/d/e.graphqls", "schema/e.gql"].zip
        (dayTexts.map fun text => .ok (Text.Utf8.encode text)) := by
  have hloc : dayDisk.locateText "schema" = .ok ["schema"] := rfl
  exact selection_eq_of_perm dayDisk_proper hloc rfl (by decide +kernel) (by decide +kernel)

theorem load_eq_parse_joined_dayDisk :
    dayDisk.Proper ∧
      "\n".intercalate dayTexts =
        "type Week # of days\n# none\n\ufeffextend type Week @long\n\"a day\" enum Day" ∧
      ∃ document, (load dayDisk "schema").result = .ok document ∧
        Document.parse ("\n".intercalate dayTexts) = .ok document ∧
        document.outline =
          [(.objectTypeDefinition, some "Week"), (.objectTypeExtension, some "Week"),
            (.enumTypeDefinition, some "Day")] := by
  have htexts : List.Forall₂ HasText (selection dayDisk "schema") dayTexts := by
    rw [selection_dayDisk]
    exact .cons ⟨_, rfl, rfl⟩ (.cons ⟨_, rfl, rfl⟩ (.cons ⟨_, rfl, rfl⟩ (.cons ⟨_, rfl, rfl⟩ .nil)))
  have hparts : ∀ file ∈ selection dayDisk "schema", ∃ part, contents file = .ok part := by
    have hread : ∀ file ∈ selection dayDisk "schema", (contents file).toOption.isSome = true := by
      rw [selection_dayDisk]
      decide +kernel
    intro file hfile
    obtain ⟨part, hpart⟩ := Option.isSome_iff_exists.mp (hread file hfile)
    exact ⟨part, eq_ok_of_toOption hpart⟩
  have hsome : ∃ text ∈ dayTexts, hasDefinitions text = .ok true :=
    ⟨"type Week # of days", by simp [dayTexts], eq_ok_of_toOption (by decide +kernel)⟩
  obtain ⟨document, hload, hparse⟩ :=
    load_eq_parse_joined dayDisk_proper htexts hparts hsome (by decide +kernel)
  have houtline : ∃ joined, Document.parse ("\n".intercalate dayTexts) = .ok joined ∧
      joined.outline = [(.objectTypeDefinition, some "Week"), (.objectTypeExtension, some "Week"),
        (.enumTypeDefinition, some "Day")] :=
    exists_of_toOption_map (by decide +kernel)
  obtain ⟨joined, hjoined, houtline⟩ := houtline
  cases hparse.symm.trans hjoined
  exact ⟨dayDisk_proper, rfl, document, hload, hparse, houtline⟩

end Schema

end SchemaFold
