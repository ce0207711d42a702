import SchemaFold.Proofs.JoinedSchema

/-! Texts without words. A text counts as one without definitions exactly if it holds nothing but
what may stand between words. The reader of documents refuses such a text, and on every other text
reading a file agrees with it, errors included. -/

namespace SchemaFold

namespace Tokens

/-- Nothing but blanks, commas, line ends, byte order marks and comments. A comment goes on to the
end of its line. -/
inductive Wordless : List Char → Prop where
  | nil : Wordless []
  | blank {c : Char} {rest : List Char} (hc : c ∈ [' ', '\t', ',', '\n', '\r', '\ufeff'])
      (hrest : Wordless rest) : Wordless (c :: rest)
  | comment {body rest : List Char} (hbody : ∀ c ∈ body, c ≠ '\n' ∧ c ≠ '\r')
      (hend : ∀ c ∈ rest.head?, c = '\n' ∨ c = '\r') (hrest : Wordless rest) :
      Wordless ('#' :: (body ++ rest))

theorem isIgnored_iff {c : Char} :
    isIgnored c = true ↔ c ∈ [' ', '\t', ',', '\n', '\r', '\ufeff'] := by
  simp only [isIgnored, Lexeme.isLineEnd, Bool.or_eq_true, beq_iff_eq, List.mem_cons,
    List.not_mem_nil, or_false]
  tauto

theorem isLineEnd_iff {c : Char} : Lexeme.isLineEnd c = true ↔ c = '\n' ∨ c = '\r' := by
  simp only [Lexeme.isLineEnd, Bool.or_eq_true, beq_iff_eq]

theorem commentLength_append {body rest : List Char} (hbody : ∀ c ∈ body, c ≠ '\n' ∧ c ≠ '\r')
    (hend : ∀ c ∈ rest.head?, c = '\n' ∨ c = '\r') :
    commentLength (body ++ rest) = body.length := by
  have hinside : ∀ c ∈ body, (!Lexeme.isLineEnd c) = true := by
    intro c hc
    simpa [Lexeme.isLineEnd] using hbody c hc
  have hafter : rest.takeWhile (!Lexeme.isLineEnd ·) = [] := by
    cases rest with
    | nil => rfl
    | cons c rest =>
      have hc : Lexeme.isLineEnd c = true := isLineEnd_iff.mpr (hend c rfl)
      simp [hc]
  rw [commentLength, List.takeWhile_append_of_pos hinside, hafter, List.append_nil]

theorem drop_commentLength (cs : List Char) :
    cs.drop (commentLength cs) = cs.dropWhile (!Lexeme.isLineEnd ·) := by
  have hdrop : (cs.takeWhile (!Lexeme.isLineEnd ·) ++ cs.dropWhile (!Lexeme.isLineEnd ·)).drop
      (commentLength cs) = cs.dropWhile (!Lexeme.isLineEnd ·) := List.drop_left
  rwa [List.takeWhile_append_dropWhile] at hdrop

theorem Wordless.scan_eq {cs : List Char} (h : Wordless cs) (offset : Nat) :
    scan offset cs = .last (offset + cs.length) := by
  induction h generalizing offset with
  | nil => rw [scan, List.length_nil, Nat.add_zero]
  | blank hc _ ih =>
    rw [scan_ignored (isIgnored_iff.mpr hc), ih, List.length_cons]
    congr 1
    omega
  | @comment body rest hbody hend _ ih =>
    rw [scan_comment (by decide) rfl, commentLength_append hbody hend, List.drop_left, ih,
      List.length_cons, List.length_append]
    congr 1
    omega

theorem wordless_of_scan {offset stop : Nat} {cs : List Char} (h : scan offset cs = .last stop) :
    Wordless cs := by
  induction offset, cs using scan.induct with
  | case1 offset => exact .nil
  | case2 offset c rest hignored ih =>
    rw [scan_ignored hignored] at h
    exact .blank (isIgnored_iff.mp hignored) (ih h)
  | case3 offset c rest hignored hcomment ih =>
    rw [scan_comment hignored hcomment] at h
    obtain rfl := beq_iff_eq.mp hcomment
    have hrest := ih h
    rw [drop_commentLength] at hrest
    -- The comment is as long as it can be, so a line end or nothing follows it.
    rw [← List.takeWhile_append_dropWhile (p := (!Lexeme.isLineEnd ·)) (l := rest)]
    refine .comment ?_ ?_ hrest
    · intro c hc
      have hinside := List.mem_takeWhile_imp hc
      simpa [Lexeme.isLineEnd] using hinside
    · intro c hc
      have hafter := List.head?_dropWhile_not (!Lexeme.isLineEnd ·) rest
      rw [Option.mem_def.mp hc] at hafter
      exact isLineEnd_iff.mp (by simpa using hafter)
  | case4 offset c rest hignored hcomment e he =>
    rw [scan_of_error hignored hcomment he] at h
    contradiction
  | case5 offset c rest hignored hcomment l size hfound ih =>
    rw [scan_of_word hignored hcomment hfound] at h
    contradiction

end Tokens

theorem hasDefinitions_eq_false_iff {source : String} :
    hasDefinitions source = .ok false ↔ Tokens.Wordless source.toList := by
  constructor
  · intro h
    obtain ⟨ts, hts, hfalse⟩ := bind_eq_ok.mp h
    obtain rfl := Tokens.eq_of_checked hts
    have heof : (Tokens.ofSource source).lexeme = .eof := by simpa using hfalse
    obtain ⟨start, hlast⟩ := (Tokens.proper_scan 0 source.toList).eq_last hts heof
    exact Tokens.wordless_of_scan hlast
  · intro h
    rw [hasDefinitions, Tokens.ofSource, h.scan_eq]
    rfl

/-- There is nothing to define where the text ends at once. -/
theorem Document.parse_of_wordless {source : String} (h : Tokens.Wordless source.toList) :
    Document.parse source = .error ⟨.unexpected .eof, source.length⟩ := by
  rw [Document.parse, Tokens.ofSource, h.scan_eq, Nat.zero_add, String.length_toList]
  rfl

/-- Both stop at a first word that cannot be read. -/
theorem Document.parse_of_hasDefinitions_error {source : String} {e : SyntaxError}
    (h : hasDefinitions source = .error e) : Document.parse source = .error e := by
  rw [hasDefinitions] at h
  rw [Document.parse]
  cases hts : (Tokens.ofSource source).checked with
  | error first =>
    rw [hts, error_bind] at h
    cases h
    rw [error_bind]
  | ok ts =>
    rw [hts, ok_bind] at h
    contradiction

namespace Schema

theorem definitions_of_wordless {source : String} (h : Tokens.Wordless source.toList) :
    definitions source = .ok [] := by
  rw [definitions, hasDefinitions_eq_false_iff.mpr h]
  rfl

theorem definitions_of_not_wordless {source : String} (h : ¬Tokens.Wordless source.toList) :
    definitions source = Document.parse source := by
  rw [definitions]
  cases hfilled : hasDefinitions source with
  | error e => rw [Document.parse_of_hasDefinitions_error hfilled, error_bind]
  | ok filled =>
    cases filled with
    | true => rfl
    | false => exact absurd (hasDefinitions_eq_false_iff.mp hfilled) h

/-- A text counts as blank exactly if it has no words, and then it is no document. A first word that
cannot be read is the same error either way. So a file has no definitions exactly if its text has no
words, and otherwise those of the document or its error. -/
theorem readFile_agrees_with_parse (source : String) :
    (hasDefinitions source = .ok false ↔ Tokens.Wordless source.toList) ∧
    (Tokens.Wordless source.toList →
      Document.parse source = .error ⟨.unexpected .eof, source.length⟩) ∧
    (∀ e, hasDefinitions source = .error e → Document.parse source = .error e) ∧
    ∀ encoding file opened bytes, openFile encoding file = .ok (opened, bytes) →
      opened.read bytes = .ok source →
      ((readFile encoding file).result = .ok [] ↔ Tokens.Wordless source.toList) ∧
      (¬Tokens.Wordless source.toList →
        (∀ d, Document.parse source = .ok d → (readFile encoding file).result = .ok d) ∧
        ∀ e, Document.parse source = .error e →
          ∃ failure, (readFile encoding file).result = .error (.load failure) ∧
            failure.source = baseName file.1 ∧
            failure.cause = .invalid e (e.position source) ∧
            failure.cause.message = e.message ++ " (line " ++ toString (e.position source).line ++
              ", column " ++ toString (e.position source).column ++ ")") := by
  refine ⟨hasDefinitions_eq_false_iff, Document.parse_of_wordless,
    fun e => Document.parse_of_hasDefinitions_error, ?_⟩
  intro encoding file opened bytes hopen hread
  rw [readFile_of_read hopen hread]
  refine ⟨⟨?_, ?_⟩, ?_⟩
  · intro h
    by_contra hword
    rw [mapError_eq_ok, definitions_of_not_wordless hword] at h
    exact Document.ne_nil_of_parse h rfl
  · intro h
    rw [definitions_of_wordless h, mapError_ok]
  · intro h
    rw [definitions_of_not_wordless h]
    constructor
    · intro d hd
      rw [hd, mapError_ok]
    · intro e he
      rw [he, mapError_error]
      exact ⟨_, rfl, rfl, rfl, rfl⟩

/-- A text without words, one with a scalar and one with a first word that cannot be read. -/
theorem readFile_agrees_with_parse_tides :
    let blank := "\ufeff# none yet\n\t, "
    let named := "# one\nscalar Tide"
    let broken := "# one\n 'Tide'"
    let file := fun text : String => (("tides/a.gql", .ok (Text.Utf8.encode text)) : File)
    Document.parse blank = .error ⟨.unexpected .eof, 15⟩ ∧
      (readFile "utf-8" (file blank)).result = .ok [] ∧
      (∃ d, Document.parse named = .ok d ∧ d.length = 1 ∧
        (readFile "utf-8" (file named)).result = .ok d) ∧
      Document.parse broken = .error ⟨.singleQuote, 7⟩ ∧
      ∃ failure, (readFile "utf-8" (file broken)).result = .error (.load failure) ∧
        failure.message = "a.gql: Syntax Error: Unexpected single quote character ('), " ++
          "did you mean to use a double quote (\")? (line 2, column 2)" := by
  intro blank named broken file
  have hname : Text.Encoding.ofName "utf-8" = .ok .utf8 := rfl
  have hcheck : Disk.checkPath "tides/a.gql" = .ok () := by decide
  have hopen : ∀ text, openFile "utf-8" (file text) = .ok (.utf8, Text.Utf8.encode text) := by
    intro text
    simp [openFile, bytesOf, hname, file, hcheck]
  have hblank : hasDefinitions blank = .ok false := by decide +kernel
  have hnamed : hasDefinitions named = .ok true := by decide +kernel
  have hbroken : hasDefinitions broken = .error ⟨.singleQuote, 7⟩ := by decide +kernel
  obtain ⟨hwordless, hend, -, hfile⟩ := readFile_agrees_with_parse blank
  obtain ⟨hnamedWords, -, -, hnamedFile⟩ := readFile_agrees_with_parse named
  obtain ⟨hbrokenWords, -, hsame, hbrokenFile⟩ := readFile_agrees_with_parse broken
  have hlength : blank.length = 15 := by decide +kernel
  refine ⟨hlength ▸ hend (hwordless.mp hblank), ?_, ?_, hsame _ hbroken, ?_⟩
  · exact (hfile _ _ _ _ (hopen blank) (by decide +kernel)).1.mpr (hwordless.mp hblank)
  · obtain ⟨d, hd, hlength⟩ : ∃ d, Document.parse named = .ok d ∧ d.length = 1 :=
      exists_of_toOption_map (by decide +kernel)
    have hfilled : ¬Tokens.Wordless named.toList := by simp [← hnamedWords, hnamed]
    have hread := (hnamedFile _ _ _ _ (hopen named) (by decide +kernel)).2 hfilled
    exact ⟨d, hd, hlength, hread.1 d hd⟩
  · have hfilled : ¬Tokens.Wordless broken.toList := by simp [← hbrokenWords, hbroken]
    obtain ⟨failure, hresult, hsource, -, hmessage⟩ :=
      ((hbrokenFile _ _ _ _ (hopen broken) (by decide +kernel)).2 hfilled).2 _ (hsame _ hbroken)
    refine ⟨failure, hresult, ?_⟩
    rw [LoadError.message, hsource, hmessage]
    decide +kernel

end Schema
end SchemaFold
