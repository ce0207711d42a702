import SchemaFold.Proofs.LineEnds

/-! The words of a text and of the same text with its line ends unified. Strings stay in one line,
so they are read alike. A block string may go over many lines, and its value is made of the lines,
however they end. -/

namespace SchemaFold

namespace Lexeme

open Text

theorem readString_of_atBreak (offset : Nat) {cs : List Char} (h : atBreak cs = true) :
    (readString offset cs).toOption = none := by
  cases cs with
  | nil => simp [readString, Except.toOption]
  | cons c cs =>
    have hquote : (c == '"') = false := not_of_isLineEnd (p := (· == '"')) rfl rfl h
    have hslash : (c == '\\') = false := not_of_isLineEnd (p := (· == '\\')) rfl rfl h
    have hend : isLineEnd c = true := h
    rw [readString]
    simp [hquote, hslash, hend, Except.toOption]

theorem readString_unifyNewlines (offset : Nat) (cs : List Char) :
    (readString offset (unifyNewlines cs)).toOption = (readString offset cs).toOption := by
  induction offset, cs using readString.induct with
  | case1 offset => rfl
  | case2 offset c rest hquote =>
    have hc : c ≠ '\r' := by rintro rfl; contradiction
    rw [unifyNewlines_cons hc, readString, readString]
    simp [hquote]
  | case3 offset c rest hquote hslash cause hescape =>
    have hc : c ≠ '\r' := by rintro rfl; contradiction
    have hsame := (steady_escape rest).same
    rw [hescape] at hsame
    cases hother : readEscape (unifyNewlines rest) with
    | ok found => simp [hother, Except.toOption] at hsame
    | error cause' =>
      rw [unifyNewlines_cons hc, readString, readString]
      simp [hquote, hslash, hescape, hother, Except.toOption]
  | case4 offset c rest hquote hslash found size hescape ih =>
    have hc : c ≠ '\r' := by rintro rfl; contradiction
    have hclean := (steady_escape rest).inLine _ hescape
    have hother : readEscape (unifyNewlines rest) = .ok (found, size) :=
      eq_ok_of_toOption (by rw [(steady_escape rest).same, hescape]; rfl)
    rw [unifyNewlines_cons hc, readString, readString]
    simp [hquote, hslash, hescape, hother, unifyNewlines_drop hclean, ih]
  | case5 offset c rest hquote hslash hend =>
    -- Unifying may drop a character here, but both readings fail at the line end.
    have hb : atBreak (c :: rest) = true := hend
    have hb' := (atBreak_unifyNewlines (c :: rest)).trans hb
    rw [readString_of_atBreak offset hb, readString_of_atBreak offset hb']
  | case6 offset c rest hquote hslash hend ih =>
    have hc : c ≠ '\r' := by rintro rfl; contradiction
    rw [unifyNewlines_cons hc, readString, readString]
    simp [hquote, hslash, hend, ih]

theorem readString_inLine {offset stop : Nat} {cs value : List Char}
    (h : readString offset cs = .ok (value, stop)) :
    ∃ n, stop = offset + n ∧ '\r' ∉ cs.take n := by
  induction offset, cs using readString.induct generalizing value with
  | case1 offset => simp [readString] at h
  | case2 offset c rest hquote =>
    rw [readString] at h
    simp only [hquote, if_true] at h
    cases h
    exact ⟨1, rfl, by simp [beq_iff_eq.mp hquote]⟩
  | case3 offset c rest hquote hslash cause hescape =>
    rw [readString] at h
    simp [hquote, hslash, hescape] at h
  | case4 offset c rest hquote hslash found size hescape ih =>
    rw [readString] at h
    simp only [hquote, hslash, hescape, if_true, Bool.false_eq_true, if_false] at h
    obtain ⟨⟨tail, stop'⟩, htail, hresult⟩ := bind_eq_ok.mp h
    cases hresult
    obtain ⟨n, hn, hclean⟩ := ih htail
    have hfirst := (steady_escape rest).inLine _ hescape
    refine ⟨size + n + 1, by omega, ?_⟩
    have hc : isLineEnd c = false := isLineEnd_of_holds (p := (· == '\\')) rfl rfl hslash
    exact not_mem_take_cons hc (not_mem_take_add hfirst hclean)
  | case5 offset c rest hquote hslash hend =>
    rw [readString] at h
    simp [hquote, hslash, hend] at h
  | case6 offset c rest hquote hslash hend ih =>
    rw [readString] at h
    simp only [hquote, hslash, hend, Bool.false_eq_true, if_false] at h
    obtain ⟨⟨tail, stop'⟩, htail, hresult⟩ := bind_eq_ok.mp h
    cases hresult
    obtain ⟨n, hn, hclean⟩ := ih htail
    exact ⟨n + 1, by omega, not_mem_take_cons (by simpa using hend) hclean⟩

/-- Both readings fail, or they find the same lines and the text goes on alike after them. -/
def SameBlock (cs : List Char) (offset offset' : Nat)
    (r r' : Except SyntaxError (List (List Char) × Nat)) : Prop :=
  (∃ e e', r = .error e ∧ r' = .error e') ∨
    ∃ lines n n', r = .ok (lines, offset + n) ∧ r' = .ok (lines, offset' + n') ∧
      (unifyNewlines cs).drop n' = unifyNewlines (cs.drop n)

/-- What comes of reading on, after `k` characters of one text and `k'` of the other. -/
theorem SameBlock.step {cs rest : List Char} {offset offset' k k' : Nat}
    {r r' : Except SyntaxError (List (List Char) × Nat)}
    {f : List (List Char) → List (List Char)} (h : SameBlock rest (offset + k) (offset' + k') r r')
    (hrest : cs.drop k = rest) (hunified : (unifyNewlines cs).drop k' = unifyNewlines rest) :
    SameBlock cs offset offset' (do let (lines, stop) ← r; return (f lines, stop))
      (do let (lines, stop) ← r'; return (f lines, stop)) := by
  rcases h with ⟨e, e', rfl, rfl⟩ | ⟨lines, n, n', rfl, rfl, hdrop⟩
  · exact .inl ⟨e, e', rfl, rfl⟩
  · refine .inr ⟨f lines, k + n, k' + n', ?_, ?_, ?_⟩
    · simp [Nat.add_assoc]
    · simp [Nat.add_assoc]
    · rw [← List.drop_drop, hunified, hdrop, ← hrest, List.drop_drop]

theorem readBlockString_cons {c : Char} {rest : List Char} (offset : Nat)
    (hclose : ¬['"', '"', '"'] <+: c :: rest) (hescape : ¬['\\', '"', '"', '"'] <+: c :: rest)
    (hpair : ¬['\r', '\n'] <+: c :: rest) :
    readBlockString offset (c :: rest) = do
      let (lines, stop) ← readBlockString (offset + 1) rest
      return (if isLineEnd c then [] :: lines else onFirstLine [c] lines, stop) := by
  rw [readBlockString]
  · rintro tail rfl rfl
    exact hclose ⟨tail, rfl⟩
  · rintro tail rfl rfl
    exact hescape ⟨tail, rfl⟩
  · rintro tail rfl rfl
    exact hpair ⟨tail, rfl⟩

theorem not_isPrefix_of_head {front cs : List Char} {c d : Char} (h : d ≠ c) :
    ¬(d :: front) <+: c :: cs := by
  rintro ⟨tail, ht⟩
  exact h (List.cons.inj ht).1

theorem not_isPrefix_cons {front rest : List Char} {c d : Char}
    (h : ∀ tail, c = d → rest = front ++ tail → False) : ¬(d :: front) <+: c :: rest := by
  rintro ⟨tail, ht⟩
  obtain ⟨rfl, rfl⟩ := List.cons.inj ht
  exact h tail rfl rfl

theorem sameBlock_readBlockString (offset offset' : Nat) (cs : List Char) :
    SameBlock cs offset offset' (readBlockString offset cs)
      (readBlockString offset' (unifyNewlines cs)) := by
  induction offset, cs using readBlockString.induct generalizing offset' with
  | case1 offset rest => exact .inr ⟨[[]], 3, 3, rfl, rfl, rfl⟩
  | case2 offset rest ih => exact (ih (offset' + 4)).step rfl rfl
  -- A return and a feed are one line end, as the feed is that stands for both.
  | case3 offset rest ih => exact (ih (offset' + 1)).step rfl rfl
  | case4 offset c rest hclose hescape hpair ih =>
    have hclose' : ¬['"', '"', '"'] <+: c :: rest := not_isPrefix_cons hclose
    have hescape' : ¬['\\', '"', '"', '"'] <+: c :: rest := not_isPrefix_cons hescape
    have hpair' : ¬['\r', '\n'] <+: c :: rest := not_isPrefix_cons hpair
    rw [readBlockString_cons offset hclose' hescape' hpair']
    by_cases hc : c = '\r'
    · subst hc
      have hu : unifyNewlines ('\r' :: rest) = '\n' :: unifyNewlines rest :=
        unifyNewlines_return (by simpa using hpair')
      rw [hu, readBlockString_cons offset' (not_isPrefix_of_head (by decide))
        (not_isPrefix_of_head (by decide)) (not_isPrefix_of_head (by decide))]
      exact (ih (offset' + 1)).step rfl (by rw [hu]; rfl)
    · have hu := unifyNewlines_cons hc rest
      rw [← isPrefix_unifyNewlines _ rfl, hu] at hclose' hescape'
      rw [hu, readBlockString_cons offset' hclose' hescape' (not_isPrefix_of_head (Ne.symm hc))]
      exact (ih (offset' + 1)).step
        (f := fun lines => if isLineEnd c then [] :: lines else onFirstLine [c] lines) rfl
        (by rw [hu]; rfl)
  | case5 offset => exact .inl ⟨_, _, rfl, rfl⟩

/-- Both readings of a word fail, or they find the same word and the text goes on alike after it. -/
inductive SameWord (rest : List Char) : Read → Read → Prop
  | fault (e e' : SyntaxError) : SameWord rest (.error e) (.error e')
  | word (l : Lexeme) {size size' : Nat}
      (h : (unifyNewlines rest).drop size' = unifyNewlines (rest.drop size)) :
    SameWord rest (.ok (l, size)) (.ok (l, size'))

theorem SameWord.of_steady {rest : List Char} {r r' : Read} (hsame : r'.toOption = r.toOption)
    (hline : ∀ word, r = .ok word → '\r' ∉ rest.take word.2) : SameWord rest r r' := by
  cases r with
  | error e =>
    cases r' with
    | error e' => exact .fault e e'
    | ok word => simp [Except.toOption] at hsame
  | ok word =>
    obtain ⟨l, size⟩ := word
    rw [eq_ok_of_toOption hsame]
    exact .word l (unifyNewlines_drop (hline _ rfl))

theorem not_mem_take_pred {c : Char} {rest : List Char} {n : Nat}
    (h : '\r' ∉ (c :: rest).take n) : '\r' ∉ rest.take (n - 1) := by
  cases n with
  | zero => simp
  | succ n =>
    simp only [List.take_succ_cons, List.mem_cons, not_or] at h
    exact h.2

theorem sameWord_number {c : Char} (h : isLineEnd c = false) (rest : List Char) :
    SameWord rest (do let (number, size) ← readNumber (c :: rest); return (number, size - 1))
      (do
        let (number, size) ← readNumber (c :: unifyNewlines rest)
        return (number, size - 1)) := by
  have hc : c ≠ '\r' := by rintro rfl; contradiction
  have hsteady := steady_number (c :: rest)
  have hsame := hsteady.same
  rw [unifyNewlines_cons hc] at hsame
  apply SameWord.of_steady
  · rw [toOption_bind, toOption_bind, hsame]
  · intro word hword
    obtain ⟨⟨number, size⟩, hnumber, hresult⟩ := bind_eq_ok.mp hword
    cases hresult
    exact not_mem_take_pred (hsteady.inLine _ hnumber)

theorem sameWord_name {c : Char} (hstart : Name.isStart c = true) (rest : List Char) :
    SameWord rest (.ok (.name (Name.read c rest hstart), (rest.takeWhile Name.isContinue).length))
      (.ok (.name (Name.read c (unifyNewlines rest) hstart),
        ((unifyNewlines rest).takeWhile Name.isContinue).length)) := by
  have hname : Name.read c (unifyNewlines rest) hstart = Name.read c rest hstart := by
    simp [Name.read, takeWhile_unifyNewlines (p := Name.isContinue) rfl rfl]
  rw [hname, takeWhile_unifyNewlines (p := Name.isContinue) rfl rfl]
  exact .word _ (unifyNewlines_drop (not_mem_take_takeWhile rfl rest))

/-- The word that a quote begins. -/
def readQuoted (cs : List Char) : Read :=
  match cs with
  | '"' :: '"' :: body => do
    let (lines, stop) ← readBlockString 3 body
    return (.blockString (BlockString.value lines), stop - 1)
  | body => do
    let (value, stop) ← readString 1 body
    return (.string (String.ofList value), stop - 1)

theorem readQuoted_of_string {cs : List Char} (h : ¬['"', '"'] <+: cs) :
    readQuoted cs = do
      let (value, stop) ← readString 1 cs
      return (.string (String.ofList value), stop - 1) := by
  unfold readQuoted
  split
  · rename_i body
    exact absurd ⟨body, rfl⟩ h
  · rfl

theorem readQuoted_of_block (body : List Char) :
    readQuoted ('"' :: '"' :: body) = do
      let (lines, stop) ← readBlockString 3 body
      return (.blockString (BlockString.value lines), stop - 1) := rfl

theorem sameWord_quoted (rest : List Char) :
    SameWord rest (readQuoted rest) (readQuoted (unifyNewlines rest)) := by
  by_cases hblock : ['"', '"'] <+: rest
  · obtain ⟨body, hbody⟩ := hblock
    have hrest : rest = '"' :: '"' :: body := hbody.symm
    have hu : unifyNewlines ('"' :: '"' :: body) = '"' :: '"' :: unifyNewlines body := rfl
    subst hrest
    rw [hu, readQuoted_of_block, readQuoted_of_block]
    rcases sameBlock_readBlockString 3 3 body with ⟨e, e', h, h'⟩ | ⟨lines, n, n', h, h', hdrop⟩
    · rw [h, h']
      exact .fault e e'
    · have hn : 3 + n - 1 = n + 2 := by omega
      have hn' : 3 + n' - 1 = n' + 2 := by omega
      simp only [h, h', ok_bind, hn, hn', pure_eq_ok]
      exact .word _ hdrop
  · have hblock' := mt (isPrefix_unifyNewlines ['"', '"'] rfl rest).mp hblock
    rw [readQuoted_of_string hblock, readQuoted_of_string hblock']
    apply SameWord.of_steady
    · rw [toOption_bind, toOption_bind, readString_unifyNewlines]
    · intro word hword
      obtain ⟨⟨value, stop⟩, hstring, hresult⟩ := bind_eq_ok.mp hword
      cases hresult
      obtain ⟨n, rfl, hclean⟩ := readString_inLine hstring
      simpa using hclean

/-- A character that no word begins with, unless it is the first of three points. -/
theorem read_error {c : Char} (hp : Punctuator.ofChar? c = none)
    (hd : ¬(c.isDigit || c == '-') = true) (hn : ¬Name.isStart c = true) (hq : ¬(c == '"') = true)
    {cs : List Char} (hspread : ¬(c = '.' ∧ ['.', '.'] <+: cs)) : ∃ e, read c cs = .error e := by
  simp only [read, hp]
  rw [if_neg hd, dif_neg hn, if_neg hq]
  split
  · rename_i tail _
    exact absurd ⟨rfl, tail, rfl⟩ hspread
  · exact ⟨_, rfl⟩
  · exact ⟨_, rfl⟩

theorem sameWord_read {c : Char} (h : isLineEnd c = false) (rest : List Char) :
    SameWord rest (read c rest) (read c (unifyNewlines rest)) := by
  cases hp : Punctuator.ofChar? c with
  | some p =>
    simp only [read, hp]
    exact .word _ rfl
  | none =>
    by_cases hd : (c.isDigit || c == '-') = true
    · simp only [read, hp, hd, if_true]
      exact sameWord_number h rest
    · by_cases hn : Name.isStart c = true
      · simp only [read, hp, hd, hn, dite_true]
        exact sameWord_name hn rest
      · by_cases hq : (c == '"') = true
        · simp only [read, hp, hd, hn, hq, if_true]
          exact sameWord_quoted rest
        · have hpoints := isPrefix_unifyNewlines ['.', '.'] rfl rest
          by_cases hspread : c = '.' ∧ ['.', '.'] <+: rest
          · obtain ⟨rfl, tail, rfl⟩ := hspread
            exact .word _ rfl
          · obtain ⟨e, he⟩ := read_error hp hd hn hq hspread
            rw [← hpoints] at hspread
            obtain ⟨e', he'⟩ := read_error hp hd hn hq hspread
            rw [he, he']
            exact .fault e e'

end Lexeme

/-- Words that differ at most in where they start, and errors that end them. -/
inductive Tokens.Alike : Tokens → Tokens → Prop
  | last (start start' : Nat) : Alike (.last start) (.last start')
  | stop (e e' : SyntaxError) : Alike (.stop e) (.stop e')
  | cons (l : Lexeme) (start start' : Nat) {rest rest' : Tokens} (h : Alike rest rest') :
    Alike (.cons ⟨l, start⟩ rest) (.cons ⟨l, start'⟩ rest')

namespace Tokens

open Text

theorem Alike.symm {ts ts' : Tokens} (h : Alike ts ts') : Alike ts' ts := by
  induction h with
  | last start start' => exact .last start' start
  | stop e e' => exact .stop e' e
  | cons l start start' h ih => exact .cons l start' start ih

theorem Alike.lexeme_eq {ts ts' : Tokens} (h : Alike ts ts') : ts.lexeme = ts'.lexeme := by
  cases h <;> rfl

theorem Alike.size_eq {ts ts' : Tokens} (h : Alike ts ts') : ts.size = ts'.size := by
  induction h with
  | last start start' => rfl
  | stop e e' => rfl
  | cons l start start' h ih => simp [size, ih]

theorem Alike.checked {ts ts' t : Tokens} (h : Alike ts ts') (ht : ts.checked = .ok t) :
    ∃ t', ts'.checked = .ok t' ∧ Alike t t' := by
  cases h with
  | last start start' =>
    cases ht
    exact ⟨_, rfl, .last start start'⟩
  | stop e e' => contradiction
  | cons l start start' h =>
    cases ht
    exact ⟨_, rfl, .cons l start start' h⟩

theorem Alike.next {ts ts' t : Tokens} (h : Alike ts ts') (ht : ts.next = .ok t) :
    ∃ t', ts'.next = .ok t' ∧ Alike t t' := by
  cases h with
  | last start start' => exact (Alike.last start start').checked ht
  | stop e e' => contradiction
  | cons l start start' h => exact h.checked ht

theorem scan_ignored {c : Char} (h : isIgnored c = true) (offset : Nat) (rest : List Char) :
    scan offset (c :: rest) = scan (offset + 1) rest := by
  rw [scan, if_pos h]

theorem scan_of_error {c : Char} {rest : List Char} {e : SyntaxError}
    (hignored : ¬isIgnored c = true) (hcomment : ¬(c == '#') = true)
    (h : Lexeme.read c rest = .error e) (offset : Nat) :
    scan offset (c :: rest) = .stop ⟨e.cause, offset + e.offset⟩ := by
  rw [scan, if_neg hignored, if_neg hcomment, h]

theorem scan_of_word {c : Char} {rest : List Char} {l : Lexeme} {size : Nat}
    (hignored : ¬isIgnored c = true) (hcomment : ¬(c == '#') = true)
    (h : Lexeme.read c rest = .ok (l, size)) (offset : Nat) :
    scan offset (c :: rest) =
      .cons ⟨l, offset⟩ (scan (offset + 1 + size) (rest.drop size)) := by
  rw [scan, if_neg hignored, if_neg hcomment, h]

theorem isLineEnd_of_not_ignored {c : Char} (h : ¬isIgnored c = true) :
    Lexeme.isLineEnd c = false := by
  simp only [isIgnored, Bool.or_eq_true, not_or, Bool.not_eq_true] at h
  exact h.2

theorem commentLength_unifyNewlines (cs : List Char) :
    commentLength (unifyNewlines cs) = commentLength cs := by
  unfold commentLength
  rw [takeWhile_unifyNewlines rfl rfl]

theorem alike_scan (offset offset' : Nat) (cs : List Char) :
    Alike (scan offset cs) (scan offset' (unifyNewlines cs)) := by
  induction offset, cs using scan.induct generalizing offset' with
  | case1 offset =>
    have hu : unifyNewlines [] = [] := rfl
    rw [hu, scan, scan]
    exact .last offset offset'
  | case2 offset c rest hignored ih =>
    rw [scan_ignored hignored]
    by_cases hc : c = '\r'
    · subst hc
      by_cases hpair : ['\n'] <+: rest
      · -- The feed that stands for both characters is still to be passed.
        obtain ⟨tail, rfl⟩ := hpair
        exact ih offset'
      · rw [unifyNewlines_return hpair, scan_ignored rfl]
        exact ih (offset' + 1)
    · rw [unifyNewlines_cons hc, scan_ignored hignored]
      exact ih (offset' + 1)
  | case3 offset c rest hignored hcomment ih =>
    have hc : c ≠ '\r' := by rintro rfl; contradiction
    have hclean : '\r' ∉ rest.take (commentLength rest) := not_mem_take_takeWhile rfl rest
    rw [unifyNewlines_cons hc, scan, scan, if_neg hignored, if_neg hignored, if_pos hcomment,
      if_pos hcomment, commentLength_unifyNewlines, unifyNewlines_drop hclean]
    exact ih _
  | case4 offset c rest hignored hcomment e he =>
    have hend := isLineEnd_of_not_ignored hignored
    have hc : c ≠ '\r' := by rintro rfl; contradiction
    have hword := Lexeme.sameWord_read hend rest
    rw [he] at hword
    rw [unifyNewlines_cons hc, scan_of_error hignored hcomment he]
    generalize hother : Lexeme.read c (unifyNewlines rest) = r at hword
    cases hword with
    | fault _ e' =>
      rw [scan_of_error hignored hcomment hother]
      exact .stop _ _
  | case5 offset c rest hignored hcomment l size hfound ih =>
    have hend := isLineEnd_of_not_ignored hignored
    have hc : c ≠ '\r' := by rintro rfl; contradiction
    have hword := Lexeme.sameWord_read hend rest
    rw [hfound] at hword
    rw [unifyNewlines_cons hc, scan_of_word hignored hcomment hfound]
    generalize hother : Lexeme.read c (unifyNewlines rest) = r at hword
    cases hword with
    | word _ hdrop =>
      rw [scan_of_word hignored hcomment hother, hdrop]
      exact .cons l offset offset' (ih _)

/-- Texts that differ in their line ends have the same words. -/
theorem alike_ofSource (source : String) :
    Alike (ofSource source) (ofSource (String.ofList (unifyNewlines source.toList))) := by
  have h := alike_scan 0 0 source.toList
  simpa [ofSource] using h

end Tokens
end SchemaFold
