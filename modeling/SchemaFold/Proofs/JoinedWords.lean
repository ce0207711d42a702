import SchemaFold.Proofs.SameWords

/-! The words of a text to which more lines are added. No word goes over the end of a text that
can be read to its end, so its words stay as they are and those of the added lines follow. -/

namespace SchemaFold

namespace Lexeme

open Text

theorem drop_line {cs : List Char} {n : Nat} (h : n ≤ cs.length) (more : List Char) :
    (cs ++ '\n' :: more).drop n = cs.drop n ++ '\n' :: more :=
  List.drop_append_of_le_length h

theorem takeWhile_line {p : Char → Bool} (hp : p '\n' = false) (cs more : List Char) :
    (cs ++ '\n' :: more).takeWhile p = cs.takeWhile p := by
  induction cs with
  | nil => simp [hp]
  | cons c cs ih => simp [List.takeWhile_cons, ih]

theorem length_takeWhile_le (p : Char → Bool) (cs : List Char) :
    (cs.takeWhile p).length ≤ cs.length :=
  (List.takeWhile_prefix p).length_le

/-- A front without line feeds does not reach into the added lines. -/
theorem isPrefix_line {front : List Char} (hf : '\n' ∉ front) (cs more : List Char) :
    front <+: cs ++ '\n' :: more ↔ front <+: cs := by
  induction front generalizing cs with
  | nil => simp
  | cons d front ih =>
    simp only [List.mem_cons, not_or] at hf
    cases cs with
    | nil => simp [Ne.symm hf.1]
    | cons c cs => simp [List.cons_prefix_cons, ih hf.2]

/-- What a reader finds in `cs` takes up `size` of its characters, and is found there as well where
more lines follow. -/
def Settled {ε α : Type} (size : α → Nat) (r : List Char → Except ε α) (cs : List Char) : Prop :=
  ∀ a, r cs = .ok a → size a ≤ cs.length ∧ ∀ more, r (cs ++ '\n' :: more) = .ok a

theorem Settled.bind {ε α β : Type} {size : α → Nat} {size' : β → Nat}
    {r : List Char → Except ε α} {k : α → List Char → Except ε β} {cs : List Char}
    (hr : Settled size r cs) (hk : ∀ a, size a ≤ cs.length → Settled size' (k a) cs) :
    Settled size' (fun cs => r cs >>= fun a => k a cs) cs := by
  intro b h
  obtain ⟨a, ha, hb⟩ := bind_eq_ok.mp h
  obtain ⟨hsize, hmore⟩ := hr a ha
  obtain ⟨hsize', hmore'⟩ := hk a hsize b hb
  exact ⟨hsize', fun more => bind_eq_ok.mpr ⟨a, hmore more, hmore' more⟩⟩

theorem Settled.drop {ε α : Type} {size : α → Nat} {r : List Char → Except ε α} {cs : List Char}
    {n : Nat} (hn : n ≤ cs.length) (hr : Settled size r (cs.drop n)) :
    Settled (fun a => n + size a) (fun cs => r (cs.drop n)) cs := by
  intro a h
  obtain ⟨hsize, hmore⟩ := hr a h
  rw [List.length_drop] at hsize
  refine ⟨by simp only; omega, fun more => ?_⟩
  simp only [drop_line hn]
  exact hmore more

theorem Settled.map_cons {ε : Type} {r r' : List Char → Except ε Nat} {c : Char} {cs : List Char}
    (hr : Settled id r cs) (h : ∀ ds, r' (c :: ds) = (· + 1) <$> r ds) :
    Settled id r' (c :: cs) := by
  intro n hn
  rw [h] at hn
  obtain ⟨m, hm, rfl⟩ := map_eq_ok.mp hn
  obtain ⟨hsize, hmore⟩ := hr m hm
  refine ⟨Nat.succ_le_succ hsize, fun more => ?_⟩
  rw [List.cons_append, h, hmore more]
  rfl

theorem Settled.of_zero {ε : Type} {r : List Char → Except ε Nat} {cs : List Char}
    (h : r cs = .ok 0) (hmore : ∀ more, r (cs ++ '\n' :: more) = .ok 0) : Settled id r cs := by
  intro n hn
  cases h.symm.trans hn
  exact ⟨Nat.zero_le _, hmore⟩

theorem settled_digits (offset : Nat) (cs : List Char) : Settled id (readDigits offset) cs := by
  intro n h
  unfold readDigits at h ⊢
  simp only [takeWhile_line (p := Char.isDigit) rfl]
  split at h
  · contradiction
  · rename_i m hm
    cases h
    refine ⟨?_, fun more => rfl⟩
    exact hm.symm.trans_le (length_takeWhile_le Char.isDigit cs)

theorem settled_whole (offset : Nat) (cs : List Char) : Settled id (readWhole offset) cs := by
  rcases cs with _ | ⟨c, cs⟩
  · intro n h
    contradiction
  · by_cases hz : c = '0'
    · subst hz
      cases cs with
      | nil =>
        intro n h
        cases h
        exact ⟨Nat.le_refl _, fun more => rfl⟩
      | cons d cs =>
        intro n h
        have hd : ¬d.isDigit = true := by
          intro hd
          simp [readWhole, hd] at h
        simp only [readWhole, if_neg hd] at h
        cases h
        refine ⟨by simp, fun more => ?_⟩
        simp [readWhole, hd]
    · intro n h
      rw [readWhole_of_ne_zero offset hz] at h
      obtain ⟨hsize, hmore⟩ := settled_digits offset (c :: cs) n h
      refine ⟨hsize, fun more => ?_⟩
      rw [List.cons_append, readWhole_of_ne_zero offset hz]
      exact hmore more

theorem settled_fraction (offset : Nat) (cs : List Char) :
    Settled id (readFraction offset) cs := by
  cases cs with
  | nil => exact .of_zero rfl fun _ => rfl
  | cons c cs =>
    by_cases hp : c = '.'
    · subst hp
      exact .map_cons (settled_digits (offset + 1) cs) fun _ => rfl
    · exact .of_zero (readFraction_of_ne hp cs) fun _ => readFraction_of_ne hp _

theorem settled_power (offset : Nat) (cs : List Char) : Settled id (readPower offset) cs := by
  cases cs with
  | nil =>
    intro n h
    contradiction
  | cons c cs =>
    by_cases hs : isSign c = true
    · exact .map_cons (settled_digits (offset + 2) cs) fun _ => by rw [readPower, if_pos hs]
    · intro n h
      rw [readPower, if_neg hs] at h
      obtain ⟨hsize, hmore⟩ := settled_digits (offset + 1) (c :: cs) n h
      refine ⟨hsize, fun more => ?_⟩
      rw [List.cons_append, readPower, if_neg hs]
      exact hmore more

theorem settled_exponent (offset : Nat) (cs : List Char) :
    Settled id (readExponent offset) cs := by
  cases cs with
  | nil => exact .of_zero rfl fun _ => rfl
  | cons c cs =>
    by_cases hm : isExponentMark c = true
    · exact .map_cons (settled_power offset cs) fun _ => by rw [readExponent_cons, if_pos hm]
    · have hnone : ∀ ds, readExponent offset (c :: ds) = .ok 0 := by
        intro ds
        rw [readExponent_cons, if_neg hm]
      exact .of_zero (hnone cs) fun _ => hnone _

theorem settled_numberOfSize {size : Nat} (whole : Bool) {cs : List Char} (h : size ≤ cs.length) :
    Settled Prod.snd (numberOfSize size whole) cs := by
  intro word hword
  have htake : ∀ more, (cs ++ '\n' :: more).take size = cs.take size := fun _ =>
    List.take_append_of_le_length h
  cases hd : cs.drop size with
  | nil =>
    have hbreak : atBreak (cs.drop size) = true := by rw [hd]; rfl
    rw [numberOfSize_of_atBreak whole hbreak] at hword
    cases hword
    refine ⟨h, fun more => ?_⟩
    have hbreak' : atBreak ((cs ++ '\n' :: more).drop size) = true := by
      rw [drop_line h, hd]
      rfl
    rw [numberOfSize_of_atBreak whole hbreak', htake]
  | cons c rest =>
    have hsame : ∀ more, numberOfSize size whole (cs ++ '\n' :: more) =
        numberOfSize size whole cs := by
      intro more
      simp [numberOfSize, htake, drop_line h, hd]
    refine ⟨?_, fun more => (hsame more).trans hword⟩
    simp only [numberOfSize, hd, List.head?_cons] at hword
    split at hword
    · contradiction
    · cases hword
      exact h

theorem settled_numberAfter {sign : Nat} {cs : List Char} (h : sign ≤ cs.length) :
    Settled Prod.snd (numberAfter sign) cs := by
  apply Settled.bind (.drop h (settled_whole sign _))
  intro whole hwhole
  apply Settled.bind (.drop hwhole (settled_fraction (sign + whole) _))
  intro fraction hfraction
  apply Settled.bind (.drop hfraction (settled_exponent (sign + whole + fraction) _))
  intro exponent hexponent
  exact settled_numberOfSize _ hexponent

theorem settled_number (c : Char) (cs : List Char) : Settled Prod.snd readNumber (c :: cs) := by
  have hread : ∀ cs, readNumber cs = numberAfter (signLength cs) cs := fun _ => rfl
  have hsign : ∀ ds, signLength (c :: ds) = signLength (c :: cs) := by
    intro ds
    by_cases hm : c = '-'
    · subst hm
      rfl
    · rw [signLength_of_ne hm, signLength_of_ne hm]
  have hlength : signLength (c :: cs) ≤ (c :: cs).length := by
    by_cases hm : c = '-'
    · subst hm
      simp [signLength]
    · simp [signLength_of_ne hm]
  intro word hword
  rw [hread] at hword
  obtain ⟨hsize, hmore⟩ := settled_numberAfter hlength word hword
  refine ⟨hsize, fun more => ?_⟩
  rw [hread, List.cons_append, hsign]
  exact hmore more

theorem hexDigits?_append {n code value : Nat} {cs : List Char}
    (h : hexDigits? n code cs = some value) :
    n ≤ cs.length ∧ ∀ more, hexDigits? n code (cs ++ more) = some value := by
  induction n generalizing code cs with
  | zero => exact ⟨Nat.zero_le _, fun more => h⟩
  | succ n ih =>
    cases cs with
    | nil => contradiction
    | cons c cs =>
      obtain ⟨d, hd, hrest⟩ := Option.bind_eq_some_iff.mp h
      obtain ⟨hlength, hmore⟩ := ih hrest
      refine ⟨Nat.succ_le_succ hlength, fun more => ?_⟩
      exact Option.bind_eq_some_iff.mpr ⟨d, hd, hmore more⟩

theorem hexFour?_append {code : Nat} {cs : List Char} (h : hexFour? cs = some code) :
    4 ≤ cs.length ∧ ∀ more, hexFour? (cs ++ more) = some code := by
  rw [hexFour?_eq] at h
  simp only [hexFour?_eq]
  exact hexDigits?_append h

theorem settled_fixedEscape (cs : List Char) :
    Settled (fun found => found.2 - 1) readFixedEscape cs := by
  intro found h
  have hfound : (readFixedEscape cs).toOption = some found := by rw [h]; rfl
  have hsame : ∀ more, (readFixedEscape (cs ++ '\n' :: more)).toOption = some found →
      readFixedEscape (cs ++ '\n' :: more) = .ok found := fun _ => eq_ok_of_toOption
  rw [readFixedEscape_eq] at hfound
  obtain ⟨code, hcode, hfound⟩ := Option.bind_eq_some_iff.mp hfound
  obtain ⟨hfour, hmore⟩ := hexFour?_append hcode
  cases hscalar : scalarValue? code with
  | some c =>
    simp only [hscalar] at hfound
    cases hfound
    refine ⟨hfour, fun more => hsame more ?_⟩
    rw [readFixedEscape_eq, hmore, Option.bind_some, hscalar]
  | none =>
    simp only [hscalar] at hfound
    by_cases hmark : ['\\', 'u'] <+: cs.drop 4
    · rw [if_pos hmark] at hfound
      obtain ⟨c, hc, rfl⟩ := Option.map_eq_some_iff.mp hfound
      obtain ⟨low, hlow, hpair⟩ := Option.bind_eq_some_iff.mp hc
      obtain ⟨hlength, hmore'⟩ := hexFour?_append hlow
      rw [List.length_drop] at hlength
      refine ⟨by simp only; omega, fun more => hsame more ?_⟩
      have hmark' : ['\\', 'u'] <+: (cs ++ '\n' :: more).drop 4 := by
        rw [drop_line hfour]
        exact hmark.trans (List.prefix_append _ _)
      rw [readFixedEscape_eq, hmore, Option.bind_some, hscalar]
      simp only [hmark', if_true, drop_line (show 6 ≤ cs.length by omega), hmore',
        Option.bind_some, hpair, Option.map_some]
    · rw [if_neg hmark] at hfound
      contradiction

/-- Of an escape of length `n`, all but two characters and the digits read before are in `cs`. The
text that is kept for the error does not matter. -/
theorem readBracedEscape_append {all : List Char} {digits code room : Nat} {cs : List Char}
    {found : Char × Nat} (h : readBracedEscape all digits code room cs = .ok found) :
    found.2 ≤ digits + 2 + cs.length ∧
      ∀ all' more, readBracedEscape all' digits code room (cs ++ more) = .ok found := by
  induction room generalizing digits code cs with
  | zero => simp [readBracedEscape] at h
  | succ room ih =>
    cases cs with
    | nil => simp [readBracedEscape] at h
    | cons d cs =>
      rw [readBracedEscape] at h
      by_cases hbrace : (d == '\x7d') = true
      · rw [if_pos hbrace] at h
        cases hscalar : scalarValue? code with
        | none => simp [hscalar] at h
        | some c =>
          by_cases hdigits : (digits == 0) = true
          · simp [hscalar, hdigits] at h
          · simp only [hscalar, if_neg hdigits] at h
            cases h
            refine ⟨by simp only [List.length_cons]; omega, fun all' more => ?_⟩
            simp only [List.cons_append, readBracedEscape, if_pos hbrace, hscalar, if_neg hdigits]
      · rw [if_neg hbrace] at h
        cases hd : hexDigit? d with
        | none => simp [hd] at h
        | some value =>
          simp only [hd] at h
          obtain ⟨hsize, hmore⟩ := ih h
          refine ⟨by simp only [List.length_cons]; omega, fun all' more => ?_⟩
          simp only [List.cons_append, readBracedEscape, if_neg hbrace, hd]
          exact hmore all' more

theorem settled_escape (cs : List Char) : Settled Prod.snd readEscape cs := by
  cases cs with
  | nil =>
    intro found h
    contradiction
  | cons c cs =>
    intro found h
    by_cases hcu : c = 'u'
    · subst hcu
      by_cases hbrace : ['\x7b'] <+: cs
      · obtain ⟨braced, rfl⟩ := hbrace
        obtain ⟨hsize, hmore⟩ := readBracedEscape_append h
        rw [Nat.zero_add, Nat.add_comm] at hsize
        exact ⟨hsize, fun more => hmore _ _⟩
      · rw [readEscape_fixed hbrace] at h
        obtain ⟨hsize, hmore⟩ := settled_fixedEscape cs found h
        simp only at hsize
        refine ⟨by simp only [List.length_cons]; omega, fun more => ?_⟩
        have hbrace' := mt (isPrefix_line (by decide) cs more).mp hbrace
        rw [List.cons_append, readEscape_fixed hbrace']
        exact hmore more
    · have hfound : (readEscape (c :: cs)).toOption = some found := by rw [h]; rfl
      rw [readEscape_simple hcu] at hfound
      refine ⟨?_, fun more => ?_⟩
      · obtain ⟨value, -, rfl⟩ := Option.map_eq_some_iff.mp hfound
        simp
      · apply eq_ok_of_toOption
        rw [List.cons_append, readEscape_simple hcu, hfound]

/-- Reading on after `k` characters, from where the offset is `start`. -/
theorem Settled.after {α : Type} {r r' : List Char → Except SyntaxError (α × Nat)} {f : α → α}
    {cs : List Char} {offset start k : Nat} (hk : k ≤ cs.length) (hstart : start = offset + k)
    (hr : Settled (fun found => found.2 - start) r (cs.drop k))
    (h : r' cs = do let (value, stop) ← r (cs.drop k); return (f value, stop))
    (hmore : ∀ more, r' (cs ++ '\n' :: more) = do
      let (value, stop) ← r (cs.drop k ++ '\n' :: more)
      return (f value, stop)) :
    Settled (fun found => found.2 - offset) r' cs := by
  intro found hfound
  rw [h] at hfound
  obtain ⟨⟨value, stop⟩, hvalue, hresult⟩ := bind_eq_ok.mp hfound
  cases hresult
  obtain ⟨hsize, hsame⟩ := hr _ hvalue
  rw [List.length_drop] at hsize
  refine ⟨by simp only at hsize ⊢; omega, fun more => ?_⟩
  rw [hmore, hsame more]
  rfl

theorem settled_string (offset : Nat) (cs : List Char) :
    Settled (fun found => found.2 - offset) (readString offset) cs := by
  induction offset, cs using readString.induct with
  | case1 offset =>
    intro found h
    simp [readString] at h
  | case2 offset c rest hquote =>
    intro found h
    rw [readString, if_pos hquote] at h
    cases h
    refine ⟨by simp, fun more => ?_⟩
    rw [List.cons_append, readString, if_pos hquote]
  | case3 offset c rest hquote hslash cause hescape =>
    intro found h
    rw [readString] at h
    simp [hquote, hslash, hescape] at h
  | case4 offset c rest hquote hslash found size hescape ih =>
    obtain ⟨hsize, hmore⟩ := settled_escape rest _ hescape
    simp only at hsize
    have hdrop : (c :: rest).drop (size + 1) = rest.drop size := rfl
    refine .after (f := (found :: ·)) (k := size + 1) (by simp [hsize]) (by omega)
      (r := readString (offset + 1 + size)) (hdrop ▸ ih) ?_ fun more => ?_
    · rw [readString]
      simp only [hquote, hslash, hescape, if_true, Bool.false_eq_true, if_false, hdrop]
    · rw [List.cons_append, readString]
      simp only [hquote, hslash, hmore, if_true, Bool.false_eq_true, if_false, hdrop,
        drop_line hsize]
  | case5 offset c rest hquote hslash hend =>
    intro found h
    rw [readString] at h
    simp [hquote, hslash, hend] at h
  | case6 offset c rest hquote hslash hend ih =>
    refine .after (f := (c :: ·)) (k := 1) (by simp) rfl (r := readString (offset + 1)) ih ?_
      fun more => ?_
    · rw [readString]
      simp only [hquote, hslash, hend, Bool.false_eq_true, if_false, List.drop_one, List.tail_cons]
    · rw [List.cons_append, readString]
      simp only [hquote, hslash, hend, Bool.false_eq_true, if_false, List.drop_one, List.tail_cons]

theorem settled_blockString (offset : Nat) (cs : List Char) :
    Settled (fun found => found.2 - offset) (readBlockString offset) cs := by
  induction offset, cs using readBlockString.induct with
  | case1 offset rest =>
    intro found h
    cases h
    exact ⟨by simp, fun more => rfl⟩
  | case2 offset rest ih => exact .after (k := 4) (by simp) rfl ih rfl fun _ => rfl
  | case3 offset rest ih =>
    exact .after (f := ([] :: ·)) (k := 2) (by simp) rfl ih rfl fun _ => rfl
  | case4 offset c rest hclose hescape hpair ih =>
    have hclose : ¬['"', '"', '"'] <+: c :: rest := not_isPrefix_cons hclose
    have hescape : ¬['\\', '"', '"', '"'] <+: c :: rest := not_isPrefix_cons hescape
    have hpair : ¬['\r', '\n'] <+: c :: rest := not_isPrefix_cons hpair
    cases rest with
    | nil =>
      -- Nothing closes the string, so no carriage return before the added lines is read.
      intro found h
      rw [readBlockString_cons offset hclose hescape hpair] at h
      contradiction
    | cons d rest =>
      refine .after (k := 1) (f := fun lines =>
        if isLineEnd c then [] :: lines else onFirstLine [c] lines) (by simp) rfl ih ?_
        fun more => ?_
      · exact readBlockString_cons offset hclose hescape hpair
      · have hpair' : ¬['\r', '\n'] <+: c :: d :: rest ++ '\n' :: more := by
          simpa [List.cons_prefix_cons] using hpair
        rw [← isPrefix_line (by decide) _ more] at hclose hescape
        exact readBlockString_cons offset hclose hescape hpair'
  | case5 offset =>
    intro found h
    contradiction

theorem settled_quoted (cs : List Char) : Settled Prod.snd readQuoted cs := by
  intro word h
  by_cases hblock : ['"', '"'] <+: cs
  · obtain ⟨body, rfl⟩ := hblock
    obtain ⟨⟨lines, stop⟩, hlines, hresult⟩ := bind_eq_ok.mp h
    cases hresult
    obtain ⟨hsize, hmore⟩ := settled_blockString 3 body _ hlines
    refine ⟨?_, fun more => ?_⟩
    · simp only [List.cons_append, List.nil_append, List.length_cons] at hsize ⊢
      omega
    · exact bind_eq_ok.mpr ⟨(lines, stop), hmore more, rfl⟩
  · rw [readQuoted_of_string hblock] at h
    obtain ⟨⟨value, stop⟩, hvalue, hresult⟩ := bind_eq_ok.mp h
    cases hresult
    obtain ⟨hsize, hmore⟩ := settled_string 1 cs _ hvalue
    refine ⟨hsize, fun more => ?_⟩
    rw [readQuoted_of_string (mt (isPrefix_line (by decide) cs more).mp hblock), hmore more]
    rfl

theorem settled_read (c : Char) (cs : List Char) : Settled Prod.snd (read c) cs := by
  intro word h
  cases hp : Punctuator.ofChar? c with
  | some p =>
    simp only [read, hp] at h ⊢
    cases h
    exact ⟨Nat.zero_le _, fun more => rfl⟩
  | none =>
    by_cases hd : (c.isDigit || c == '-') = true
    · simp only [read, hp, hd, if_true] at h ⊢
      obtain ⟨⟨number, size⟩, hnumber, hresult⟩ := bind_eq_ok.mp h
      cases hresult
      obtain ⟨hsize, hmore⟩ := settled_number c cs _ hnumber
      simp only [List.length_cons] at hsize
      refine ⟨by simp only; omega, fun more => ?_⟩
      exact bind_eq_ok.mpr ⟨(number, size), hmore more, rfl⟩
    · by_cases hn : Name.isStart c = true
      · simp only [read, hp, hd, hn, dite_true, Name.read,
          takeWhile_line (p := Name.isContinue) rfl] at h ⊢
        cases h
        exact ⟨length_takeWhile_le _ _, fun more => rfl⟩
      · by_cases hq : (c == '"') = true
        · have hquoted : ∀ ds, read c ds = readQuoted ds := by
            intro ds
            simp only [read, hp, hd, hn, hq, if_true]
            rfl
          rw [hquoted] at h
          simp only [hquoted]
          exact settled_quoted cs word h
        · by_cases hspread : c = '.' ∧ ['.', '.'] <+: cs
          · obtain ⟨rfl, tail, rfl⟩ := hspread
            cases h
            exact ⟨by simp, fun more => rfl⟩
          · obtain ⟨e, he⟩ := read_error hp hd hn hq hspread
            rw [he] at h
            contradiction

theorem numberAfter_ne_eof {sign size : Nat} {cs : List Char} {l : Lexeme}
    (h : numberAfter sign cs = .ok (l, size)) : l ≠ .eof := by
  obtain ⟨whole, -, h⟩ := bind_eq_ok.mp h
  obtain ⟨fraction, -, h⟩ := bind_eq_ok.mp h
  obtain ⟨exponent, -, h⟩ := bind_eq_ok.mp h
  have hnumber : ∀ (b : Bool) (digits : String),
      (if b then Lexeme.int digits else Lexeme.float digits) ≠ .eof := by
    intro b digits
    cases b <;> simp
  simp only [numberOfSize] at h
  split at h
  · split at h
    · contradiction
    · cases h
      exact hnumber _ _
  · cases h
    exact hnumber _ _

theorem readQuoted_ne_eof {size : Nat} {cs : List Char} {l : Lexeme}
    (h : readQuoted cs = .ok (l, size)) : l ≠ .eof := by
  unfold readQuoted at h
  split at h
  · obtain ⟨found, -, hresult⟩ := bind_eq_ok.mp h
    cases hresult
    simp
  · obtain ⟨found, -, hresult⟩ := bind_eq_ok.mp h
    cases hresult
    simp

theorem read_ne_eof {c : Char} {cs : List Char} {l : Lexeme} {size : Nat}
    (h : read c cs = .ok (l, size)) : l ≠ .eof := by
  unfold read at h
  split at h
  · cases h
    simp
  · split at h
    · obtain ⟨found, hnumber, hresult⟩ := bind_eq_ok.mp h
      cases hresult
      exact numberAfter_ne_eof hnumber
    · split at h
      · cases h
        simp
      · split at h
        · exact readQuoted_ne_eof h
        · split at h
          · cases h
            simp
          · contradiction
          · contradiction

end Lexeme

namespace Tokens

/-- No word stands for the end of a text. -/
def Proper : Tokens → Prop
  | last _ | stop _ => True
  | cons token rest => token.lexeme ≠ .eof ∧ rest.Proper

/-- The words of a text that can be read to its end. -/
def Whole : Tokens → Prop
  | last _ => True
  | stop _ => False
  | cons token rest => token.lexeme ≠ .eof ∧ rest.Whole

/-- The words of a text after those of another. -/
def followedBy : Tokens → Tokens → Tokens
  | last _, us => us
  | stop error, _ => stop error
  | cons token rest, us => cons token (rest.followedBy us)

theorem scan_comment {c : Char} {rest : List Char} (hignored : ¬isIgnored c = true)
    (hcomment : (c == '#') = true) (offset : Nat) :
    scan offset (c :: rest) =
      scan (offset + 1 + commentLength rest) (rest.drop (commentLength rest)) := by
  rw [scan, if_neg hignored, if_pos hcomment]

theorem proper_scan (offset : Nat) (cs : List Char) : (scan offset cs).Proper := by
  induction offset, cs using scan.induct with
  | case1 offset =>
    rw [scan]
    trivial
  | case2 offset c rest hignored ih => rwa [scan_ignored hignored]
  | case3 offset c rest hignored hcomment ih => rwa [scan_comment hignored hcomment]
  | case4 offset c rest hignored hcomment e he =>
    rw [scan_of_error hignored hcomment he]
    trivial
  | case5 offset c rest hignored hcomment l size hfound ih =>
    rw [scan_of_word hignored hcomment hfound]
    exact ⟨Lexeme.read_ne_eof hfound, ih⟩

theorem scan_line (offset : Nat) (cs ds : List Char) (h : (scan offset cs).Whole) :
    scan offset (cs ++ '\n' :: ds) =
      (scan offset cs).followedBy (scan (offset + cs.length + 1) ds) := by
  induction offset, cs using scan.induct with
  | case1 offset =>
    have hempty : scan offset [] = .last offset := by rw [scan]
    rw [hempty, List.nil_append, scan_ignored rfl]
    rfl
  | case2 offset c rest hignored ih =>
    rw [scan_ignored hignored] at h ⊢
    rw [List.cons_append, scan_ignored hignored, ih h, List.length_cons]
    congr 2
    omega
  | case3 offset c rest hignored hcomment ih =>
    have hlength : commentLength rest ≤ rest.length := Lexeme.length_takeWhile_le _ rest
    have hsame : commentLength (rest ++ '\n' :: ds) = commentLength rest := by
      unfold commentLength
      rw [Lexeme.takeWhile_line rfl]
    rw [scan_comment hignored hcomment] at h ⊢
    rw [List.cons_append, scan_comment hignored hcomment, hsame, Lexeme.drop_line hlength, ih h,
      List.length_drop, List.length_cons]
    congr 2
    omega
  | case4 offset c rest hignored hcomment e he =>
    rw [scan_of_error hignored hcomment he] at h
    exact h.elim
  | case5 offset c rest hignored hcomment l size hfound ih =>
    -- A word that can be read ends before the line feed, so the longer text has the same word.
    obtain ⟨hsize, hmore⟩ := Lexeme.settled_read c rest _ hfound
    simp only at hsize
    rw [scan_of_word hignored hcomment hfound] at h ⊢
    rw [List.cons_append, scan_of_word hignored hcomment (hmore ds), Lexeme.drop_line hsize, ih h.2,
      List.length_drop, List.length_cons, followedBy]
    congr 3
    omega

theorem Alike.trans {ts us vs : Tokens} (h : Alike ts us) (h' : Alike us vs) : Alike ts vs := by
  induction h generalizing vs with
  | last start start' => cases h'; exact .last _ _
  | stop e e' => cases h'; exact .stop _ _
  | cons l start start' h ih =>
    cases h' with
    | cons l start' start'' h' => exact .cons l start start'' (ih h')

/-- A text has the same words wherever it starts. -/
theorem alike_scan_offset (offset offset' : Nat) (cs : List Char) :
    Alike (scan offset cs) (scan offset' cs) :=
  (alike_scan offset 0 cs).trans (alike_scan offset' 0 cs).symm

end Tokens
end SchemaFold
