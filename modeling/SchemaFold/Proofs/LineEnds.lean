import Mathlib.Data.List.TakeWhile
import SchemaFold.Grammar.Tokens
import SchemaFold.Proofs.Outcome

/-! Line ends of any style stand for the same. What a reader finds within a line it also finds in
the text in which every line ends in a line feed. -/

namespace SchemaFold

namespace Text

theorem unifyNewlines_return {rest : List Char} (h : ¬['\n'] <+: rest) :
    unifyNewlines ('\r' :: rest) = '\n' :: unifyNewlines rest := by
  rw [unifyNewlines]
  rintro tail rfl
  exact h ⟨tail, rfl⟩

theorem unifyNewlines_append {front : List Char} (h : '\r' ∉ front) (cs : List Char) :
    unifyNewlines (front ++ cs) = front ++ unifyNewlines cs := by
  induction front with
  | nil => rfl
  | cons c front ih =>
    simp only [List.mem_cons, not_or] at h
    rw [List.cons_append, unifyNewlines_cons (Ne.symm h.1), ih h.2, List.cons_append]

theorem unifyNewlines_take_append {cs : List Char} {n : Nat} (h : '\r' ∉ cs.take n) :
    unifyNewlines cs = cs.take n ++ unifyNewlines (cs.drop n) := by
  rw [← unifyNewlines_append h, List.take_append_drop]

theorem unifyNewlines_take {cs : List Char} {n : Nat} (h : '\r' ∉ cs.take n) :
    (unifyNewlines cs).take n = cs.take n := by
  rw [unifyNewlines_take_append h]
  by_cases hn : n ≤ cs.length
  · rw [List.take_left' (by simp [hn])]
  · have hdrop : cs.drop n = [] := by simp; omega
    have htake : cs.take n = cs := List.take_of_length_le (by omega)
    simp [hdrop, htake, unifyNewlines]

theorem unifyNewlines_drop {cs : List Char} {n : Nat} (h : '\r' ∉ cs.take n) :
    (unifyNewlines cs).drop n = unifyNewlines (cs.drop n) := by
  rw [unifyNewlines_take_append h]
  by_cases hn : n ≤ cs.length
  · rw [List.drop_left' (by simp [hn])]
  · have hdrop : cs.drop n = [] := by simp; omega
    simp [hdrop, unifyNewlines]

theorem not_mem_take_add {cs : List Char} {m n : Nat} (hm : '\r' ∉ cs.take m)
    (hn : '\r' ∉ (cs.drop m).take n) : '\r' ∉ cs.take (m + n) := by
  rw [List.take_add, List.mem_append]
  exact not_or.mpr ⟨hm, hn⟩

theorem takeWhile_unifyNewlines {p : Char → Bool} (hr : p '\r' = false) (hn : p '\n' = false)
    (cs : List Char) : (unifyNewlines cs).takeWhile p = cs.takeWhile p := by
  induction cs using unifyNewlines.induct with
  | case1 => rfl
  | case2 rest ih => simp [unifyNewlines, hr, hn]
  | case3 rest hne ih => simp [unifyNewlines, hr, hn]
  | case4 c rest hpair hcr ih =>
    have hc : c ≠ '\r' := hcr
    rw [unifyNewlines_cons hc, List.takeWhile_cons, List.takeWhile_cons, ih]

theorem not_mem_take_takeWhile {p : Char → Bool} (hr : p '\r' = false) (cs : List Char) :
    '\r' ∉ cs.take (cs.takeWhile p).length := by
  have htake : cs.take (cs.takeWhile p).length = cs.takeWhile p :=
    (List.prefix_iff_eq_take.mp (List.takeWhile_prefix p)).symm
  rw [htake]
  intro hmem
  have hp : p '\r' = true := List.mem_takeWhile_imp hmem
  simp [hr] at hp

/-- Whether a line is over where the text goes on with `cs`. -/
def atBreak (cs : List Char) : Bool :=
  cs.head?.all Lexeme.isLineEnd

/-- Either the line is over, or the text goes on with the same character. -/
theorem unifyNewlines_view (cs : List Char) :
    (atBreak cs = true ∧ atBreak (unifyNewlines cs) = true) ∨
      ∃ c rest, Lexeme.isLineEnd c = false ∧ cs = c :: rest ∧
        unifyNewlines cs = c :: unifyNewlines rest := by
  induction cs using unifyNewlines.induct with
  | case1 => exact .inl ⟨rfl, rfl⟩
  | case2 rest => exact .inl ⟨rfl, rfl⟩
  | case3 rest hne =>
    refine .inl ⟨rfl, ?_⟩
    simp [unifyNewlines, atBreak, Lexeme.isLineEnd]
  | case4 c rest hpair hcr =>
    have hc : c ≠ '\r' := hcr
    by_cases hn : c = '\n'
    · subst hn
      exact .inl ⟨rfl, rfl⟩
    · exact .inr ⟨c, rest, by simp [Lexeme.isLineEnd, hc, hn], rfl, unifyNewlines_cons hc rest⟩

theorem atBreak_unifyNewlines (cs : List Char) : atBreak (unifyNewlines cs) = atBreak cs := by
  rcases unifyNewlines_view cs with ⟨hb, hb'⟩ | ⟨c, rest, hc, rfl, hu⟩
  · rw [hb, hb']
  · rw [hu]
    rfl

/-- A front without line ends is found in both texts or in none. -/
theorem unifyNewlines_eq_append {front cs tail : List Char}
    (hf : front.any Lexeme.isLineEnd = false) (h : unifyNewlines cs = front ++ tail) :
    ∃ rest, cs = front ++ rest ∧ tail = unifyNewlines rest := by
  induction front generalizing cs with
  | nil => exact ⟨cs, rfl, h.symm⟩
  | cons c front ih =>
    obtain ⟨hc, hfront⟩ := Bool.or_eq_false_iff.mp hf
    rcases unifyNewlines_view cs with ⟨-, hb'⟩ | ⟨d, rest, hd, rfl, hu⟩
    · rw [h] at hb'
      have hbreak : Lexeme.isLineEnd c = true := hb'
      simp [hbreak] at hc
    · rw [hu, List.cons_append] at h
      obtain ⟨rfl, htail⟩ := List.cons.inj h
      obtain ⟨rest', rfl, ht⟩ := ih hfront htail
      exact ⟨rest', rfl, ht⟩

theorem isPrefix_unifyNewlines (front : List Char) (hf : front.any Lexeme.isLineEnd = false)
    (cs : List Char) : front <+: unifyNewlines cs ↔ front <+: cs := by
  have hclean : '\r' ∉ front := by
    intro hr
    exact List.any_eq_false.mp hf _ hr rfl
  constructor
  · rintro ⟨tail, h⟩
    obtain ⟨rest, rfl, -⟩ := unifyNewlines_eq_append hf h.symm
    exact List.prefix_append front rest
  · rintro ⟨tail, rfl⟩
    rw [unifyNewlines_append hclean]
    exact List.prefix_append front _

end Text

namespace Lexeme

open Text

/-- Of `cs` a reader finds the same whatever its line ends, and what it takes up, which `size`
gives, lies in one line. -/
structure Steady {ε α : Type} (size : α → Nat) (r : List Char → Except ε α) (cs : List Char) :
    Prop where
  same : (r (unifyNewlines cs)).toOption = (r cs).toOption
  inLine : ∀ a, r cs = .ok a → '\r' ∉ cs.take (size a)

theorem Steady.bind {ε α β : Type} {size : α → Nat} {size' : β → Nat}
    {r : List Char → Except ε α} {k : α → List Char → Except ε β} {cs : List Char}
    (hr : Steady size r cs) (hk : ∀ a, '\r' ∉ cs.take (size a) → Steady size' (k a) cs) :
    Steady size' (fun cs => r cs >>= fun a => k a cs) cs := by
  cases h : r cs with
  | error e =>
    have hsame := hr.same
    constructor
    · rw [toOption_bind, hsame, toOption_bind, h]
      rfl
    · simp [h]
  | ok a =>
    have hsame := hr.same
    have hk := hk a (hr.inLine a h)
    have hu : r (unifyNewlines cs) = .ok a := eq_ok_of_toOption (by rw [hsame, h]; rfl)
    constructor
    · simpa only [h, hu, ok_bind] using hk.same
    · simpa only [h, ok_bind] using hk.inLine

theorem Steady.drop {ε α : Type} {size : α → Nat} {r : List Char → Except ε α} {cs : List Char}
    {n : Nat} (hn : '\r' ∉ cs.take n) (hr : Steady size r (cs.drop n)) :
    Steady (fun a => n + size a) (fun cs => r (cs.drop n)) cs where
  same := by
    simpa only [unifyNewlines_drop hn] using hr.same
  inLine a h := not_mem_take_add hn (hr.inLine a h)

theorem steady_digits (offset : Nat) (cs : List Char) : Steady id (readDigits offset) cs where
  same := by
    unfold readDigits
    rw [takeWhile_unifyNewlines rfl rfl]
    split <;> rfl
  inLine n h := by
    unfold readDigits at h
    split at h
    · contradiction
    · rename_i m hm
      cases h
      have hn : (cs.takeWhile Char.isDigit).length = m + 1 := hm
      exact hn ▸ not_mem_take_takeWhile rfl cs

theorem not_of_isLineEnd {p : Char → Bool} (hr : p '\r' = false) (hn : p '\n' = false) {c : Char}
    (h : isLineEnd c = true) : p c = false := by
  simp only [isLineEnd, Bool.or_eq_true, beq_iff_eq] at h
  rcases h with rfl | rfl <;> assumption

theorem isLineEnd_of_holds {p : Char → Bool} (hr : p '\r' = false) (hn : p '\n' = false) {c : Char}
    (h : p c = true) : isLineEnd c = false := by
  cases hline : isLineEnd c with
  | false => rfl
  | true => simp [not_of_isLineEnd hr hn hline] at h

theorem readWhole_of_ne_zero (offset : Nat) {c : Char} (h : c ≠ '0') (cs : List Char) :
    readWhole offset (c :: cs) = readDigits offset (c :: cs) := by
  unfold readWhole
  split
  · rename_i heq
    cases heq
    contradiction
  · rfl

theorem readWhole_of_atBreak_all (offset : Nat) {cs : List Char} (h : atBreak cs = true) :
    readWhole offset cs = readDigits offset cs := by
  cases cs with
  | nil => rfl
  | cons c cs =>
    apply readWhole_of_ne_zero
    rintro rfl
    simp [atBreak, isLineEnd] at h

theorem readWhole_of_atBreak (offset : Nat) {cs : List Char} (h : atBreak cs = true) :
    readWhole offset ('0' :: cs) = .ok 1 := by
  cases cs with
  | nil => rfl
  | cons d cs =>
    have hd : d.isDigit = false := not_of_isLineEnd rfl rfl h
    simp [readWhole, hd]

theorem steady_whole (offset : Nat) (cs : List Char) : Steady id (readWhole offset) cs where
  same := by
    have hdigits := (steady_digits offset cs).same
    rcases unifyNewlines_view cs with ⟨hb, hb'⟩ | ⟨c, rest, hc, hcs, hu⟩
    · rwa [readWhole_of_atBreak_all offset hb, readWhole_of_atBreak_all offset hb']
    · rw [hcs] at hdigits ⊢
      rw [hcs] at hu
      rw [hu] at hdigits ⊢
      by_cases hz : c = '0'
      · subst hz
        -- A digit after a zero is refused, so one more character has to be looked at.
        rcases unifyNewlines_view rest with ⟨hb, hb'⟩ | ⟨d, tail, hd, rfl, hu'⟩
        · rw [readWhole_of_atBreak offset hb, readWhole_of_atBreak offset hb']
        · simp [hu', readWhole]
      · rwa [readWhole_of_ne_zero offset hz, readWhole_of_ne_zero offset hz]
  inLine n h := by
    unfold readWhole at h
    split at h
    · split at h
      · contradiction
      · cases h
        simp
    · exact (steady_digits offset cs).inLine n h

theorem not_mem_take_cons {c : Char} (h : isLineEnd c = false) {cs : List Char} {n : Nat}
    (hn : '\r' ∉ cs.take n) : '\r' ∉ (c :: cs).take (n + 1) := by
  have hc : '\r' ≠ c := by
    rintro rfl
    contradiction
  simp [hc, hn]

theorem readFraction_of_ne {offset : Nat} {c : Char} (h : c ≠ '.') (cs : List Char) :
    readFraction offset (c :: cs) = .ok 0 := by
  simp [readFraction, h]

theorem readFraction_of_atBreak {offset : Nat} {cs : List Char} (h : atBreak cs = true) :
    readFraction offset cs = .ok 0 := by
  cases cs with
  | nil => rfl
  | cons c cs =>
    apply readFraction_of_ne
    rintro rfl
    simp [atBreak, isLineEnd] at h

theorem steady_fraction (offset : Nat) (cs : List Char) : Steady id (readFraction offset) cs where
  same := by
    rcases unifyNewlines_view cs with ⟨hb, hb'⟩ | ⟨c, rest, hc, rfl, hu⟩
    · rw [readFraction_of_atBreak hb, readFraction_of_atBreak hb']
    · rw [hu]
      by_cases hp : c = '.'
      · subst hp
        simp [readFraction, (steady_digits (offset + 1) rest).same]
      · rw [readFraction_of_ne hp, readFraction_of_ne hp]
  inLine n h := by
    unfold readFraction at h
    split at h
    · obtain ⟨m, hm, rfl⟩ := map_eq_ok.mp h
      exact not_mem_take_cons rfl ((steady_digits (offset + 1) _).inLine m hm)
    · cases h
      simp

def isExponentMark (c : Char) : Bool :=
  c == 'e' || c == 'E'

def isSign (c : Char) : Bool :=
  c == '+' || c == '-'

/-- The part of an exponent after its mark. -/
def readPower (offset : Nat) : List Char → Except SyntaxError Nat
  | [] => readDigits (offset + 1) []
  | c :: cs =>
    if isSign c then (· + 1) <$> readDigits (offset + 2) cs else readDigits (offset + 1) (c :: cs)

theorem readExponent_cons (offset : Nat) (c : Char) (cs : List Char) :
    readExponent offset (c :: cs) =
      if isExponentMark c then (· + 1) <$> readPower offset cs else .ok 0 := by
  have htwice : ∀ ds : List Char, (· + 2) <$> readDigits (offset + 2) ds =
      (· + 1) <$> ((· + 1) <$> readDigits (offset + 2) ds) := by
    intro ds
    cases readDigits (offset + 2) ds <;> rfl
  unfold readExponent
  by_cases hc : isExponentMark c = true
  · have hmark : (c == 'e' || c == 'E') = true := hc
    simp only [hmark, hc, if_true]
    cases cs with
    | nil => rfl
    | cons d ds =>
      by_cases hplus : d = '+'
      · subst hplus
        exact htwice ds
      · by_cases hminus : d = '-'
        · subst hminus
          exact htwice ds
        · simp [readPower, isSign, hplus, hminus]
  · have hmark : (c == 'e' || c == 'E') = false := Bool.eq_false_iff.mpr hc
    simp only [hmark, hc, Bool.false_eq_true, if_false]

theorem readPower_of_atBreak (offset : Nat) {cs : List Char} (h : atBreak cs = true) :
    readPower offset cs = readDigits (offset + 1) cs := by
  cases cs with
  | nil => rfl
  | cons c cs => simp [readPower, not_of_isLineEnd (p := isSign) rfl rfl h]

theorem steady_power (offset : Nat) (cs : List Char) : Steady id (readPower offset) cs where
  same := by
    have hdigits := (steady_digits (offset + 1) cs).same
    rcases unifyNewlines_view cs with ⟨hb, hb'⟩ | ⟨c, rest, hc, rfl, hu⟩
    · rwa [readPower_of_atBreak offset hb, readPower_of_atBreak offset hb']
    · rw [hu] at hdigits ⊢
      by_cases hs : isSign c = true
      · simp [readPower, hs, (steady_digits (offset + 2) rest).same]
      · simpa [readPower, hs] using hdigits
  inLine n h := by
    cases cs with
    | nil => simp
    | cons c cs =>
      by_cases hs : isSign c = true
      · have hc : isLineEnd c = false := isLineEnd_of_holds rfl rfl hs
        rw [readPower, if_pos hs] at h
        obtain ⟨m, hm, rfl⟩ := map_eq_ok.mp h
        exact not_mem_take_cons hc ((steady_digits (offset + 2) cs).inLine m hm)
      · rw [readPower, if_neg hs] at h
        exact (steady_digits (offset + 1) (c :: cs)).inLine n h

theorem readExponent_of_atBreak (offset : Nat) {cs : List Char} (h : atBreak cs = true) :
    readExponent offset cs = .ok 0 := by
  cases cs with
  | nil => rfl
  | cons c cs => simp [readExponent_cons, not_of_isLineEnd (p := isExponentMark) rfl rfl h]

theorem steady_exponent (offset : Nat) (cs : List Char) : Steady id (readExponent offset) cs where
  same := by
    rcases unifyNewlines_view cs with ⟨hb, hb'⟩ | ⟨c, rest, hc, rfl, hu⟩
    · rw [readExponent_of_atBreak offset hb, readExponent_of_atBreak offset hb']
    · rw [hu, readExponent_cons, readExponent_cons]
      by_cases hm : isExponentMark c = true
      · simp [hm, (steady_power offset rest).same]
      · simp [hm]
  inLine n h := by
    cases cs with
    | nil => simp
    | cons c cs =>
      rw [readExponent_cons] at h
      by_cases hm : isExponentMark c = true
      · have hc : isLineEnd c = false := isLineEnd_of_holds rfl rfl hm
        rw [if_pos hm] at h
        obtain ⟨m, hm, rfl⟩ := map_eq_ok.mp h
        exact not_mem_take_cons hc ((steady_power offset cs).inLine m hm)
      · rw [if_neg hm] at h
        cases h
        simp

/-- The word that a number of length `size` is, unless something stands against its end. -/
def numberOfSize (size : Nat) (whole : Bool) (cs : List Char) : Read :=
  let digits := String.ofList (cs.take size)
  let number := if whole then Lexeme.int digits else Lexeme.float digits
  match (cs.drop size).head? with
  | some c =>
    if c == '.' || Name.isStart c then throw ⟨.digitExpected (some c), size⟩
    else return (number, size)
  | none => return (number, size)

/-- A number after a sign of length `sign`. -/
def numberAfter (sign : Nat) (cs : List Char) : Read := do
  let whole ← readWhole sign (cs.drop sign)
  let fraction ← readFraction (sign + whole) (cs.drop (sign + whole))
  let exponent ← readExponent (sign + whole + fraction) (cs.drop (sign + whole + fraction))
  numberOfSize (sign + whole + fraction + exponent) (fraction + exponent == 0) cs

def staysOpen (c : Char) : Bool :=
  c == '.' || Name.isStart c

theorem numberOfSize_of_atBreak {size : Nat} (whole : Bool) {cs : List Char}
    (h : atBreak (cs.drop size) = true) :
    numberOfSize size whole cs = .ok (if whole then Lexeme.int (String.ofList (cs.take size))
      else Lexeme.float (String.ofList (cs.take size)), size) := by
  unfold numberOfSize
  cases hd : cs.drop size with
  | nil => rfl
  | cons c rest =>
    rw [hd] at h
    have hc : (c == '.' || Name.isStart c) = false := not_of_isLineEnd (p := staysOpen) rfl rfl h
    simp only [List.head?_cons, hc]
    rfl

theorem steady_numberOfSize {size : Nat} (whole : Bool) {cs : List Char}
    (h : '\r' ∉ cs.take size) : Steady Prod.snd (numberOfSize size whole) cs where
  same := by
    have htake := unifyNewlines_take h
    have hdrop := unifyNewlines_drop h
    rcases unifyNewlines_view (cs.drop size) with ⟨hb, hb'⟩ | ⟨c, rest, hc, hcs, hu⟩
    · rw [← hdrop] at hb'
      rw [numberOfSize_of_atBreak whole hb, numberOfSize_of_atBreak whole hb', htake]
    · rw [hcs] at hu
      simp [numberOfSize, htake, hdrop, hcs, hu]
  inLine word hw := by
    cases hhead : (cs.drop size).head? with
    | none =>
      simp only [numberOfSize, hhead] at hw
      cases hw
      exact h
    | some c =>
      simp only [numberOfSize, hhead] at hw
      by_cases hc : (c == '.' || Name.isStart c) = true
      · rw [if_pos hc] at hw
        contradiction
      · rw [if_neg hc] at hw
        cases hw
        exact h

theorem steady_numberAfter {sign : Nat} {cs : List Char} (h : '\r' ∉ cs.take sign) :
    Steady Prod.snd (numberAfter sign) cs := by
  apply Steady.bind (.drop h (steady_whole sign _))
  intro whole hwhole
  apply Steady.bind (.drop hwhole (steady_fraction (sign + whole) _))
  intro fraction hfraction
  apply Steady.bind (.drop hfraction (steady_exponent (sign + whole + fraction) _))
  intro exponent hexponent
  exact steady_numberOfSize _ hexponent

theorem signLength_of_ne {c : Char} (h : c ≠ '-') (cs : List Char) : signLength (c :: cs) = 0 := by
  simp [signLength, h]

theorem signLength_of_atBreak {cs : List Char} (h : atBreak cs = true) : signLength cs = 0 := by
  cases cs with
  | nil => rfl
  | cons c cs =>
    apply signLength_of_ne
    rintro rfl
    simp [atBreak, isLineEnd] at h

theorem signLength_unifyNewlines (cs : List Char) :
    signLength (unifyNewlines cs) = signLength cs := by
  rcases unifyNewlines_view cs with ⟨hb, hb'⟩ | ⟨c, rest, hc, rfl, hu⟩
  · rw [signLength_of_atBreak hb, signLength_of_atBreak hb']
  · rw [hu]
    by_cases hm : c = '-'
    · subst hm
      rfl
    · rw [signLength_of_ne hm, signLength_of_ne hm]

theorem not_mem_take_signLength (cs : List Char) : '\r' ∉ cs.take (signLength cs) := by
  cases cs with
  | nil => simp
  | cons c cs =>
    by_cases hm : c = '-'
    · subst hm
      simp [signLength]
    · simp [signLength_of_ne hm]

theorem steady_number (cs : List Char) : Steady Prod.snd readNumber cs := by
  have hread : ∀ cs, readNumber cs = numberAfter (signLength cs) cs := fun _ => rfl
  have hsteady := steady_numberAfter (not_mem_take_signLength cs)
  constructor
  · rw [hread, hread, signLength_unifyNewlines]
    exact hsteady.same
  · intro word hword
    rw [hread] at hword
    exact hsteady.inLine word hword

/-- Hexadecimal digits, `n` of them, after others that are worth `code`. -/
def hexDigits? : (n code : Nat) → List Char → Option Nat
  | 0, code, _ => some code
  | _ + 1, _, [] => none
  | n + 1, code, c :: cs => (hexDigit? c).bind fun d => hexDigits? n (code * 16 + d) cs

theorem hexFour?_eq (cs : List Char) : hexFour? cs = hexDigits? 4 0 cs := by
  unfold hexFour?
  split
  · simp only [hexNumber?, hexDigits?, List.foldlM_cons, List.foldlM_nil]
    rename_i a b c d rest
    cases hexDigit? a <;> cases hexDigit? b <;> cases hexDigit? c <;> cases hexDigit? d <;> rfl
  · rename_i hshort
    rcases cs with _ | ⟨a, _ | ⟨b, _ | ⟨c, _ | ⟨d, rest⟩⟩⟩⟩
    · rfl
    · cases h : hexDigit? a <;> simp [hexDigits?, h]
    · cases h : hexDigit? a <;> cases h' : hexDigit? b <;> simp [hexDigits?, h, h']
    · cases h : hexDigit? a <;> cases h' : hexDigit? b <;> cases h'' : hexDigit? c <;>
        simp [hexDigits?, h, h', h'']
    · exact absurd rfl (hshort a b c d rest)

theorem hexDigit?_of_isLineEnd {c : Char} (h : isLineEnd c = true) : hexDigit? c = none := by
  have hnone := not_of_isLineEnd (p := fun c => (hexDigit? c).isSome) rfl rfl h
  simpa using hnone

theorem isLineEnd_of_hexDigit? {c : Char} {d : Nat} (h : hexDigit? c = some d) :
    isLineEnd c = false :=
  isLineEnd_of_holds (p := fun c => (hexDigit? c).isSome) rfl rfl (by simp [h])

theorem hexDigits?_of_atBreak (n code : Nat) {cs : List Char} (h : atBreak cs = true) :
    hexDigits? (n + 1) code cs = none := by
  cases cs with
  | nil => rfl
  | cons c cs => simp [hexDigits?, hexDigit?_of_isLineEnd h]

theorem hexDigits?_unifyNewlines (n code : Nat) (cs : List Char) :
    hexDigits? n code (unifyNewlines cs) = hexDigits? n code cs := by
  induction n generalizing code cs with
  | zero => rfl
  | succ n ih =>
    rcases unifyNewlines_view cs with ⟨hb, hb'⟩ | ⟨c, rest, hc, rfl, hu⟩
    · rw [hexDigits?_of_atBreak n code hb, hexDigits?_of_atBreak n code hb']
    · simp [hu, hexDigits?, ih]

theorem not_mem_take_hexDigits {n code value : Nat} {cs : List Char}
    (h : hexDigits? n code cs = some value) : '\r' ∉ cs.take n := by
  induction n generalizing code cs with
  | zero => simp
  | succ n ih =>
    cases cs with
    | nil => simp
    | cons c cs =>
      obtain ⟨d, hd, hrest⟩ := Option.bind_eq_some_iff.mp h
      exact not_mem_take_cons (isLineEnd_of_hexDigit? hd) (ih hrest)

theorem readFixedEscape_eq (cs : List Char) :
    (readFixedEscape cs).toOption =
      (hexFour? cs).bind fun code =>
        match scalarValue? code with
        | some c => some (c, 5)
        | none =>
          if ['\\', 'u'] <+: cs.drop 4 then
            ((hexFour? (cs.drop 6)).bind (surrogatePair? code)).map fun c => (c, 11)
          else none := by
  unfold readFixedEscape
  cases hexFour? cs with
  | none => rfl
  | some code =>
    simp only [Option.bind_some]
    cases scalarValue? code with
    | some c => rfl
    | none =>
      by_cases hp : ['\\', 'u'] <+: cs.drop 4
      · obtain ⟨trail, ht⟩ := hp
        have htwo : cs.drop 6 = (cs.drop 4).drop 2 := by rw [List.drop_drop]
        have htrail : cs.drop 6 = trail := by rw [htwo, ← ht]; rfl
        have hmark : cs.drop 4 = '\\' :: 'u' :: trail := ht.symm
        rw [if_pos ⟨trail, ht⟩, htrail, hmark]
        cases h : (hexFour? trail).bind (surrogatePair? code) <;> simp [h, Except.toOption]
      · rw [if_neg hp]
        dsimp only
        split
        · rename_i trail ht
          exact absurd ⟨trail, ht.symm⟩ hp
        · rfl

theorem hexFour?_unifyNewlines (cs : List Char) :
    hexFour? (unifyNewlines cs) = hexFour? cs := by
  rw [hexFour?_eq, hexFour?_eq, hexDigits?_unifyNewlines]

theorem not_mem_take_hexFour {cs : List Char} {code : Nat} (h : hexFour? cs = some code) :
    '\r' ∉ cs.take 4 := by
  rw [hexFour?_eq] at h
  exact not_mem_take_hexDigits h

/-- A second escape after the first. -/
theorem not_mem_take_six {cs : List Char} (h : '\r' ∉ cs.take 4)
    (hp : ['\\', 'u'] <+: cs.drop 4) : '\r' ∉ cs.take 6 := by
  obtain ⟨trail, ht⟩ := hp
  refine not_mem_take_add (m := 4) (n := 2) h ?_
  rw [← ht]
  simp

/-- The letter `u` counts among the characters of the escape but is not part of `cs`. -/
theorem steady_fixedEscape (cs : List Char) :
    Steady (fun found => found.2 - 1) readFixedEscape cs where
  same := by
    rw [readFixedEscape_eq, readFixedEscape_eq, hexFour?_unifyNewlines]
    cases hcode : hexFour? cs with
    | none => rfl
    | some code =>
      -- The digits stay in one line, so a second escape begins after the same four characters.
      have hfour := not_mem_take_hexFour hcode
      have hp := isPrefix_unifyNewlines ['\\', 'u'] rfl (cs.drop 4)
      rw [← unifyNewlines_drop hfour] at hp
      simp only [Option.bind_some, hp]
      cases scalarValue? code with
      | some c => rfl
      | none =>
        by_cases hmark : ['\\', 'u'] <+: cs.drop 4
        · simp only [hmark, if_true, unifyNewlines_drop (not_mem_take_six hfour hmark),
            hexFour?_unifyNewlines]
        · simp only [hmark, if_false]
  inLine found h := by
    have hfound : (readFixedEscape cs).toOption = some found := by rw [h]; rfl
    rw [readFixedEscape_eq] at hfound
    obtain ⟨code, hcode, hfound⟩ := Option.bind_eq_some_iff.mp hfound
    have hfour := not_mem_take_hexFour hcode
    split at hfound
    · cases hfound
      exact hfour
    · by_cases hmark : ['\\', 'u'] <+: cs.drop 4
      · rw [if_pos hmark] at hfound
        obtain ⟨c, hc, rfl⟩ := Option.map_eq_some_iff.mp hfound
        obtain ⟨low, hlow, -⟩ := Option.bind_eq_some_iff.mp hc
        exact not_mem_take_add (m := 6) (n := 4) (not_mem_take_six hfour hmark)
          (not_mem_take_hexFour hlow)
      · rw [if_neg hmark] at hfound
        contradiction

theorem readBracedEscape_of_atBreak (all : List Char) (digits code room : Nat) {cs : List Char}
    (h : atBreak cs = true) : (readBracedEscape all digits code room cs).toOption = none := by
  cases room with
  | zero => rfl
  | succ room =>
    cases cs with
    | nil => rfl
    | cons c cs =>
      have hbrace : (c == '\x7d') = false := not_of_isLineEnd (p := (· == '\x7d')) rfl rfl h
      have hhex : hexDigit? c = none := hexDigit?_of_isLineEnd h
      simp [readBracedEscape, hbrace, hhex, Except.toOption]

theorem readBracedEscape_unifyNewlines (all all' : List Char) (digits code room : Nat)
    (cs : List Char) :
    (readBracedEscape all' digits code room (unifyNewlines cs)).toOption =
      (readBracedEscape all digits code room cs).toOption := by
  induction room generalizing digits code cs with
  | zero => rfl
  | succ room ih =>
    rcases unifyNewlines_view cs with ⟨hb, hb'⟩ | ⟨c, rest, hc, rfl, hu⟩
    · rw [readBracedEscape_of_atBreak all _ _ _ hb, readBracedEscape_of_atBreak all' _ _ _ hb']
    · rw [hu, readBracedEscape, readBracedEscape]
      split
      · cases scalarValue? code with
        | none => rfl
        | some found => cases h : digits == 0 <;> simp [Except.toOption]
      · cases hexDigit? c with
        | none => rfl
        | some d => exact ih (digits + 1) (code * 16 + d) rest

/-- Of an escape of length `n`, all but two characters and the digits read before are in `cs`. -/
theorem readBracedEscape_inLine {all : List Char} {digits code room : Nat} {cs : List Char}
    {c : Char} {n : Nat} (h : readBracedEscape all digits code room cs = .ok (c, n)) :
    ∃ k, n = digits + 2 + k ∧ '\r' ∉ cs.take k := by
  induction room generalizing digits code cs with
  | zero => simp [readBracedEscape] at h
  | succ room ih =>
    cases cs with
    | nil => simp [readBracedEscape] at h
    | cons d cs =>
      rw [readBracedEscape] at h
      by_cases hbrace : (d == '\x7d') = true
      · rw [if_pos hbrace] at h
        have hn : n = digits + 3 := by
          split at h
          · split at h
            · contradiction
            · cases h
              rfl
          · contradiction
        refine ⟨1, hn, ?_⟩
        simp [beq_iff_eq.mp hbrace]
      · rw [if_neg hbrace] at h
        cases hd : hexDigit? d with
        | none => simp [hd] at h
        | some value =>
          simp only [hd] at h
          obtain ⟨k, hk, hclean⟩ := ih h
          exact ⟨k + 1, by omega, not_mem_take_cons (isLineEnd_of_hexDigit? hd) hclean⟩

theorem simpleEscape?_of_isLineEnd {c : Char} (h : isLineEnd c = true) :
    simpleEscape? c = none := by
  have hnone := not_of_isLineEnd (p := fun c => (simpleEscape? c).isSome) rfl rfl h
  simpa using hnone

theorem readEscape_of_atBreak {cs : List Char} (h : atBreak cs = true) :
    (readEscape cs).toOption = none := by
  cases cs with
  | nil => rfl
  | cons c cs =>
    have hsimple : simpleEscape? c = none := simpleEscape?_of_isLineEnd h
    have hu : c ≠ 'u' := by
      rintro rfl
      contradiction
    simp [readEscape, hu, hsimple, Except.toOption]

theorem readEscape_simple {c : Char} (hu : c ≠ 'u') (cs : List Char) :
    (readEscape (c :: cs)).toOption = (simpleEscape? c).map fun found => (found, 1) := by
  cases h : simpleEscape? c <;> simp [readEscape, hu, h, Except.toOption]

theorem readEscape_fixed {cs : List Char} (h : ¬['\x7b'] <+: cs) :
    readEscape ('u' :: cs) = readFixedEscape cs := by
  cases cs with
  | nil => rfl
  | cons c cs =>
    have hc : c ≠ '\x7b' := by
      rintro rfl
      exact h ⟨cs, rfl⟩
    simp [readEscape, hc]

theorem steady_escape (cs : List Char) : Steady Prod.snd readEscape cs where
  same := by
    rcases unifyNewlines_view cs with ⟨hb, hb'⟩ | ⟨c, rest, hc, rfl, hu⟩
    · rw [readEscape_of_atBreak hb, readEscape_of_atBreak hb']
    · rw [hu]
      -- An escape is a code in braces, a code of four digits or a single character.
      by_cases hcu : c = 'u'
      · subst hcu
        have hp := isPrefix_unifyNewlines ['\x7b'] rfl rest
        by_cases hbrace : ['\x7b'] <+: rest
        · obtain ⟨braced, rfl⟩ := hbrace
          exact readBracedEscape_unifyNewlines _ _ 0 0 9 braced
        · rw [readEscape_fixed hbrace, readEscape_fixed (mt hp.mp hbrace)]
          exact (steady_fixedEscape rest).same
      · rw [readEscape_simple hcu, readEscape_simple hcu]
  inLine found h := by
    cases cs with
    | nil => simp [readEscape] at h
    | cons c cs =>
      by_cases hcu : c = 'u'
      · subst hcu
        by_cases hbrace : ['\x7b'] <+: cs
        · obtain ⟨braced, rfl⟩ := hbrace
          obtain ⟨k, hk, hclean⟩ := readBracedEscape_inLine (c := found.1) (n := found.2) h
          have hsize : found.2 = k + 1 + 1 := by omega
          rw [hsize]
          exact not_mem_take_cons rfl (not_mem_take_cons rfl hclean)
        · rw [readEscape_fixed hbrace] at h
          have hclean := (steady_fixedEscape cs).inLine found h
          cases hsize : found.2 with
          | zero => simp
          | succ n =>
            rw [hsize] at hclean
            exact not_mem_take_cons rfl hclean
      · have hfound : (readEscape (c :: cs)).toOption = some found := by rw [h]; rfl
        rw [readEscape_simple hcu] at hfound
        obtain ⟨value, hvalue, rfl⟩ := Option.map_eq_some_iff.mp hfound
        have hc : isLineEnd c = false :=
          isLineEnd_of_holds (p := fun c => (simpleEscape? c).isSome) rfl rfl (by simp [hvalue])
        exact not_mem_take_cons (n := 0) hc (by simp)

end Lexeme
end SchemaFold
