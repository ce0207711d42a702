import SchemaFold.Proofs.Outcome
import SchemaFold.Text.Encoding

/-! Text written as bytes is read back: the reader of bytes meets each character's lead byte and
then the ranges that this lead byte announces. -/

namespace SchemaFold.Text.Utf8

theorem toNat_ofNat_byte {n : Nat} (h : n ≤ 255) : (UInt8.ofNat n).toNat = n :=
  UInt8.toNat_ofNat_of_lt' (Nat.lt_succ_of_le h)

theorem decode_single {n : Nat} (h : n ≤ 0x7F) (offset : Nat) (bs : List UInt8) :
    decode offset none (UInt8.ofNat n :: bs) =
      (Char.ofNat n :: ·) <$> decode (offset + 1) none bs := by
  have hn : (UInt8.ofNat n).toNat = n := toNat_ofNat_byte (by omega)
  rw [decode, hn, if_pos (by omega)]
  rfl

theorem decode_lead {n code : Nat} {next : Nat × Nat} {later : List (Nat × Nat)}
    (hlow : 0x80 ≤ n) (hhigh : n ≤ 0xFF)
    (h : lead? (UInt8.ofNat n) = some (code, next, later)) (offset : Nat) (bs : List UInt8) :
    decode offset none (UInt8.ofNat n :: bs) =
      decode (offset + 1) (some ⟨offset, UInt8.ofNat n, code, next, later⟩) bs := by
  have hn : (UInt8.ofNat n).toNat = n := toNat_ofNat_byte hhigh
  rw [decode, hn, if_neg (by omega), h]

theorem decode_continuation {o : Open} {x : Nat} (hx : x < 64) (hlow : o.next.1 ≤ x + 0x80)
    (hhigh : x + 0x80 ≤ o.next.2) (offset : Nat) (bs : List UInt8) :
    decode offset (some o) (UInt8.ofNat (x + 0x80) :: bs) =
      match o.later with
      | [] => (Char.ofNat (o.code * 64 + x) :: ·) <$> decode (offset + 1) none bs
      | next :: later =>
        decode (offset + 1) (some ⟨o.start, o.byte, o.code * 64 + x, next, later⟩) bs := by
  have hn : (UInt8.ofNat (x + 0x80)).toNat = x + 0x80 := toNat_ofNat_byte (by omega)
  rw [decode, hn, if_pos (by simp [hlow, hhigh])]
  cases o.later with
  | nil => simp; rfl
  | cons next later => simp

theorem lead?_of_two {v : Nat} (hlow : 0x7F < v) (hhigh : v ≤ 0x7FF) :
    lead? (UInt8.ofNat (v / 64 + 0xC0)) = some (v / 64, anyContinuation, []) := by
  have hn : (UInt8.ofNat (v / 64 + 0xC0)).toNat = v / 64 + 0xC0 := toNat_ofNat_byte (by omega)
  simp only [lead?, hn, Bool.and_eq_true, decide_eq_true_eq, beq_iff_eq]
  rw [if_pos (by omega)]
  simp

/-- The byte after the lead is in the narrower range that keeps out longer forms and surrogates. -/
theorem lead?_of_three {v : Nat} (hlow : 0x7FF < v) (hhigh : v ≤ 0xFFFF) (h : v.isValidChar) :
    ∃ next : Nat × Nat, lead? (UInt8.ofNat (v / 4096 + 0xE0)) =
        some (v / 4096, next, [anyContinuation]) ∧
      next.1 ≤ v / 64 % 64 + 0x80 ∧ v / 64 % 64 + 0x80 ≤ next.2 := by
  have hn : (UInt8.ofNat (v / 4096 + 0xE0)).toNat = v / 4096 + 0xE0 := toNat_ofNat_byte (by omega)
  unfold Nat.isValidChar at h
  by_cases hfirst : v / 4096 = 0
  · exact ⟨(0xA0, 0xBF), by simp [lead?, hfirst], by omega, by omega⟩
  by_cases hsurrogate : v / 4096 = 13
  · exact ⟨(0x80, 0x9F), by simp [lead?, hsurrogate], by omega, by omega⟩
  · refine ⟨anyContinuation, ?_, by simp [anyContinuation], by simp only [anyContinuation]; omega⟩
    simp only [lead?, hn, Bool.and_eq_true, decide_eq_true_eq, beq_iff_eq]
    rw [if_neg (by omega), if_neg (by omega), if_neg (by omega), if_pos (by omega)]
    simp

theorem lead?_of_four {v : Nat} (hlow : 0xFFFF < v) (hhigh : v < 0x110000) :
    ∃ next : Nat × Nat, lead? (UInt8.ofNat (v / 262144 + 0xF0)) =
        some (v / 262144, next, [anyContinuation, anyContinuation]) ∧
      next.1 ≤ v / 4096 % 64 + 0x80 ∧ v / 4096 % 64 + 0x80 ≤ next.2 := by
  have hn : (UInt8.ofNat (v / 262144 + 0xF0)).toNat = v / 262144 + 0xF0 :=
    toNat_ofNat_byte (by omega)
  by_cases hfirst : v / 262144 = 0
  · exact ⟨(0x90, 0xBF), by simp [lead?, hfirst], by omega, by omega⟩
  by_cases hlast : v / 262144 = 4
  · exact ⟨(0x80, 0x8F), by simp [lead?, hlast], by omega, by omega⟩
  · refine ⟨anyContinuation, ?_, by simp [anyContinuation], by simp only [anyContinuation]; omega⟩
    simp only [lead?, hn, Bool.and_eq_true, decide_eq_true_eq, beq_iff_eq]
    rw [if_neg (by omega), if_neg (by omega), if_neg (by omega),
      if_neg (by omega), if_neg (by omega), if_pos (by omega)]
    simp

theorem decode_more {start code x : Nat} {byte : UInt8} {next next' : Nat × Nat}
    {later : List (Nat × Nat)} (hx : x < 64) (hlow : next.1 ≤ x + 0x80)
    (hhigh : x + 0x80 ≤ next.2) (offset : Nat) (bs : List UInt8) :
    decode offset (some ⟨start, byte, code, next, next' :: later⟩)
        (UInt8.ofNat (x + 0x80) :: bs) =
      decode (offset + 1) (some ⟨start, byte, code * 64 + x, next', later⟩) bs :=
  decode_continuation hx hlow hhigh offset bs

theorem decode_last {start code x : Nat} {byte : UInt8} (hx : x < 64) (offset : Nat)
    (bs : List UInt8) :
    decode offset (some ⟨start, byte, code, anyContinuation, []⟩) (UInt8.ofNat (x + 0x80) :: bs) =
      (Char.ofNat (code * 64 + x) :: ·) <$> decode (offset + 1) none bs :=
  decode_continuation hx (by simp [anyContinuation]) (by simp only [anyContinuation]; omega) _ _

/-- Every character is read back from its bytes. -/
theorem decode_char (c : Char) (offset : Nat) (bs : List UInt8) :
    ∃ offset', decode offset none (String.utf8EncodeChar c ++ bs) =
      (c :: ·) <$> decode offset' none bs := by
  have hvalid : c.toNat.isValidChar := c.valid
  have hc : Char.ofNat c.toNat = c := Char.ofNat_toNat c
  have hv : c.val.toNat = c.toNat := rfl
  unfold String.utf8EncodeChar
  simp only [hv]
  generalize c.toNat = v at hvalid hc
  have hbound : v < 0x110000 := by unfold Nat.isValidChar at hvalid; omega
  -- One case for each number of bytes.
  by_cases h1 : v ≤ 0x7F
  · rw [if_pos h1]
    exact ⟨offset + 1, by rw [← hc]; exact decode_single h1 offset bs⟩
  rw [if_neg h1]
  by_cases h2 : v ≤ 0x7FF
  · have hcode : v / 64 * 64 + v % 64 = v := by omega
    have hmod : v / 64 % 32 = v / 64 := by omega
    refine ⟨offset + 1 + 1, ?_⟩
    rw [if_pos h2, hmod, List.cons_append,
      decode_lead (by omega) (by omega) (lead?_of_two (by omega) h2)]
    rw [List.singleton_append, decode_last (by omega), hcode, hc]
  rw [if_neg h2]
  by_cases h3 : v ≤ 0xFFFF
  · have hcode : (v / 4096 * 64 + v / 64 % 64) * 64 + v % 64 = v := by omega
    have hmod : v / 4096 % 16 = v / 4096 := by omega
    obtain ⟨next, hlead, hlow, hhigh⟩ := lead?_of_three (by omega) h3 hvalid
    refine ⟨offset + 1 + 1 + 1, ?_⟩
    rw [if_pos h3, hmod, List.cons_append, decode_lead (by omega) (by omega) hlead]
    rw [List.cons_append, decode_more (by omega) hlow hhigh]
    rw [List.singleton_append, decode_last (by omega), hcode, hc]
  · have hcode : ((v / 262144 * 64 + v / 4096 % 64) * 64 + v / 64 % 64) * 64 + v % 64 = v := by
      omega
    have hmod : v / 262144 % 8 = v / 262144 := by omega
    obtain ⟨next, hlead, hlow, hhigh⟩ := lead?_of_four (by omega) hbound
    refine ⟨offset + 1 + 1 + 1 + 1, ?_⟩
    rw [if_neg h3, hmod, List.cons_append, decode_lead (by omega) (by omega) hlead]
    rw [List.cons_append, decode_more (by omega) hlow hhigh]
    rw [List.cons_append, decode_more (by omega) (by simp [anyContinuation])
      (by simp only [anyContinuation]; omega)]
    rw [List.singleton_append, decode_last (by omega), hcode, hc]

theorem decode_flatMap (cs : List Char) (offset : Nat) :
    decode offset none (cs.flatMap String.utf8EncodeChar) = .ok cs := by
  induction cs generalizing offset with
  | nil => rfl
  | cons c cs ih =>
    obtain ⟨offset', h⟩ := decode_char c offset (cs.flatMap String.utf8EncodeChar)
    rw [List.flatMap_cons, h, ih, map_ok]

end Utf8

/-- A text written as bytes is read back with its line ends unified. -/
theorem Encoding.read_encode (s : String) :
    Encoding.utf8.read (Utf8.encode s) = .ok (String.ofList (unifyNewlines s.toList)) := by
  have hdecode : Encoding.utf8.decode (Utf8.encode s) = .ok s.toList :=
    Utf8.decode_flatMap s.toList 0
  rw [Encoding.read, hdecode, map_ok]

end SchemaFold.Text
