/-! Names of a document: a letter or underscore, then letters, digits and underscores. -/

namespace SchemaFold

def Name.isStart (c : Char) : Bool :=
  c.isAlpha || c == '_'

def Name.isContinue (c : Char) : Bool :=
  c.isAlphanum || c == '_'

def Name.wellFormed : List Char → Bool
  | [] => false
  | c :: cs => Name.isStart c && cs.all Name.isContinue

structure Name where
  text : String
  valid : Name.wellFormed text.toList = true
  deriving DecidableEq

/-- The longest name that starts with `c` and goes on into `cs`. -/
def Name.read (c : Char) (cs : List Char) (h : Name.isStart c = true) : Name where
  text := String.ofList (c :: cs.takeWhile Name.isContinue)
  valid := by simp [Name.wellFormed, h, List.all_takeWhile]

namespace Name

theorem isContinue_of_isStart {c : Char} (h : isStart c = true) : isContinue c = true := by
  simp only [isStart, isContinue, Char.isAlphanum, Bool.or_eq_true] at h ⊢
  rcases h with h | h
  · exact .inl (.inl h)
  · exact .inr h

theorem exists_cons (n : Name) : ∃ c cs, n.text.toList = c :: cs ∧ isStart c = true ∧
    ∀ d ∈ cs, isContinue d = true := by
  have hvalid := n.valid
  cases htext : n.text.toList with
  | nil => simp [htext, wellFormed] at hvalid
  | cons c cs =>
    rw [htext, wellFormed, Bool.and_eq_true, List.all_eq_true] at hvalid
    exact ⟨c, cs, rfl, hvalid⟩

theorem isContinue_of_mem (n : Name) {c : Char} (h : c ∈ n.text.toList) : isContinue c = true := by
  obtain ⟨d, ds, htext, hd, hds⟩ := n.exists_cons
  rw [htext] at h
  rcases List.mem_cons.mp h with rfl | h
  · exact isContinue_of_isStart hd
  · exact hds c h

theorem not_mem_of_not_isContinue (n : Name) {c : Char} (h : isContinue c = false) :
    c ∉ n.text.toList := by
  intro hc
  simp [n.isContinue_of_mem hc] at h

theorem toList_ne_nil (n : Name) : n.text.toList ≠ [] := by
  obtain ⟨c, cs, htext, -⟩ := n.exists_cons
  simp [htext]

end Name

/-- A name as settings accept it: a single line feed may follow. -/
def Name.accepted (s : String) : Bool :=
  match s.toList with
  | [] => false
  | c :: cs =>
    Name.isStart c && (cs.all Name.isContinue || cs.dropWhile Name.isContinue == ['\n'])

end SchemaFold
