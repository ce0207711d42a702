import Mathlib.Data.List.DropRight
import SchemaFold.Text.Blank

/-! Trimming a text leaves its one part that neither begins nor ends with white space and has only
white space around it. -/

namespace SchemaFold.Text

/-- What is left of a text without the white space at its ends. -/
structure Stripped (s t : String) : Prop where
  padded : ∃ left right, s = left ++ t ++ right ∧ allBlank left = true ∧ allBlank right = true
  first : ∀ c, t.toList.head? = some c → isBlank c = false
  last : ∀ c, t.toList.getLast? = some c → isBlank c = false

theorem trimLeft_append {left : List Char} (h : left.all isBlank = true) (cs : List Char) :
    trimLeft (left ++ cs) = trimLeft cs :=
  List.dropWhile_append_of_pos (List.all_eq_true.mp h)

theorem trimLeft_of_head {cs : List Char} (h : ∀ c, cs.head? = some c → isBlank c = false) :
    trimLeft cs = cs := by
  cases cs with
  | nil => rfl
  | cons c cs => exact List.dropWhile_cons_of_neg (by simp [h c rfl])

theorem head?_trimLeft {cs : List Char} {c : Char} (h : (trimLeft cs).head? = some c) :
    isBlank c = false := by
  have hnot := List.head?_dropWhile_not isBlank cs
  rw [trimLeft] at h
  simpa [h] using hnot

theorem trimRight_eq (cs : List Char) : trimRight cs = (trimLeft cs.reverse).reverse := rfl

theorem trimRight_append {right : List Char} (h : right.all isBlank = true) (cs : List Char) :
    trimRight (cs ++ right) = trimRight cs := by
  have hreverse : right.reverse.all isBlank = true := by rwa [List.all_reverse]
  rw [trimRight_eq, List.reverse_append, trimLeft_append hreverse, trimRight_eq]

theorem trimRight_of_last {cs : List Char} (h : ∀ c, cs.getLast? = some c → isBlank c = false) :
    trimRight cs = cs := by
  have hreverse : trimLeft cs.reverse = cs.reverse := trimLeft_of_head (by simpa using h)
  rw [trimRight_eq, hreverse, List.reverse_reverse]

theorem getLast?_trimRight {cs : List Char} {c : Char} (h : (trimRight cs).getLast? = some c) :
    isBlank c = false := by
  rw [trimRight_eq, List.getLast?_reverse] at h
  exact head?_trimLeft h

theorem head?_of_trimRight {cs : List Char} {c : Char} (h : (trimRight cs).head? = some c) :
    cs.head? = some c := by
  obtain ⟨rest, hrest⟩ : trimRight cs <+: cs := List.rdropWhile_prefix isBlank cs
  rw [← hrest, List.head?_append, h]
  rfl

theorem stripped_trim (s : String) : Stripped s (trim s) := by
  let rest := trimLeft s.toList
  have htrim : (trim s).toList = trimRight rest := String.toList_ofList
  have hleft : s.toList.takeWhile isBlank ++ rest = s.toList := List.takeWhile_append_dropWhile
  have hright : trimRight rest ++ rest.rtakeWhile isBlank = rest :=
    List.rdropWhile_append_rtakeWhile
  refine ⟨⟨String.ofList (s.toList.takeWhile isBlank), String.ofList (rest.rtakeWhile isBlank),
    ?_, ?_, ?_⟩, ?_, ?_⟩
  · apply String.toList_injective
    simp only [String.toList_append, String.toList_ofList, htrim, List.append_assoc, hright, hleft]
  · rw [allBlank, String.toList_ofList]
    exact List.all_takeWhile
  · rw [allBlank, String.toList_ofList, List.all_eq_true]
    exact fun c hc => List.mem_rtakeWhile_imp hc
  · intro c hc
    rw [htrim] at hc
    exact head?_trimLeft (head?_of_trimRight hc)
  · intro c hc
    rw [htrim] at hc
    exact getLast?_trimRight hc

theorem Stripped.trim_eq {s t : String} (h : Stripped s t) : trim s = t := by
  obtain ⟨left, right, rfl, hleft, hright⟩ := h.padded
  have hpadded : (left ++ t ++ right).toList = left.toList ++ (t.toList ++ right.toList) := by simp
  have hrest : trimRight (trimLeft (t.toList ++ right.toList)) = t.toList := by
    cases ht : t.toList with
    | nil =>
      -- With nothing in between, all of the white space goes from the front.
      have hnone := trimLeft_append hright []
      rw [List.append_nil] at hnone
      rw [List.nil_append, hnone]
      rfl
    | cons c cs =>
      have hhead : trimLeft (c :: cs ++ right.toList) = c :: cs ++ right.toList :=
        trimLeft_of_head (by simpa [ht] using h.first)
      rw [hhead, trimRight_append hright, trimRight_of_last (ht ▸ h.last)]
  rw [trim, hpadded, trimLeft_append hleft, hrest, String.ofList_toList]

theorem trim_eq_iff {s t : String} : trim s = t ↔ Stripped s t :=
  ⟨fun h => h ▸ stripped_trim s, Stripped.trim_eq⟩

theorem allBlank_append (s t : String) : allBlank (s ++ t) = (allBlank s && allBlank t) := by
  simp [allBlank]

theorem trim_eq_empty_iff {s : String} : trim s = "" ↔ allBlank s = true := by
  rw [trim_eq_iff]
  constructor
  · rintro ⟨⟨left, right, rfl, hleft, hright⟩, -, -⟩
    rw [String.append_empty, allBlank_append, hleft, hright]
    rfl
  · intro h
    exact ⟨⟨s, "", by simp, h, rfl⟩, by simp, by simp⟩

theorem isEmpty_trim (s : String) : (trim s).isEmpty = allBlank s := by
  rw [Bool.eq_iff_iff, String.isEmpty_iff, trim_eq_empty_iff]

theorem Stripped.allBlank_eq {s t : String} (h : Stripped s t) : allBlank t = allBlank s := by
  obtain ⟨left, right, rfl, hleft, hright⟩ := h.padded
  rw [allBlank_append, allBlank_append, hleft, hright, Bool.true_and, Bool.and_true]

end SchemaFold.Text
