import SchemaFold.Proofs.ModuleReading
import SchemaFold.Proofs.References

/-! What the line of a field tells: its name, whether null is excluded, how many lists there are and
the type inside them. Nothing else of the field shows. -/

namespace SchemaFold

namespace Name

/-- Whether a name in front of these characters ends there. -/
def endsAt (rest : List Char) : Bool :=
  rest.head?.any fun c => !isContinue c

theorem takeWhile_append (n : Name) {rest : List Char}
    (h : ∀ c ∈ rest.head?, isContinue c = false) :
    (n.text.toList ++ rest).takeWhile isContinue = n.text.toList := by
  have hstop : rest.takeWhile isContinue = [] := by
    cases rest with
    | nil => rfl
    | cons c rest => simp [h c rfl]
  rw [List.takeWhile_append_of_pos fun c hc => n.isContinue_of_mem hc, hstop, List.append_nil]

theorem append_inj {n n' : Name} {rest rest' : List Char}
    (h : ∀ c ∈ rest.head?, isContinue c = false) (h' : ∀ c ∈ rest'.head?, isContinue c = false)
    (heq : n.text.toList ++ rest = n'.text.toList ++ rest') : n = n' ∧ rest = rest' := by
  have htext : n.text.toList = n'.text.toList := by
    rw [← n.takeWhile_append h, heq, n'.takeWhile_append h']
  have hname : some n = some n' := by rw [← n.ofChars?_toList, htext, n'.ofChars?_toList]
  rw [htext] at heq
  exact ⟨Option.some.inj hname, List.append_cancel_left heq⟩

end Name

namespace Declaration.Field

theorem head_optionalMark {marker : String} (hmarker : Name.endsAt marker.toList = true)
    (f : Field) :
    ∀ c ∈ (f.optionalMark marker ++ ':' :: ' ' :: f.type).head?, Name.isContinue c = false := by
  intro c hc
  unfold optionalMark at hc
  split at hc
  · cases hchars : marker.toList with
    | nil => simp [hchars, Name.endsAt] at hmarker
    | cons d ds =>
      obtain rfl : d = c := by simpa [hchars] using hc
      simpa [hchars, Name.endsAt] using hmarker
  · obtain rfl : ':' = c := by simpa using hc
    rfl

theorem marked_ne {marker type type' : List Char} (hmarker : marker ≠ []) (htype : ':' ∉ type') :
    marker ++ ':' :: ' ' :: type ≠ ':' :: ' ' :: type' := by
  -- If the marker began with the colon on the right, its own colon would be inside the type there.
  obtain ⟨c, cs, rfl⟩ := List.exists_cons_of_ne_nil hmarker
  intro h
  have hrest : cs ++ ':' :: ' ' :: type = ' ' :: type' := (List.cons.inj h).2
  have hcolon : ':' ∈ ' ' :: type' := by
    rw [← hrest]
    simp
  simp [htype] at hcolon

theorem optionalMark_inj {marker : String} (hmarker : marker.toList ≠ []) {f f' : Field}
    (h : f.optionalMark marker ++ ':' :: ' ' :: f.type =
      f'.optionalMark marker ++ ':' :: ' ' :: f'.type) :
    f.optional = f'.optional ∧ f.type = f'.type := by
  have hcolon : ∀ f : Field, ':' ∉ f.type := fun f => f.not_mem_type rfl (by decide)
  cases ho : f.optional <;> cases ho' : f'.optional <;>
    simp only [optionalMark, ho, ho', if_true, Bool.false_eq_true, if_false, List.nil_append] at h
  · simpa using h
  · exact absurd h.symm (marked_ne hmarker (hcolon f))
  · exact absurd h (marked_ne hmarker (hcolon f'))
  · simpa using h

theorem type_inj {f f' : Field} (h : f.type = f'.type) : f.base = f'.base ∧ f.depth = f'.depth := by
  have hhead : ∀ (depth : Nat), ∀ c ∈ (List.replicate depth ['[', ']']).flatten.head?,
      Name.isContinue c = false := by
    intro depth c hc
    cases depth with
    | zero => simp at hc
    | succ depth =>
      obtain rfl : '[' = c := by simpa [List.replicate_succ] using hc
      rfl
  obtain ⟨hbase, hbrackets⟩ := Name.append_inj (hhead f.depth) (hhead f'.depth) h
  have hcount := congrArg (List.count '[') hbrackets
  rw [count_brackets, count_brackets] at hcount
  exact ⟨hbase, hcount⟩

/-- Under a marker that does not go on with the name, the line of a field can be read in one way
only. -/
theorem textUnder_injective {marker : String} (hmarker : Name.endsAt marker.toList = true) :
    Function.Injective (textUnder marker) := by
  intro f f' h
  have hchars := congrArg String.toList h
  rw [toList_textUnder, toList_textUnder] at hchars
  obtain ⟨hname, hrest⟩ :=
    Name.append_inj (f.head_optionalMark hmarker) (f'.head_optionalMark hmarker) hchars
  have hne : marker.toList ≠ [] := by
    intro hnil
    simp [hnil, Name.endsAt] at hmarker
  obtain ⟨hoptional, htype⟩ := optionalMark_inj hne hrest
  obtain ⟨hbase, hdepth⟩ := type_inj htype
  cases f
  cases f'
  simp_all

end Declaration.Field

theorem TypeRef.line_eq_iff {marker : String} (hmarker : Name.endsAt marker.toList = true)
    {t t' : TypeRef} {n n' : Name} :
    t.line marker n = t'.line marker n' ↔
      n = n' ∧ t.isRequired = t'.isRequired ∧ t.depth = t'.depth ∧
        t.name.resolved = t'.name.resolved := by
  have hinjective := Declaration.Field.textUnder_injective hmarker
  rw [← Declaration.textUnder_declared, ← Declaration.textUnder_declared, hinjective.eq_iff]
  simp only [declared, base_eq, Name.target, Declaration.Field.mk.injEq, Name.mk.injEq,
    Bool.not_inj_iff]
  constructor
  · rintro ⟨hname, hrequired, hbase, hdepth⟩
    exact ⟨hname, hrequired, hdepth, hbase⟩
  · rintro ⟨hname, hrequired, hdepth, hbase⟩
    exact ⟨hname, hrequired, hbase, hdepth⟩

/-- What becomes a line: a field, or what is defined like an argument. -/
inductive LineSource where
  | field (f : FieldDefinition)
  | input (v : InputValue)

namespace LineSource

def toTree : LineSource → Value
  | field f => f.toTree
  | input v => v.toTree

def name : LineSource → Name
  | field f => f.name
  | input v => v.name

def type : LineSource → TypeRef
  | field f => f.type
  | input v => v.type

theorem folds (r : Fold.Rules) (x : LineSource) :
    r.Folds x.toTree (.text (x.type.line r.settings.optionalMarker x.name)) := by
  cases x with
  | field f => exact Fold.Rules.folds_field r f
  | input v => exact Fold.Rules.folds_inputValue r v

/-- Fields and arguments fold into lines wherever they stand, and two of these lines are the same
exactly for the same name, the same mark on the whole type, the same number of lists and the same
type inside them. -/
theorem folds_same_line_iff (r : Fold.Rules)
    (hmarker : Name.endsAt r.settings.optionalMarker.toList = true) (x y : LineSource) :
    ∃ line line', r.Folds x.toTree (.text line) ∧ r.Folds y.toTree (.text line') ∧
      (line = line' ↔
        x.name = y.name ∧ x.type.isRequired = y.type.isRequired ∧ x.type.depth = y.type.depth ∧
          x.type.name.resolved = y.type.name.resolved) :=
  ⟨_, _, x.folds r, y.folds r, TypeRef.line_eq_iff hmarker⟩

theorem wellFormed_int : Name.wellFormed "Int".toList = true := rfl

/-- A list of lists whose items are marked. -/
def tideField : LineSource :=
  .field ⟨some ⟨"High and low", false⟩, ⟨"tides", rfl⟩,
    [⟨none, ⟨"since", rfl⟩, .named ⟨"Int", wellFormed_int⟩ false, some (.int "3"), []⟩],
    .list (.list (.named ⟨"Int", wellFormed_int⟩ true) false) true, []⟩

def tideInput (required : Bool) : LineSource :=
  .input ⟨none, ⟨"tides", rfl⟩, .list (.list (.named ⟨"Float", rfl⟩ false) true) required,
    some (.list []), [⟨⟨"hidden", rfl⟩, []⟩]⟩

theorem folds_same_line_iff_tides :
    let r : Fold.Rules := ⟨{ optionalMarker := ":?" }, ⟨[], []⟩, [], TemplateSet.builtin⟩
    Name.endsAt r.settings.optionalMarker.toList = true ∧
      (∃ line, r.Folds tideField.toTree (.text line) ∧
        r.Folds (tideInput true).toTree (.text line)) ∧
      ∃ line line', r.Folds (tideInput true).toTree (.text line) ∧
        r.Folds (tideInput false).toTree (.text line') ∧ line ≠ line' := by
  intro r
  have hmarker : Name.endsAt ":?".toList = true := by decide
  obtain ⟨line, line', hfield, hinput, hsame⟩ :=
    folds_same_line_iff r hmarker tideField (tideInput true)
  obtain ⟨marked, plain, hmarked, hplain, hdiffer⟩ :=
    folds_same_line_iff r hmarker (tideInput true) (tideInput false)
  obtain rfl : line = line' := hsame.mpr ⟨rfl, rfl, rfl, rfl⟩
  exact ⟨hmarker, ⟨line, hfield, hinput⟩, marked, plain, hmarked, hplain, fun heq =>
    absurd (hdiffer.mp heq).2.1 (by decide)⟩

end LineSource
end SchemaFold
