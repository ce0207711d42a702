import SchemaFold.Proofs.ModuleReading
import SchemaFold.Proofs.References

/-! The members of the aliases in a module. Every alias has members, and each of them has some text,
unless the document holds an enum without values or a union without members. -/

namespace SchemaFold

namespace Name

theorem not_isBlank_of_isContinue {c : Char} (h : isContinue c = true) :
    Text.isBlank c = false := by
  have hrange : (65 ≤ c.toNat ∧ c.toNat ≤ 90) ∨ (97 ≤ c.toNat ∧ c.toNat ≤ 122) ∨
      (48 ≤ c.toNat ∧ c.toNat ≤ 57) ∨ c.toNat = 95 := by
    have hclasses : isContinue c = (decide (c.val ≥ 'A'.val ∧ c.val ≤ 'Z'.val) ||
        (decide (c.val ≥ 'a'.val) && decide (c.val ≤ 'z'.val)) ||
        (decide (c.val ≥ '0'.val) && decide (c.val ≤ '9'.val)) || c == '_') := rfl
    simp only [hclasses, Bool.or_eq_true, Bool.and_eq_true, decide_eq_true_eq, beq_iff_eq,
      ge_iff_le, UInt32.le_iff_toNat_le] at h
    rcases h with ((h | h) | h) | rfl
    · exact .inl h
    · exact .inr (.inl h)
    · exact .inr (.inr (.inl h))
    · exact .inr (.inr (.inr rfl))
  simp only [Text.isBlank, Bool.or_eq_false_iff, Bool.and_eq_false_iff, decide_eq_false_iff_not,
    beq_eq_false_iff_ne]
  omega

theorem exists_not_blank (n : Name) : ∃ c ∈ n.text.toList, Text.isBlank c = false := by
  obtain ⟨c, hc⟩ := List.exists_mem_of_ne_nil _ n.toList_ne_nil
  exact ⟨c, hc, not_isBlank_of_isContinue (n.isContinue_of_mem hc)⟩

end Name

/-- An alias of this name with at least one member, all of them with some text. -/
def Declarations.FilledAlias (name text : String) : Prop :=
  ∃ members, members ≠ [] ∧ (∀ m ∈ members, ∃ c ∈ m.toList, Text.isBlank c = false) ∧
    text = "type " ++ name ++ " = " ++ " | ".intercalate members

theorem Declarations.not_filledAlias_nil (name : String) :
    ¬FilledAlias name (aliasText name []) := by
  rintro ⟨members, hne, hfilled, htext⟩
  have hempty : " | ".toList.intercalate (members.map String.toList) = [] := by
    have hlists := congrArg String.toList htext
    simpa [aliasText] using hlists.symm
  have hmembers : ∀ m ∈ members.map String.toList, m ≠ [] := by
    intro m hm
    obtain ⟨member, hmember, rfl⟩ := List.mem_map.mp hm
    obtain ⟨c, hc, -⟩ := hfilled member hmember
    exact List.ne_nil_of_mem hc
  exact Declaration.intercalate_ne_nil _ (by simpa using hne) hmembers hempty

/-- Whether a type is an enum without values or a union without members. -/
def TypeBody.isHollow : TypeBody → Bool
  | .enum [] | .union [] => true
  | _ => false

def Definition.isHollow : Definition → Bool
  | .type _ _ _ body => body.isHollow
  | _ => false

namespace Module.Item

def isAlias : Item → Bool
  | scalarAlias .. | declared (.typeAlias ..) => true
  | declared (.interface ..) => false

theorem filledAlias_of_members {name : Name} {members : List Declaration.Member}
    (h : members ≠ []) (settings : Settings) :
    Declarations.FilledAlias name.text ((declared (.typeAlias name members)).text settings) := by
  refine ⟨members.map Declaration.Member.text, by simpa using h, ?_, rfl⟩
  intro m hm
  obtain ⟨member, -, rfl⟩ := List.mem_map.mp hm
  cases member with
  | literal n => exact ⟨'"', by simp [Declaration.Member.text], by decide⟩
  | type n => exact n.exists_not_blank

/-- Under accepted settings the alias of a scalar is never empty, and other aliases are empty only
where the type itself is. -/
theorem filledAlias_iff {registry : Registry} {roots : List String} {n : Name} {body : TypeBody}
    {item : Item} (h : ofBody registry roots n body = some item) (halias : item.isAlias = true)
    (hregistry : ∀ name, ∃ c ∈ (registry.declaredType name).toList, Text.isBlank c = false)
    (settings : Settings) :
    Declarations.FilledAlias item.name.text (item.text settings) ↔ body.isHollow = false := by
  cases body with
  | scalar =>
    simp only [ofBody] at h
    split at h
    · contradiction
    · cases h
      simp only [TypeBody.isHollow, iff_true]
      exact ⟨[_], by simp, by simpa using hregistry n.text, rfl⟩
  | object interfaces fields =>
    simp only [ofBody, Declaration.ofBody] at h
    split at h
    · contradiction
    · cases h
      contradiction
  | interface interfaces fields =>
    cases h
    contradiction
  | input fields =>
    cases h
    contradiction
  | union members =>
    cases h
    cases members with
    | nil =>
      simp only [TypeBody.isHollow, Bool.true_eq_false, iff_false]
      exact Declarations.not_filledAlias_nil n.text
    | cons m members =>
      simp only [TypeBody.isHollow, iff_true]
      exact filledAlias_of_members (by simp) settings
  | enum values =>
    cases h
    cases values with
    | nil =>
      simp only [TypeBody.isHollow, Bool.true_eq_false, iff_false]
      exact Declarations.not_filledAlias_nil n.text
    | cons v values =>
      simp only [TypeBody.isHollow, iff_true]
      exact filledAlias_of_members (by simp) settings

theorem isAlias_of_isHollow (registry : Registry) (roots : List String) (n : Name) {body : TypeBody}
    (h : body.isHollow = true) :
    ∃ item, ofBody registry roots n body = some item ∧ item.isAlias = true := by
  unfold TypeBody.isHollow at h
  split at h
  · exact ⟨_, rfl, rfl⟩
  · exact ⟨_, rfl, rfl⟩
  · contradiction

end Module.Item

namespace Generator

/-- Settings that were accepted give every scalar a type with some text. -/
theorem declaredType_filled {draft : Settings.Draft} {g : Generator} {hooks : Hooks}
    (h : ofDraft draft hooks = .ok g) (name : String) :
    ∃ c ∈ (g.registry.declaredType name).toList, Text.isBlank c = false := by
  obtain ⟨settings, hsettings, hg⟩ := bind_eq_ok.mp h
  obtain ⟨registry, hregistry, hg⟩ := bind_eq_ok.mp hg
  cases hg
  rw [mapError_eq_ok] at hsettings hregistry
  rw [Settings.declaredType_registry hsettings hregistry]
  cases hname : Assoc.get? name settings.scalars with
  | none => exact ⟨'a', by simp [Scalar.anyType], by decide⟩
  | some type =>
    have hchecked := Settings.checkScalars_eq_ok.mp (Settings.checkScalars_of_ofDraft hsettings)
    exact (Text.allBlank_eq_false _).mp (hchecked.2.2 _ (Assoc.mem_of_get? hname))

/-- The aliases of a module all have members with some text, unless the document has an enum without
values or a union without members. -/
theorem render_aliases_filled_iff {draft : Settings.Draft} {settings : Settings}
    (haccepted : Settings.ofDraft draft = .ok settings) {disk : Disk}
    (hbuiltin : TemplateSet.UsesBuiltin disk settings.templateDir) :
    ∃ g, ofDraft draft = .ok g ∧ ∀ d : Document,
      (g.render disk d).result = .ok (Module.text settings (d.items settings g.registry)) ∧
        ((∀ item ∈ d.items settings g.registry, item.isAlias = true →
            Declarations.FilledAlias item.name.text (item.text settings)) ↔
          ∀ x ∈ d, x.isHollow = false) := by
  obtain ⟨registry, hg⟩ := ofDraft_of_accepted haccepted {}
  have hregistry := declaredType_filled hg
  refine ⟨_, hg, fun d => ⟨render_items hbuiltin registry d, ?_, ?_⟩⟩
  · intro hfilled x hx
    cases x with
    | type description n directives body =>
      by_contra hhollow
      rw [Bool.not_eq_false] at hhollow
      obtain ⟨item, hitem, halias⟩ :=
        Module.Item.isAlias_of_isHollow registry (d.operationRoots settings) n hhollow
      have hmem := Module.Item.mem_items.mpr ⟨description, n, directives, body, hx, hitem⟩
      have hbody := (Module.Item.filledAlias_iff hitem halias hregistry settings).mp
        (hfilled item hmem halias)
      exact absurd hhollow (by simp [Definition.isHollow, hbody])
    | _ => rfl
  · intro hd item hitem halias
    obtain ⟨description, n, directives, body, hx, hbody⟩ := Module.Item.mem_items.mp hitem
    exact (Module.Item.filledAlias_iff hbody halias hregistry settings).mpr (hd _ hx)

theorem wellFormed_string : Name.wellFormed "String".toList = true := rfl

/-- A schema with an alias of each kind. -/
def aliasSchema : Document :=
  [.type none ⟨"Fee", rfl⟩ [] .scalar,
    .type none ⟨"Payer", rfl⟩ [] (.union [⟨"Guest", rfl⟩, ⟨"String", wellFormed_string⟩]),
    .type none ⟨"Guest", rfl⟩ [] (.object [] []),
    .type none ⟨"Phase", rfl⟩ [] (.enum [⟨none, ⟨"OPEN", rfl⟩, []⟩, ⟨none, ⟨"DONE", rfl⟩, []⟩])]

theorem render_aliases_filled_iff_aliasSchema :
    let draft : Settings.Draft := { scalars := some (.mapping [("Fee", .text " bigint")]) }
    let settings : Settings := { scalars := [("Fee", " bigint")] }
    Settings.ofDraft draft = .ok settings ∧ TemplateSet.UsesBuiltin {} settings.templateDir ∧
      ∃ g, ofDraft draft = .ok g ∧
        (g.render {} aliasSchema).result =
          .ok ("export type Fee =  bigint\n\nexport type Payer = Guest | string\n\n" ++
            "export interface Guest \x7b\n\x7d\n\nexport type Phase = \"OPEN\" | \"DONE\"") ∧
        ∀ item ∈ aliasSchema.items settings g.registry, item.isAlias = true →
          Declarations.FilledAlias item.name.text (item.text settings) := by
  intro draft settings
  have haccepted : Settings.ofDraft draft = .ok settings := rfl
  have hbuiltin : TemplateSet.UsesBuiltin {} settings.templateDir :=
    TemplateSet.usesBuiltin_of_no_folder rfl
  refine ⟨haccepted, hbuiltin, ?_⟩
  obtain ⟨g, hg, haliases⟩ := render_aliases_filled_iff haccepted hbuiltin
  have hstate : g = ⟨settings, ⟨[("Fee", " bigint")], ["Date"]⟩, {}⟩ := (Except.ok.inj hg).symm
  obtain ⟨hrender, hfilled⟩ := haliases aliasSchema
  refine ⟨g, hg, ?_, hfilled.mpr (by decide)⟩
  rw [hrender, hstate]
  rfl

/-- The alias of a union without members has nothing on its right side. -/
theorem renderSource_empty_union :
    (Generator.standard.renderSource {} "union Crew").result = .ok "export type Crew = " ∧
      ∀ text, Declarations.FilledAlias "Crew" text → "export " ++ text ≠ "export type Crew = " := by
  rw [renderSource_result (TemplateSet.usesBuiltin_of_no_folder rfl)]
  refine ⟨eq_ok_of_toOption (by decide +kernel), ?_⟩
  intro text hfilled htext
  have hempty : text = Declarations.aliasText "Crew" [] :=
    (String.append_right_inj "export ").mp (htext.trans (by decide))
  exact Declarations.not_filledAlias_nil "Crew" (hempty ▸ hfilled)

end Generator
end SchemaFold
