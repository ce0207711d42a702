import SchemaFold.Proofs.DeclaredTypes

/-! The type names in a module. Where a document defines every type that it uses, its module
declares every type that it refers to, but for those whose declarations are left out on purpose. -/

namespace SchemaFold

namespace Declaration

def name : Declaration → Name
  | .interface name _ _ | .typeAlias name _ => name

/-- The type that a member names. An enum value names none. -/
def Member.type? : Member → Option Name
  | .literal _ => none
  | .type n => some n

/-- The type names in a declaration: those it extends, those of its fields, and its members. -/
def references : Declaration → List Name
  | .interface _ extended fields => extended ++ fields.map Field.base
  | .typeAlias _ members => members.filterMap Member.type?

end Declaration

namespace Module.Item

def name : Item → Name
  | scalarAlias name _ => name
  | declared d => d.name

def references : Item → List Name
  | scalarAlias _ _ => []
  | declared d => d.references

end Module.Item

/-- The type that a reference names, inside all lists. -/
def TypeRef.name : TypeRef → Name
  | .named n _ => n
  | .list item _ => item.name

theorem TypeRef.base_eq (t : TypeRef) : t.base = t.name.target := by
  induction t with
  | named n required => rfl
  | list item required ih => exact ih

/-- The type names that a type's declaration is made of. An interface does not carry over the
interfaces that it implements. -/
def TypeBody.references : TypeBody → List Name
  | .scalar | .enum _ => []
  | .object interfaces fields => interfaces ++ fields.map fun f => f.type.name
  | .interface _ fields => fields.map fun f => f.type.name
  | .union members => members
  | .input fields => fields.map fun v => v.type.name

namespace Definition

def references : Definition → List Name
  | .type _ _ _ body => body.references
  | _ => []

/-- The type that a definition defines. -/
def typeName? : Definition → Option Name
  | .type _ name _ _ => some name
  | _ => none

end Definition

namespace Document

/-- Whether every type used by a definition is built in or defined in the document. -/
def Closed (d : Document) : Prop :=
  ∀ x ∈ d, ∀ n ∈ x.references, Scalar.isBuiltin n.text = true ∨ n ∈ d.filterMap Definition.typeName?

instance (d : Document) : Decidable d.Closed :=
  inferInstanceAs (Decidable (∀ x ∈ d, ∀ n ∈ x.references, _ ∨ _))

/-- Whether the document defines a scalar of this name that is declared by hand. -/
def HandTypes (registry : Registry) (d : Document) (n : Name) : Prop :=
  registry.isHandTyped n.text = true ∧
    ∃ description directives, Definition.type description n directives .scalar ∈ d

end Document

/-- A reference is written as the primitive type of a built-in scalar, or as it stands. -/
theorem Name.target_cases (n : Name) :
    n.target.text ∈ Scalar.builtins.map Prod.snd ∨
      Scalar.isBuiltin n.text = false ∧ n.target = n := by
  cases h : Assoc.get? n.text Scalar.builtins with
  | some type =>
    left
    have htext : n.target.text = type := by simp [Name.target, Name.resolved, Scalar.resolve, h]
    rw [htext]
    exact List.mem_map_of_mem (Assoc.mem_of_get? h)
  | none =>
    right
    have htext : n.target.text = n.text := by simp [Name.target, Name.resolved, Scalar.resolve, h]
    refine ⟨by simp [Scalar.isBuiltin, h], ?_⟩
    cases hn : n.target
    cases n
    simp_all

namespace Module.Item

theorem name_ofBody {registry : Registry} {roots : List String} {n : Name} {body : TypeBody}
    {item : Item} (h : ofBody registry roots n body = some item) : item.name = n := by
  cases body with
  | scalar =>
    simp only [ofBody] at h
    split at h
    · contradiction
    · cases h
      rfl
  | object interfaces fields =>
    simp only [ofBody, Declaration.ofBody] at h
    split at h
    · contradiction
    · cases h
      rfl
  | _ =>
    cases h
    rfl

theorem references_ofBody {registry : Registry} {roots : List String} {n : Name} {body : TypeBody}
    {item : Item} (h : ofBody registry roots n body = some item) :
    item.references = body.references.map Name.target := by
  have hbase : ∀ t : TypeRef, t.base = t.name.target := TypeRef.base_eq
  cases body with
  | scalar =>
    simp only [ofBody] at h
    split at h
    · contradiction
    · cases h
      rfl
  | object interfaces fields =>
    simp only [ofBody, Declaration.ofBody] at h
    split at h
    · contradiction
    · cases h
      simp [references, Declaration.references, TypeBody.references, TypeRef.declared, hbase]
  | interface interfaces fields =>
    cases h
    simp [references, Declaration.references, TypeBody.references, TypeRef.declared, hbase]
  | union members =>
    cases h
    simp [references, Declaration.references, TypeBody.references, List.filterMap_map,
      Declaration.Member.type?, Function.comp_def]
  | enum values =>
    cases h
    simp [references, Declaration.references, TypeBody.references, List.filterMap_map,
      Declaration.Member.type?, Function.comp_def]
  | input fields =>
    cases h
    simp [references, Declaration.references, TypeBody.references, TypeRef.declared, hbase]

/-- A type definition is left out of the module only for one of two reasons. -/
theorem ofBody_eq_none {registry : Registry} {roots : List String} {n : Name} {body : TypeBody}
    (h : ofBody registry roots n body = none) :
    body = .scalar ∧ registry.isHandTyped n.text = true ∨ n.text ∈ roots := by
  cases body with
  | scalar =>
    left
    simpa [ofBody] using h
  | object interfaces fields =>
    right
    simpa [ofBody, Declaration.ofBody] using h
  | _ => cases h

theorem mem_items {settings : Settings} {registry : Registry} {d : Document} {item : Item} :
    item ∈ d.items settings registry ↔ ∃ description n directives body,
      Definition.type description n directives body ∈ d ∧
        ofBody registry (d.operationRoots settings) n body = some item := by
  simp only [Document.items, List.mem_filterMap]
  constructor
  · rintro ⟨x, hx, hitem⟩
    cases x with
    | type description n directives body => exact ⟨description, n, directives, body, hx, hitem⟩
    | _ => contradiction
  · rintro ⟨description, n, directives, body, hx, hitem⟩
    exact ⟨.type description n directives body, hx, hitem⟩

end Module.Item

/-- A type that a document defines is declared in its module, unless it is a scalar declared by
hand or an operation root. -/
theorem Document.declared_or_omitted {settings : Settings} {registry : Registry} {d : Document}
    {n : Name} (h : n ∈ d.filterMap Definition.typeName?) :
    (∃ item ∈ d.items settings registry, item.name = n) ∨ d.HandTypes registry n ∨
      n.text ∈ d.operationRoots settings := by
  obtain ⟨x, hx, hname⟩ := List.mem_filterMap.mp h
  cases x with
  | type description n' directives body =>
    cases hname
    cases hitem : Module.Item.ofBody registry (d.operationRoots settings) n body with
    | some item =>
      left
      exact ⟨item, Module.Item.mem_items.mpr ⟨description, n, directives, body, hx, hitem⟩,
        Module.Item.name_ofBody hitem⟩
    | none =>
      right
      rcases Module.Item.ofBody_eq_none hitem with ⟨rfl, hhand⟩ | hroot
      · exact .inl ⟨hhand, description, directives, hx⟩
      · exact .inr hroot
  | _ => contradiction

/-- Where a document defines all types that it uses, every type name in its module is that of a
primitive type, is declared in the module, or belongs to one of the definitions that are left out:
scalars declared by hand, and operation roots. -/
theorem Generator.render_references {disk : Disk} {settings : Settings}
    (h : TemplateSet.UsesBuiltin disk settings.templateDir) (registry : Registry) {d : Document}
    (hd : d.Closed) :
    ((Generator.mk settings registry {}).render disk d).result =
        .ok (Module.text settings (d.items settings registry)) ∧
      ∀ item ∈ d.items settings registry, ∀ n ∈ item.references,
        n.text ∈ Scalar.builtins.map Prod.snd ∨
          (∃ other ∈ d.items settings registry, other.name = n) ∨ d.HandTypes registry n ∨
          n.text ∈ d.operationRoots settings := by
  refine ⟨render_items h registry d, ?_⟩
  intro item hitem n hn
  obtain ⟨description, name, directives, body, hx, hbody⟩ := Module.Item.mem_items.mp hitem
  rw [Module.Item.references_ofBody hbody] at hn
  obtain ⟨used, hused, rfl⟩ := List.mem_map.mp hn
  rcases used.target_cases with hprimitive | ⟨hbuiltin, htarget⟩
  · exact .inl hprimitive
  · right
    rw [htarget]
    rcases hd _ hx used hused with hscalar | hdefined
    · simp [hbuiltin] at hscalar
    · exact d.declared_or_omitted hdefined

/-- A schema whose types refer to a scalar declared by hand and to its query type. -/
def linkedSchema : Document :=
  [.type none ⟨"Library", rfl⟩ []
      (.object [] [⟨none, ⟨"top", rfl⟩, [], .named ⟨"Book", rfl⟩ true, []⟩]),
    .schema none [] [⟨.query, ⟨"Library", rfl⟩⟩],
    .type none ⟨"Entry", rfl⟩ []
      (.interface [] [⟨none, ⟨"key", rfl⟩, [], .named ⟨"Int", rfl⟩ true, []⟩]),
    .type none ⟨"Book", rfl⟩ [] (.object [⟨"Entry", rfl⟩]
      [⟨none, ⟨"issued", rfl⟩, [], .named ⟨"Day", rfl⟩ false, []⟩,
        ⟨none, ⟨"shelves", rfl⟩, [], .list (.named ⟨"Library", rfl⟩ true) false, []⟩]),
    .type none ⟨"Day", rfl⟩ [] .scalar,
    .type none ⟨"Loan", rfl⟩ [] (.union [⟨"Book", rfl⟩, ⟨"Library", rfl⟩])]

theorem Generator.render_references_linkedSchema :
    let registry : Registry := ⟨[], ["Day"]⟩
    TemplateSet.UsesBuiltin {} none ∧ linkedSchema.Closed ∧
      ((Generator.mk { indent := "  " } registry {}).render {} linkedSchema).result =
        .ok ("export interface Entry \x7b\n  key: number\n\x7d\n\n" ++
          "export interface Book extends Entry \x7b\n  issued?: Day\n  shelves?: Library[]\n" ++
          "\x7d\n\n" ++
          "export type Loan = Book | Library") ∧
      ∀ item ∈ linkedSchema.items {} registry, ∀ n ∈ item.references,
        n.text ∈ ["string", "string", "boolean", "number", "number"] ∨
          (∃ other ∈ linkedSchema.items {} registry, other.name = n) ∨
          linkedSchema.HandTypes registry n ∨
          n.text ∈ ["Query", "Mutation", "Subscription", "Library"] := by
  have h : TemplateSet.UsesBuiltin {} ({ indent := "  " } : Settings).templateDir :=
    TemplateSet.usesBuiltin_of_no_folder rfl
  have hclosed : linkedSchema.Closed := by decide
  obtain ⟨hrender, hreferences⟩ := Generator.render_references h ⟨[], ["Day"]⟩ hclosed
  exact ⟨h, hclosed, hrender.trans rfl, hreferences⟩

end SchemaFold
