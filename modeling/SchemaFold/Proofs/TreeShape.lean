import SchemaFold.Proofs.DocumentFold

/-! The shape of a document's tree: which kinds of nodes may stand in each part of a node. A tree of
this shape folds into one where names, types, fields and arguments have become text and everything
else is of the same shape as before. -/

namespace SchemaFold

namespace Kind

/-- The kinds of nodes that have a type of their own and cannot do without it. -/
def isTyped : Kind → Bool
  | listType | nonNullType | fieldDefinition | inputValueDefinition => true
  | _ => false

def types : List Kind :=
  [namedType, listType, nonNullType]

def literals : List Kind :=
  [variableReference, intValue, floatValue, stringValue, booleanValue, nullValue, enumValue,
    listValue, objectValue]

def selections : List Kind :=
  [field, fragmentSpread, inlineFragment]

def declared : List Kind :=
  [scalarTypeDefinition, enumTypeDefinition, unionTypeDefinition, objectTypeDefinition,
    interfaceTypeDefinition, inputObjectTypeDefinition]

def definitions : List Kind :=
  declared ++ [operationDefinition, fragmentDefinition, schemaDefinition, directiveDefinition,
    schemaExtension, scalarTypeExtension, objectTypeExtension, interfaceTypeExtension,
    unionTypeExtension, enumTypeExtension, inputObjectTypeExtension]

/-- The kinds of nodes that become text wherever they stand. -/
def textual : List Kind :=
  [name, namedType, listType, fieldDefinition, inputValueDefinition]

end Kind

/-- What may stand in a part: a node of one of these kinds, or a list of such nodes. -/
inductive Slot where
  | node (kinds : List Kind) (optional : Bool)
  | list (kinds : List Kind) (optional : Bool)

/-- The slots of a node's children. Lists may be left out, apart from those that the operation roots
are read from. A type that a node cannot do without may be left out here, too. -/
def Kind.slot (k : Kind) : Part → Slot
  | .name => .node [name] (k == operationDefinition)
  | .label => .node [name] true
  | .description => .node [stringValue] true
  | .value => .node literals false
  | .defaultValue => .node literals true
  | .reference => .node [variableReference] false
  | .selectionSet => .node [selectionSet] (k == field)
  | .typeCondition => .node [namedType] (k == inlineFragment)
  | .type => .node (if k == operationTypeDefinition then [namedType] else types) k.isTyped
  | .definitions => .list definitions false
  | .operationTypes => .list [operationTypeDefinition] (k == schemaExtension)
  | .directives => .list [directive] true
  | .arguments =>
    .list [if k == field || k == directive then argument else inputValueDefinition] true
  | .variableDefinitions => .list [variableDefinition] true
  | .selections => .list selections true
  | .values => .list (if k == listValue then literals else [enumValueDefinition]) true
  | .fields =>
    match k with
    | objectValue => .list [objectField] true
    | inputObjectTypeDefinition | inputObjectTypeExtension => .list [inputValueDefinition] true
    | _ => .list [fieldDefinition] true
  | .interfaces | .types => .list [namedType] true
  | .locations => .list [name] true
  | .block | .operation | .repeatable => .node [] true

/-- A node with all the parts of its kind, in their order. What is in the slots of its children has
the property `P`, and the value of a name is text. -/
structure NodeShape (P : Slot → Value → Prop) (kind : Kind) (parts : List (Part × Value)) :
    Prop where
  keys : parts.map Prod.fst = kind.parts
  children : ∀ e ∈ parts, e.1 ∈ kind.children → P (kind.slot e.1) e.2
  named : kind = .name → ∀ e ∈ parts, ∃ s, e.2 = .text s

namespace NodeShape

variable {P : Slot → Value → Prop} {kind : Kind} {parts : List (Part × Value)} {p : Part}

theorem exists_part (h : NodeShape P kind parts) (hp : p ∈ kind.parts) :
    ∃ v, (p, v) ∈ parts ∧ Fold.partOf p (.node kind parts) = .ok v ∧ Value.part p parts = v := by
  cases hfind : parts.find? (·.1 == p) with
  | none =>
    obtain ⟨e, he, rfl⟩ := List.mem_map.mp (h.keys ▸ hp)
    exact absurd (beq_self_eq_true e.1) (List.find?_eq_none.mp hfind e he)
  | some e =>
    obtain ⟨q, v⟩ := e
    obtain rfl : q = p := by simpa using List.find?_some hfind
    exact ⟨v, List.mem_of_find?_eq_some hfind, by simp [Fold.partOf, hfind],
      by simp [Value.part, hfind]⟩

theorem partOf_eq (h : NodeShape P kind parts) (hp : p ∈ kind.parts) :
    Fold.partOf p (.node kind parts) = .ok (Value.part p parts) := by
  obtain ⟨v, -, hpart, rfl⟩ := h.exists_part hp
  exact hpart

theorem child (h : NodeShape P kind parts) (hp : p ∈ kind.children) :
    P (kind.slot p) (Value.part p parts) := by
  obtain ⟨v, hv, -, rfl⟩ := h.exists_part (List.mem_append_left _ hp)
  exact h.children _ hv hp

theorem exists_nameText (h : NodeShape P .name parts) : ∃ s, Value.part .value parts = .text s := by
  obtain ⟨v, hv, -, rfl⟩ := h.exists_part (p := .value) (by decide)
  exact h.named rfl _ hv

theorem eq_singleton (h : NodeShape P kind parts) (hkind : kind.parts = [p]) :
    parts = [(p, Value.part p parts)] := by
  obtain ⟨e, rfl, hkey⟩ := List.map_eq_singleton_iff.mp (h.keys.trans hkind)
  obtain ⟨q, v⟩ := e
  obtain rfl : q = p := hkey
  simp [Value.part]

end NodeShape

namespace Value

def isAbsent : Value → Bool
  | absent => true
  | _ => false

def isText : Value → Bool
  | text _ => true
  | _ => false

theorem isText_iff {v : Value} : v.isText = true ↔ ∃ s, v = text s := by
  cases v <;> simp [isText]

mutual

/-- Whether a value may stand in a slot, with everything below it in its place. -/
def fits : Slot → Value → Bool
  | .node _ optional, absent | .list _ optional, absent => optional
  | .node kinds _, node kind parts =>
    kinds.contains kind && parts.map Prod.fst == kind.parts && partsFit kind parts
  | .list kinds _, list items => itemsFit kinds items
  | _, _ => false

def itemsFit (kinds : List Kind) : List Value → Bool
  | [] => true
  | v :: vs => fits (.node kinds false) v && itemsFit kinds vs

def partsFit (kind : Kind) : List (Part × Value) → Bool
  | [] => true
  | (p, v) :: rest =>
    (!kind.children.contains p || fits (kind.slot p) v) && (kind != .name || v.isText) &&
      partsFit kind rest

end

theorem itemsFit_iff {kinds : List Kind} {items : List Value} :
    itemsFit kinds items = true ↔ ∀ v ∈ items, fits (.node kinds false) v = true := by
  induction items with
  | nil => simp [itemsFit]
  | cons v items ih => simp [itemsFit, ih]

theorem partsFit_iff {kind : Kind} {parts : List (Part × Value)} :
    partsFit kind parts = true ↔
      (∀ e ∈ parts, e.1 ∈ kind.children → fits (kind.slot e.1) e.2 = true) ∧
        (kind = .name → ∀ e ∈ parts, ∃ s, e.2 = text s) := by
  induction parts with
  | nil => simp [partsFit]
  | cons e parts ih =>
    have hchild : (!kind.children.contains e.1 || fits (kind.slot e.1) e.2) = true ↔
        (e.1 ∈ kind.children → fits (kind.slot e.1) e.2 = true) := by
      simp [imp_iff_not_or]
    have hname : (kind != .name || e.2.isText) = true ↔ (kind = .name → ∃ s, e.2 = text s) := by
      simp [imp_iff_not_or, isText_iff]
    rw [partsFit, Bool.and_eq_true, Bool.and_eq_true, hchild, hname, ih]
    simp only [List.forall_mem_cons]
    constructor
    · rintro ⟨⟨hfits, htext⟩, hrest, hnames⟩
      exact ⟨⟨hfits, hrest⟩, fun h => ⟨htext h, hnames h⟩⟩
    · rintro ⟨⟨hfits, hrest⟩, hnames⟩
      exact ⟨⟨hfits, fun h => (hnames h).1⟩, hrest, fun h => (hnames h).2⟩

abbrev NodeFits : Kind → List (Part × Value) → Prop :=
  NodeShape fun slot v => fits slot v = true

theorem fits_node {kinds : List Kind} {optional : Bool} {kind : Kind}
    {parts : List (Part × Value)} :
    fits (.node kinds optional) (node kind parts) = true ↔ kind ∈ kinds ∧ NodeFits kind parts := by
  rw [fits, Bool.and_eq_true, Bool.and_eq_true, List.contains_iff_mem, beq_iff_eq, partsFit_iff,
    and_assoc]
  exact and_congr_right fun _ => ⟨fun h => ⟨h.1, h.2.1, h.2.2⟩, fun h => ⟨h.1, h.2, h.3⟩⟩

/-- What holds of everything that may be left out, of a list if it holds of its items, and of a node
if it holds of its children, holds of every value that fits its slot. -/
theorem fits_induct {motive : Slot → Value → Prop}
    (noNode : ∀ kinds, motive (.node kinds true) absent)
    (noList : ∀ kinds, motive (.list kinds true) absent)
    (list : ∀ kinds optional items, (∀ v ∈ items, motive (.node kinds false) v) →
      motive (.list kinds optional) (list items))
    (node : ∀ kinds optional kind parts, kind ∈ kinds → NodeFits kind parts →
      NodeShape motive kind parts → motive (.node kinds optional) (node kind parts)) :
    ∀ (slot : Slot) (v : Value), fits slot v = true → motive slot v
  | .node kinds optional, .absent, h => by
    obtain rfl : optional = true := h
    exact noNode kinds
  | .list kinds optional, .absent, h => by
    obtain rfl : optional = true := h
    exact noList kinds
  | .list kinds optional, .list items, h => by
    refine list kinds optional items fun v hv => ?_
    exact fits_induct noNode noList list node (.node kinds false) v (itemsFit_iff.mp h v hv)
  | .node kinds optional, .node kind parts, h => by
    obtain ⟨hkind, hnode⟩ := fits_node.mp h
    refine node kinds optional kind parts hkind hnode ⟨hnode.keys, fun e he hp => ?_, hnode.named⟩
    exact fits_induct noNode noList list node (kind.slot e.1) e.2 (hnode.children e he hp)
termination_by _ v => sizeOf v
decreasing_by
  · have hsize := List.sizeOf_lt_of_mem hv
    simp only [Value.list.sizeOf_spec]
    omega
  · have hsize := List.sizeOf_lt_of_mem he
    have hpair : sizeOf e = 1 + sizeOf e.1 + sizeOf e.2 := rfl
    simp only [Value.node.sizeOf_spec]
    omega

theorem exists_node_of_fits {kind : Kind} {v : Value} (h : v.fits (.node [kind] false) = true) :
    ∃ parts, v = node kind parts ∧ NodeFits kind parts := by
  cases v with
  | node kind' parts =>
    obtain ⟨hkind, hnode⟩ := fits_node.mp h
    obtain rfl := List.mem_singleton.mp hkind
    exact ⟨parts, rfl, hnode⟩
  | _ => contradiction

theorem exists_items_of_fits {kinds : List Kind} {v : Value}
    (h : v.fits (.list kinds false) = true) :
    ∃ vs, v = list vs ∧ ∀ x ∈ vs, x.fits (.node kinds false) = true := by
  cases v with
  | list vs => exact ⟨vs, rfl, itemsFit_iff.mp h⟩
  | _ => contradiction

theorem exists_name_of_fits {v : Value} (h : v.fits (.node [.name] false) = true) :
    ∃ s, v = node .name [(.value, text s)] := by
  obtain ⟨parts, rfl, hnode⟩ := exists_node_of_fits h
  obtain ⟨s, hs⟩ := hnode.exists_nameText
  have hparts := hnode.eq_singleton (p := .value) rfl
  rw [hs] at hparts
  exact ⟨s, by rw [hparts]⟩

/-- Whether this is the tree of a document, where a type may be missing. -/
def isDocument (v : Value) : Bool :=
  v.fits (.node [.document] false)

theorem exists_definitions {document : Value} (h : document.isDocument = true) :
    ∃ definitions, document = node .document [(.definitions, list definitions)] ∧
      ∀ x ∈ definitions, x.fits (.node Kind.definitions false) = true := by
  obtain ⟨parts, rfl, hnode⟩ := exists_node_of_fits h
  obtain ⟨definitions, hpart, hdefinitions⟩ :=
    exists_items_of_fits (hnode.child (p := .definitions) (by decide))
  have hparts := hnode.eq_singleton (p := .definitions) rfl
  rw [hpart] at hparts
  exact ⟨definitions, by rw [hparts], hdefinitions⟩

end Value

namespace Fold

/-- What a slot holds once the tree is folded. -/
inductive Folded : Slot → Value → Prop where
  | noNode (kinds : List Kind) : Folded (.node kinds true) .absent
  | noList (kinds : List Kind) : Folded (.list kinds true) .absent
  | list {kinds : List Kind} {optional : Bool} {ws : List Value}
      (h : ∀ w ∈ ws, Folded (.node kinds false) w) : Folded (.list kinds optional) (.list ws)
  | text {kinds : List Kind} {optional : Bool} {k : Kind} (hk : k ∈ kinds)
      (ht : k ∈ Kind.textual ++ Kind.declared) (s : String) :
      Folded (.node kinds optional) (.text s)
  | type {kinds : List Kind} {optional : Bool} (hk : .nonNullType ∈ kinds) (s : String) :
      Folded (.node kinds optional) (.type ⟨s, true⟩)
  | suppressed {kinds : List Kind} {optional : Bool} {k : Kind} (hk : k ∈ kinds)
      (hd : k ∈ Kind.declared) : Folded (.node kinds optional) .suppressed
  | entries {kinds : List Kind} {optional : Bool} (hk : .document ∈ kinds) (es : List Value) :
      Folded (.node kinds optional) (.entries es)
  | kept {kinds : List Kind} {optional : Bool} {k : Kind} {folded : List (Part × Value)}
      (hk : k ∈ kinds) (hr : k ∉ Rules.ruled) (keys : folded.map Prod.fst = k.parts)
      (children : ∀ e ∈ folded, e.1 ∈ k.children → Folded (k.slot e.1) e.2) :
      Folded (.node kinds optional) (.node k folded)

theorem Kind.of_textual {k : Kind} (h : k ∈ Kind.textual ∨ k = .nonNullType) :
    k ∈ Rules.ruled ∧ k ∉ Kind.declared ∧ k ≠ .document := by
  simp only [Kind.textual, List.mem_cons, List.not_mem_nil, or_false, or_assoc] at h
  rcases h with rfl | rfl | rfl | rfl | rfl | rfl <;> decide

namespace Folded

variable {kinds : List Kind} {optional : Bool} {w : Value}

theorem text_or_type (hkinds : ∀ k ∈ kinds, k ∈ Kind.textual ∨ k = .nonNullType)
    (h : Folded (.node kinds false) w) :
    (∃ s, w = .text s) ∨ .nonNullType ∈ kinds ∧ ∃ s, w = .type ⟨s, true⟩ := by
  cases h with
  | text hk ht s => exact .inl ⟨s, rfl⟩
  | type hk s => exact .inr ⟨hk, s, rfl⟩
  | suppressed hk hd => exact absurd hd (Kind.of_textual (hkinds _ hk)).2.1
  | entries hk es => exact absurd rfl (Kind.of_textual (hkinds _ hk)).2.2
  | kept hk hr keys children => exact absurd (Kind.of_textual (hkinds _ hk)).1 hr

theorem exists_text {k : Kind} (hk : k ∈ Kind.textual) (h : Folded (.node [k] false) w) :
    ∃ s, w = .text s := by
  have hkinds : ∀ k' ∈ [k], k' ∈ Kind.textual ∨ k' = .nonNullType := by simp [hk]
  rcases h.text_or_type hkinds with htext | ⟨hrequired, -⟩
  · exact htext
  · rw [← List.mem_singleton.mp hrequired] at hk
    exact absurd hk (by decide)

theorem exists_type (h : Folded (.node Kind.types false) w) : ∃ t, w.asType? = some t := by
  have hkinds : ∀ k ∈ Kind.types, k ∈ Kind.textual ∨ k = .nonNullType := by
    simp [Kind.types, Kind.textual]
  rcases h.text_or_type hkinds with ⟨s, rfl⟩ | ⟨-, s, rfl⟩
  · exact ⟨_, rfl⟩
  · exact ⟨_, rfl⟩

theorem exists_items (h : Folded (.list kinds optional) w) :
    ∃ ws, itemsOrNone w = .ok ws ∧ ∀ v ∈ ws, Folded (.node kinds false) v := by
  cases h with
  | noList => exact ⟨[], rfl, by simp⟩
  | list hws => exact ⟨_, Rules.itemsOrNone_list _, hws⟩

theorem exists_texts {k : Kind} (hk : k ∈ Kind.textual) (h : Folded (.list [k] optional) w) :
    ∃ texts : List String, itemsOrNone w = .ok (texts.map .text) := by
  obtain ⟨ws, hitems, hws⟩ := h.exists_items
  have htexts : ∃ texts : List String, ws = texts.map .text := by
    clear hitems
    induction ws with
    | nil => exact ⟨[], rfl⟩
    | cons v ws ih =>
      obtain ⟨s, rfl⟩ := (hws v (by simp)).exists_text hk
      obtain ⟨texts, rfl⟩ := ih fun v hv => hws v (by simp [hv])
      exact ⟨s :: texts, rfl⟩
  obtain ⟨texts, rfl⟩ := htexts
  exact ⟨texts, hitems⟩

theorem exists_valueName (h : Folded (.node [.enumValueDefinition] false) w) :
    ∃ s, partOf .name w = .ok (.text s) := by
  cases h with
  | kept hk hr keys children =>
    obtain rfl := List.mem_singleton.mp hk
    have hnode : NodeShape Folded .enumValueDefinition _ := ⟨keys, children, by simp⟩
    have hname := hnode.partOf_eq (p := .name) (by decide)
    obtain ⟨s, hs⟩ := exists_text (by decide) (hnode.child (p := .name) (by decide))
    exact ⟨s, hs ▸ hname⟩
  | text hk ht s =>
    rw [List.mem_singleton.mp hk] at ht
    exact absurd ht (by decide)
  | type hk => exact absurd hk (by decide)
  | suppressed hk hd =>
    rw [List.mem_singleton.mp hk] at hd
    exact absurd hd (by decide)
  | entries hk => exact absurd hk (by decide)

theorem exists_valueNames (h : Folded (.list [.enumValueDefinition] optional) w) :
    ∃ ws, ∃ names : List String, itemsOrNone w = .ok ws ∧
      ws.mapM (partOf .name) = .ok (names.map .text) := by
  obtain ⟨ws, hitems, hws⟩ := h.exists_items
  refine ⟨ws, ?_⟩
  have hnames : ∃ names : List String, ws.mapM (partOf .name) = .ok (names.map .text) := by
    clear hitems
    induction ws with
    | nil => exact ⟨[], rfl⟩
    | cons v ws ih =>
      obtain ⟨s, hs⟩ := (hws v (by simp)).exists_valueName
      obtain ⟨names, hnames⟩ := ih fun v hv => hws v (by simp [hv])
      exact ⟨s :: names, by simp [hs, hnames]⟩
  obtain ⟨names, hnames⟩ := hnames
  exact ⟨names, hitems, hnames⟩

end Folded

abbrev FoldedNode : Kind → List (Part × Value) → Prop :=
  NodeShape Folded

namespace Rules

variable {r : Rules} {kind : Kind} {parts folded : List (Part × Value)} {left : Value}

theorem fieldLine_eq_ok {name type w : Value} (h : r.fieldLine name type = .ok w) :
    ∃ s, w = .text s := by
  unfold fieldLine at h
  split at h
  · cases h
    exact ⟨_, rfl⟩
  · contradiction

theorem exists_text_of_leave (h : FoldedNode kind folded) (hkind : kind ∈ Kind.textual)
    (hl : (r.leave kind (.node kind folded)).result = .ok left) : ∃ s, left = .text s := by
  simp only [Kind.textual, List.mem_cons, List.not_mem_nil, or_false] at hkind
  -- In the order of `Kind.textual`: names, named types, lists, fields and arguments.
  rcases hkind with rfl | rfl | rfl | rfl | rfl
  · obtain ⟨s, hs⟩ := h.exists_nameText
    have hpart := h.partOf_eq (p := .value) (by decide)
    simp only [leave, Traced.result_ofExcept, hpart, hs, Except.ok.injEq] at hl
    exact ⟨s, hl.symm⟩
  · obtain ⟨s, hs⟩ := Folded.exists_text (by decide) (h.child (p := .name) (by decide))
    have hpart := h.partOf_eq (p := .name) (by decide)
    simp only [leave, Traced.result_ofExcept, hpart, hs, ok_bind, key, Value.isKey, if_true,
      pure_eq_ok, Except.ok.injEq] at hl
    exact ⟨_, hl.symm⟩
  · obtain ⟨s, -, hl⟩ := bind_eq_ok.mp hl
    cases hl
    exact ⟨_, rfl⟩
  · obtain ⟨type, -, hl⟩ := bind_eq_ok.mp hl
    obtain ⟨name, -, hl⟩ := bind_eq_ok.mp hl
    exact fieldLine_eq_ok hl
  · obtain ⟨type, -, hl⟩ := bind_eq_ok.mp hl
    obtain ⟨name, -, hl⟩ := bind_eq_ok.mp hl
    exact fieldLine_eq_ok hl

theorem suppressed_or_text_of_leave {node : Value} (hkind : kind ∈ Kind.declared)
    (hl : (r.leave kind node).result = .ok left) : left = .suppressed ∨ ∃ s, left = .text s := by
  simp only [Kind.declared, List.mem_cons, List.not_mem_nil, or_false] at hkind
  rcases hkind with rfl | rfl | rfl | rfl | rfl | rfl
  · simp only [leave, Traced.result_bind, Traced.result_ofExcept] at hl
    obtain ⟨name, -, hl⟩ := bind_eq_ok.mp hl
    exact scalarAlias_eq_ok hl
  · obtain ⟨name, -, hl⟩ := bind_eq_ok.mp hl
    obtain ⟨values, -, hl⟩ := bind_eq_ok.mp hl
    exact .inr (enumAlias_eq_ok hl)
  · obtain ⟨name, -, hl⟩ := bind_eq_ok.mp hl
    obtain ⟨types, -, hl⟩ := bind_eq_ok.mp hl
    exact .inr (unionAlias_eq_ok hl)
  · simp only [leave, Traced.result_bind, Traced.result_ofExcept] at hl
    obtain ⟨name, -, hl⟩ := bind_eq_ok.mp hl
    exact (objectInterface_cases hl).imp And.right And.right
  · exact .inr (plainInterface_eq_ok hl)
  · exact .inr (plainInterface_eq_ok hl)

theorem leave_of_unruled (hkind : kind ∉ ruled) (node : Value) :
    (r.leave kind node).result = .ok .absent := by
  cases kind with
  | name | namedType | nonNullType | listType | fieldDefinition | inputValueDefinition
  | scalarTypeDefinition | enumTypeDefinition | unionTypeDefinition | objectTypeDefinition
  | interfaceTypeDefinition | inputObjectTypeDefinition | document => exact absurd (by decide) hkind
  | _ => rfl

theorem ruled_cases (hkind : kind ∈ ruled) :
    kind ∈ Kind.textual ∨ kind = .nonNullType ∨ kind ∈ Kind.declared ∨ kind = .document := by
  simp only [ruled, List.mem_cons, List.not_mem_nil, or_false] at hkind
  rcases hkind with rfl | rfl | rfl | rfl | rfl | rfl | rfl | rfl | rfl | rfl | rfl | rfl | rfl <;>
    decide

theorem folded_of_leave (h : FoldedNode kind folded) (hruled : kind ∈ ruled)
    (hl : (r.leave kind (.node kind folded)).result = .ok left) :
    putInPlace left = true ∧
      ∀ kinds optional, kind ∈ kinds → Folded (.node kinds optional) left := by
  rcases ruled_cases hruled with hkind | rfl | hkind | rfl
  · obtain ⟨s, rfl⟩ := exists_text_of_leave h hkind hl
    exact ⟨rfl, fun _ _ hk => .text hk (List.mem_append_left _ hkind) s⟩
  · obtain ⟨s, -, hl⟩ := bind_eq_ok.mp hl
    cases hl
    exact ⟨rfl, fun _ _ hk => .type hk s⟩
  · rcases suppressed_or_text_of_leave hkind hl with rfl | ⟨s, rfl⟩
    · exact ⟨rfl, fun _ _ hk => .suppressed hk hkind⟩
    · exact ⟨rfl, fun _ _ hk => .text hk (List.mem_append_right _ hkind) s⟩
  · obtain ⟨definitions, -, hl⟩ := bind_eq_ok.mp hl
    obtain ⟨entries, -, hl⟩ := bind_eq_ok.mp hl
    cases hl
    exact ⟨rfl, fun _ _ hk => .entries hk entries⟩

theorem keys_of_folded (h : List.Forall₂ (r.FoldsPart kind) parts folded) :
    folded.map Prod.fst = parts.map Prod.fst := by
  induction h with
  | nil => rfl
  | cons he _ ih => rw [List.map_cons, List.map_cons, he.1, ih]

theorem foldedNode_of_parts (hnode : Value.NodeFits kind parts)
    (hchildren : NodeShape (fun slot v => ∀ w, r.Folds v w → Folded slot w) kind parts)
    (h : List.Forall₂ (r.FoldsPart kind) parts folded) : FoldedNode kind folded where
  keys := (keys_of_folded h).trans hnode.keys
  children := by
    intro e' he' hp
    obtain ⟨e, he, hkey, hfolds⟩ := exists_mem_of_forall₂ h he'
    rw [hkey] at hp ⊢
    rw [if_pos (List.contains_iff_mem.mpr hp)] at hfolds
    exact hchildren.children e he hp e'.2 hfolds
  named := by
    rintro rfl e' he'
    obtain ⟨e, he, -, hsame⟩ := exists_mem_of_forall₂ h he'
    have hattribute : Kind.name.children.contains e.1 = false := rfl
    rw [hattribute, if_neg Bool.false_ne_true] at hsame
    rw [hsame]
    exact hnode.named rfl e he

/-- A node for which there is no rule stays, with its children folded. For any other, what its rule
yields is put in its place. -/
theorem Folds.node_cases {w : Value} (h : r.Folds (.node kind parts) w)
    (hfolded : ∀ folded, List.Forall₂ (r.FoldsPart kind) parts folded → FoldedNode kind folded) :
    ∃ folded, List.Forall₂ (r.FoldsPart kind) parts folded ∧
      (kind ∉ ruled ∧ w = .node kind folded ∨
        kind ∈ ruled ∧ (r.leave kind (.node kind folded)).result = .ok w) := by
  obtain ⟨folded, left, hparts, hleft, hw⟩ := h.exists_parts
  refine ⟨folded, hparts, ?_⟩
  by_cases hruled : kind ∈ ruled
  · -- What a rule yields is never a flag, so it takes the node's place.
    have hplace := (folded_of_leave (hfolded folded hparts) hruled hleft).1
    have hw' : w = left := by
      rcases hw with ⟨rfl, -⟩ | ⟨rfl, -⟩ | ⟨-, hw⟩
      · contradiction
      · contradiction
      · exact hw
    exact .inr ⟨hruled, hw' ▸ hleft⟩
  · rw [leave_of_unruled hruled] at hleft
    cases hleft
    simp only [putInPlace, true_and, reduceCtorEq, false_and, Bool.false_eq_true, or_false] at hw
    exact .inl ⟨hruled, hw⟩

/-- What comes of a value that fits its slot belongs in that slot. -/
theorem folded_of_folds {slot : Slot} {v w : Value} (hv : v.fits slot = true) (h : r.Folds v w) :
    Folded slot w := by
  refine Value.fits_induct (motive := fun slot v => ∀ w, r.Folds v w → Folded slot w)
    ?_ ?_ ?_ ?_ slot v hv w h
  · intro kinds w h
    rw [h.unique (.absent r)]
    exact .noNode kinds
  · intro kinds w h
    rw [h.unique (.absent r)]
    exact .noList kinds
  · intro kinds optional items ih w h
    obtain ⟨ws, rfl, hws⟩ := h.exists_list
    refine .list fun w hw => ?_
    obtain ⟨v, hv, hfolds⟩ := exists_mem_of_forall₂ hws hw
    exact ih v hv w hfolds
  · intro kinds optional kind parts hkind hnode ih w h
    have hfolded : ∀ folded, List.Forall₂ (r.FoldsPart kind) parts folded →
        FoldedNode kind folded := fun _ => foldedNode_of_parts hnode ih
    obtain ⟨folded, hparts, ⟨hruled, rfl⟩ | ⟨hruled, hleft⟩⟩ := h.node_cases hfolded
    · exact .kept hkind hruled (hfolded folded hparts).keys (hfolded folded hparts).children
    · exact (folded_of_leave (hfolded folded hparts) hruled hleft).2 kinds optional hkind

theorem foldedNode_of_fits (hnode : Value.NodeFits kind parts)
    (h : List.Forall₂ (r.FoldsPart kind) parts folded) : FoldedNode kind folded :=
  foldedNode_of_parts hnode
    ⟨hnode.keys, fun e he hp _ => folded_of_folds (hnode.children e he hp), hnode.named⟩ h

theorem folds_part (h : List.Forall₂ (r.FoldsPart kind) parts folded) {p : Part}
    (hp : p ∈ kind.children) : r.Folds (Value.part p parts) (Value.part p folded) := by
  induction h with
  | nil => exact .absent r
  | @cons e e' parts folded he _ ih =>
    by_cases hkey : e.1 = p
    · obtain ⟨hsame, hfolds⟩ := he
      rw [if_pos (List.contains_iff_mem.mpr (hkey ▸ hp))] at hfolds
      simpa [Value.part, hkey, hsame] using hfolds
    · simpa [Value.part, hkey, he.1] using ih

theorem attribute_of_folded (h : List.Forall₂ (r.FoldsPart kind) parts folded) {p : Part}
    (hp : p ∉ kind.children) : Value.part p folded = Value.part p parts := by
  induction h with
  | nil => rfl
  | @cons e e' parts folded he _ ih =>
    obtain ⟨hkey, hsame⟩ := he
    by_cases hfound : e.1 = p
    · rw [if_neg (by simpa [hfound] using hp)] at hsame
      simp [Value.part, hfound, hkey, hsame]
    · simpa [Value.part, hfound, hkey] using ih

theorem Folds.exists_entries {document w : Value} (hdocument : document.isDocument = true)
    (h : r.Folds document w) :
    ∃ definitions entries, document = .node .document [(.definitions, .list definitions)] ∧
      (∀ x ∈ definitions, x.fits (.node Kind.definitions false) = true) ∧
      w = .entries entries ∧ List.Forall₂ r.Folds definitions entries := by
  obtain ⟨definitions, rfl, hdefinitions⟩ := Value.exists_definitions hdocument
  obtain ⟨folded, left, hfolded, hleft, hw⟩ := h.exists_parts
  obtain ⟨e, rest, he, hrest, rfl⟩ := List.forall₂_cons_left_iff.mp hfolded
  obtain rfl := List.forall₂_nil_left_iff.mp hrest
  obtain ⟨p, folded⟩ := e
  obtain ⟨rfl, hlist⟩ := he
  obtain ⟨entries, rfl, hentries⟩ := Folds.exists_list hlist
  cases hleft
  refine ⟨definitions, entries, rfl, hdefinitions, ?_, hentries⟩
  simpa [putInPlace] using hw

end Rules

end Fold
end SchemaFold
