import Mathlib.Data.List.Forall2
import SchemaFold.Fold
import SchemaFold.Proofs.Outcome

/-! Trees that fold without a fault and without a rule that ends the visit. What such a tree folds
into is put together from what its parts fold into, and in no other way. -/

namespace SchemaFold.Fold

/-- Whether a rule that yields this value puts it in the node's place. -/
def putInPlace : Value → Bool
  | .absent | .flag _ => false
  | _ => true

namespace Rules

section

variable (r : Rules) (latest : Option Value)

theorem visit_absent : r.visit latest .absent = pure ⟨.absent, false⟩ := rfl

theorem visit_list (items : List Value) :
    r.visit latest (.list items) = do
      let items ← r.visitList none items
      return ⟨.list items.value, items.changed⟩ := rfl

theorem visit_node (kind : Kind) (parts : List (Part × Value)) :
    r.visit latest (.node kind parts) = do
      let visited ← r.visitParts kind none parts
      let folded : Value := .node kind visited.value
      match ← (r.leave kind folded).mapError .fault with
      | .absent => return ⟨folded, visited.changed⟩
      | .flag false => return ⟨.node kind parts, false⟩
      | .flag true => .fail (.halt latest)
      | v => return ⟨v, true⟩ := rfl

theorem visitList_nil : r.visitList latest [] = pure ⟨[], false⟩ := rfl

theorem visitList_cons (v : Value) (vs : List Value) :
    r.visitList latest (v :: vs) = do
      let first ← r.visit latest v
      let rest ← r.visitList (first.latest latest) vs
      return ⟨first.value :: rest.value, first.changed || rest.changed⟩ := rfl

theorem visitParts_nil (kind : Kind) : r.visitParts kind latest [] = pure ⟨[], false⟩ := rfl

theorem visitParts_cons (kind : Kind) (p : Part) (v : Value) (rest : List (Part × Value)) :
    r.visitParts kind latest ((p, v) :: rest) = do
      let first ← if kind.children.contains p then r.visit latest v else pure ⟨v, false⟩
      let rest ← r.visitParts kind (first.latest latest) rest
      return ⟨(p, first.value) :: rest.value, first.changed || rest.changed⟩ := rfl

end

/-- Wherever `v` is visited, `w` comes of it. -/
def Folds (r : Rules) (v w : Value) : Prop :=
  ∀ latest, ∃ changed, (r.visit latest v).result = .ok ⟨w, changed⟩

def FoldsAll (r : Rules) (vs ws : List Value) : Prop :=
  ∀ latest, ∃ changed, (r.visitList latest vs).result = .ok ⟨ws, changed⟩

def FoldsParts (r : Rules) (kind : Kind) (parts folded : List (Part × Value)) : Prop :=
  ∀ latest, ∃ changed, (r.visitParts kind latest parts).result = .ok ⟨folded, changed⟩

theorem FoldsAll.nil (r : Rules) : r.FoldsAll [] [] := by
  intro latest
  exact ⟨false, by simp [visitList_nil]⟩

theorem FoldsAll.cons {r : Rules} {v w : Value} {vs ws : List Value} (h : r.Folds v w)
    (hs : r.FoldsAll vs ws) : r.FoldsAll (v :: vs) (w :: ws) := by
  intro latest
  obtain ⟨changed, hv⟩ := h latest
  obtain ⟨changed', hvs⟩ := hs (Visited.latest latest ⟨w, changed⟩)
  exact ⟨changed || changed', by simp [visitList_cons, hv, hvs]⟩

theorem FoldsAll.map {α : Type} {r : Rules} {f g : α → Value} {as : List α}
    (h : ∀ a ∈ as, r.Folds (f a) (g a)) : r.FoldsAll (as.map f) (as.map g) := by
  induction as with
  | nil => exact .nil r
  | cons a as ih => exact .cons (h a (by simp)) (ih fun b hb => h b (by simp [hb]))

theorem FoldsParts.nil (r : Rules) (kind : Kind) : r.FoldsParts kind [] [] := by
  intro latest
  exact ⟨false, by simp [visitParts_nil]⟩

theorem FoldsParts.child {r : Rules} {kind : Kind} {p : Part} {v w : Value}
    {parts folded : List (Part × Value)} (hp : kind.children.contains p = true)
    (h : r.Folds v w) (hs : r.FoldsParts kind parts folded) :
    r.FoldsParts kind ((p, v) :: parts) ((p, w) :: folded) := by
  intro latest
  obtain ⟨changed, hv⟩ := h latest
  obtain ⟨changed', hparts⟩ := hs (Visited.latest latest ⟨w, changed⟩)
  exact ⟨changed || changed', by simp only [visitParts_cons, hp]; simp [hv, hparts]⟩

/-- What is no child is not visited. -/
theorem FoldsParts.attribute {r : Rules} {kind : Kind} {p : Part} {v : Value}
    {parts folded : List (Part × Value)} (hp : kind.children.contains p = false)
    (hs : r.FoldsParts kind parts folded) :
    r.FoldsParts kind ((p, v) :: parts) ((p, v) :: folded) := by
  intro latest
  obtain ⟨changed, hparts⟩ := hs (Visited.latest latest ⟨v, false⟩)
  exact ⟨changed, by simp only [visitParts_cons, hp]; simp [hparts]⟩

theorem Folds.absent (r : Rules) : r.Folds .absent .absent := by
  intro latest
  exact ⟨false, by simp [visit_absent]⟩

theorem Folds.list {r : Rules} {vs ws : List Value} (h : r.FoldsAll vs ws) :
    r.Folds (.list vs) (.list ws) := by
  intro latest
  obtain ⟨changed, hvs⟩ := h none
  exact ⟨changed, by simp [visit_list, hvs]⟩

theorem Folds.map {α : Type} {r : Rules} {f g : α → Value} {as : List α}
    (h : ∀ a ∈ as, r.Folds (f a) (g a)) : r.Folds (.list (as.map f)) (.list (as.map g)) :=
  .list (.map h)

/-- A part that may be left out. -/
theorem Folds.option {α : Type} {r : Rules} {f g : α → Value} {a : Option α}
    (h : ∀ b ∈ a, r.Folds (f b) (g b)) :
    r.Folds (Value.ofOption f a) (Value.ofOption g a) := by
  cases a with
  | none => exact .absent r
  | some b => exact h b rfl

/-- A node for which there is no rule stays, with its children folded. -/
theorem Folds.kept {r : Rules} {kind : Kind} {parts folded : List (Part × Value)}
    (hs : r.FoldsParts kind parts folded)
    (hl : (r.leave kind (.node kind folded)).result = .ok .absent) :
    r.Folds (.node kind parts) (.node kind folded) := by
  intro latest
  obtain ⟨changed, hparts⟩ := hs none
  exact ⟨changed, by simp [visit_node, hparts, hl]⟩

theorem Folds.replaced {r : Rules} {kind : Kind} {parts folded : List (Part × Value)} {v : Value}
    (hs : r.FoldsParts kind parts folded)
    (hl : (r.leave kind (.node kind folded)).result = .ok v) (hv : putInPlace v = true) :
    r.Folds (.node kind parts) v := by
  intro latest
  obtain ⟨changed, hparts⟩ := hs none
  refine ⟨true, ?_⟩
  cases v <;> simp_all [visit_node, putInPlace]

theorem Folds.fold_result {r : Rules} {v w : Value} (h : r.Folds v w) :
    (r.fold v).result = .ok w := by
  obtain ⟨changed, hv⟩ := h none
  simp [fold, hv]

/-- Where a value is visited matters only if a rule ends the visit. -/
theorem Folds.of_visit {r : Rules} {latest : Option Value} {v : Value} {x : Visited Value}
    (h : (r.visit latest v).result = .ok x) : r.Folds v x.value := by
  intro latest'
  refine ⟨x.changed, ?_⟩
  cases v with
  | node kind parts =>
    simp only [visit_node, Traced.result_bind, Traced.result_mapError] at h ⊢
    obtain ⟨visited, hvisited, h⟩ := bind_eq_ok.mp h
    obtain ⟨left, hleft, h⟩ := bind_eq_ok.mp h
    rw [hvisited, ok_bind, hleft, ok_bind]
    cases left with
    | flag b =>
      cases b with
      | false => exact h
      | true => simp at h
    | _ => exact h
  | _ => exact h

theorem Folds.unique {r : Rules} {v w w' : Value} (h : r.Folds v w) (h' : r.Folds v w') :
    w = w' := by
  obtain ⟨changed, hw⟩ := h none
  obtain ⟨changed', hw'⟩ := h' none
  have hvisited := Except.ok.inj (hw.symm.trans hw')
  exact congrArg Visited.value hvisited

/-- What belongs together of a node's part and what has become of it. -/
def FoldsPart (r : Rules) (kind : Kind) (e e' : Part × Value) : Prop :=
  e'.1 = e.1 ∧ if kind.children.contains e.1 then r.Folds e.2 e'.2 else e'.2 = e.2

theorem forall₂_of_visitList {r : Rules} {latest : Option Value} {vs : List Value}
    {x : Visited (List Value)} (h : (r.visitList latest vs).result = .ok x) :
    List.Forall₂ r.Folds vs x.value := by
  induction vs generalizing latest x with
  | nil =>
    cases h
    exact .nil
  | cons v vs ih =>
    simp only [visitList_cons, Traced.result_bind, Traced.result_pure] at h
    obtain ⟨first, hfirst, h⟩ := bind_eq_ok.mp h
    obtain ⟨rest, hrest, h⟩ := bind_eq_ok.mp h
    cases h
    exact .cons (.of_visit hfirst) (ih hrest)

theorem forall₂_of_visitParts {r : Rules} {kind : Kind} {latest : Option Value}
    {parts : List (Part × Value)} {x : Visited (List (Part × Value))}
    (h : (r.visitParts kind latest parts).result = .ok x) :
    List.Forall₂ (r.FoldsPart kind) parts x.value := by
  induction parts generalizing latest x with
  | nil =>
    cases h
    exact .nil
  | cons e parts ih =>
    obtain ⟨p, v⟩ := e
    cases hp : kind.children.contains p with
    | true =>
      simp only [visitParts_cons, hp, if_true, Traced.result_bind, Traced.result_pure] at h
      obtain ⟨first, hfirst, h⟩ := bind_eq_ok.mp h
      obtain ⟨rest, hrest, h⟩ := bind_eq_ok.mp h
      cases h
      exact .cons ⟨rfl, by rw [if_pos hp]; exact .of_visit hfirst⟩ (ih hrest)
    | false =>
      simp only [visitParts_cons, hp, Bool.false_eq_true, if_false, Traced.result_bind,
        Traced.result_pure, ok_bind] at h
      obtain ⟨rest, hrest, h⟩ := bind_eq_ok.mp h
      cases h
      exact .cons ⟨rfl, by rw [hp]; rfl⟩ (ih hrest)

theorem Folds.exists_list {r : Rules} {vs : List Value} {w : Value} (h : r.Folds (.list vs) w) :
    ∃ ws, w = .list ws ∧ List.Forall₂ r.Folds vs ws := by
  obtain ⟨changed, hvisit⟩ := h none
  simp only [visit_list, Traced.result_bind, Traced.result_pure] at hvisit
  obtain ⟨items, hitems, hvisit⟩ := bind_eq_ok.mp hvisit
  cases hvisit
  exact ⟨_, rfl, forall₂_of_visitList hitems⟩

/-- A node is replaced by what its rule puts in its place, or stays with its children folded, or
stays as it was. -/
theorem Folds.exists_parts {r : Rules} {kind : Kind} {parts : List (Part × Value)} {w : Value}
    (h : r.Folds (.node kind parts) w) :
    ∃ folded left, List.Forall₂ (r.FoldsPart kind) parts folded ∧
      (r.leave kind (.node kind folded)).result = .ok left ∧
      (left = .absent ∧ w = .node kind folded ∨ left = .flag false ∧ w = .node kind parts ∨
        putInPlace left = true ∧ w = left) := by
  obtain ⟨changed, hvisit⟩ := h none
  simp only [visit_node, Traced.result_bind, Traced.result_mapError] at hvisit
  obtain ⟨visited, hvisited, hvisit⟩ := bind_eq_ok.mp hvisit
  obtain ⟨left, hleft, hvisit⟩ := bind_eq_ok.mp hvisit
  refine ⟨visited.value, left, forall₂_of_visitParts hvisited, mapError_eq_ok.mp hleft, ?_⟩
  cases left with
  | absent =>
    cases hvisit
    exact .inl ⟨rfl, rfl⟩
  | flag b =>
    cases b with
    | false =>
      cases hvisit
      exact .inr (.inl ⟨rfl, rfl⟩)
    | true => contradiction
  | _ =>
    cases hvisit
    exact .inr (.inr ⟨rfl, rfl⟩)

theorem fill_eq_ok {t : Template} {scope : List (String × Value)} {w : Value}
    (h : fill t scope = .ok w) : ∃ text, w = .text text := by
  unfold fill at h
  split at h
  · cases h
    exact ⟨_, rfl⟩
  · contradiction

theorem objectInterface_cases {r : Rules} {node name w : Value}
    (h : (r.objectInterface node name).result = .ok w) :
    (isRoot r.roots name = true ∧ w = .suppressed) ∨
      (isRoot r.roots name = false ∧ ∃ text, w = .text text) := by
  unfold objectInterface at h
  split at h
  · rename_i hroot
    exact .inl ⟨hroot, (Except.ok.inj h).symm⟩
  · rename_i hroot
    obtain ⟨fields, -, h⟩ := bind_eq_ok.mp h
    obtain ⟨interfaces, -, h⟩ := bind_eq_ok.mp h
    obtain ⟨extended, -, h⟩ := bind_eq_ok.mp h
    obtain ⟨lines, -, h⟩ := bind_eq_ok.mp h
    exact .inr ⟨by simpa using hroot, fill_eq_ok h⟩

theorem scalarAlias_eq_ok {r : Rules} {name w : Value} (h : (r.scalarAlias name).result = .ok w) :
    w = .suppressed ∨ ∃ text, w = .text text := by
  unfold scalarAlias at h
  split at h
  · exact .inl (Except.ok.inj h).symm
  · exact .inr (fill_eq_ok h)

theorem enumAlias_eq_ok {r : Rules} {name values w : Value} (h : r.enumAlias name values = .ok w) :
    ∃ text, w = .text text := by
  obtain ⟨items, -, h⟩ := bind_eq_ok.mp h
  obtain ⟨names, -, h⟩ := bind_eq_ok.mp h
  exact fill_eq_ok h

theorem unionAlias_eq_ok {r : Rules} {name types w : Value} (h : r.unionAlias name types = .ok w) :
    ∃ text, w = .text text := by
  obtain ⟨members, -, h⟩ := bind_eq_ok.mp h
  exact fill_eq_ok h

theorem plainInterface_eq_ok {r : Rules} {node w : Value} (h : r.plainInterface node = .ok w) :
    ∃ text, w = .text text := by
  obtain ⟨name, -, h⟩ := bind_eq_ok.mp h
  obtain ⟨fields, -, h⟩ := bind_eq_ok.mp h
  obtain ⟨lines, -, h⟩ := bind_eq_ok.mp h
  exact fill_eq_ok h

end Rules
end SchemaFold.Fold
