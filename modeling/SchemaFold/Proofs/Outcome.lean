import Mathlib.Data.List.Forall2
import SchemaFold.Log

/-! What a sequence of steps yields, in terms of what its steps yield, and what a step yields that
is taken for each element of a list. -/

namespace SchemaFold

@[simp]
theorem ok_bind {ε α β : Type} (a : α) (f : α → Except ε β) : (Except.ok a >>= f) = f a := rfl

@[simp]
theorem error_bind {ε α β : Type} (e : ε) (f : α → Except ε β) :
    (Except.error e >>= f) = .error e := rfl

@[simp]
theorem pure_eq_ok {ε α : Type} (a : α) : (pure a : Except ε α) = .ok a := rfl

theorem throw_eq_error {ε α : Type} (e : ε) : (throw e : Except ε α) = .error e := rfl

@[simp]
theorem map_ok {ε α β : Type} (f : α → β) (a : α) : (f <$> (.ok a : Except ε α)) = .ok (f a) := rfl

@[simp]
theorem mapError_ok {ε ε' α : Type} (f : ε → ε') (a : α) :
    (Except.ok a : Except ε α).mapError f = .ok a := rfl

@[simp]
theorem mapError_error {ε ε' α : Type} (f : ε → ε') (e : ε) :
    (Except.error e : Except ε α).mapError f = .error (f e) := rfl

theorem bind_eq_ok {ε α β : Type} {x : Except ε α} {f : α → Except ε β} {b : β} :
    (x >>= f) = .ok b ↔ ∃ a, x = .ok a ∧ f a = .ok b := by
  cases x <;> simp

theorem bind_pure_eq_error {α β ε : Type} {x : Except ε α} {f : α → β} {e : ε} :
    (x >>= fun a => pure (f a)) = .error e ↔ x = .error e := by
  cases x <;> simp

theorem mapError_eq_ok {ε ε' α : Type} {x : Except ε α} {f : ε → ε'} {a : α} :
    x.mapError f = .ok a ↔ x = .ok a := by
  cases x <;> simp

theorem map_eq_ok {ε α β : Type} {x : Except ε α} {f : α → β} {b : β} :
    (f <$> x) = .ok b ↔ ∃ a, x = .ok a ∧ f a = b := by
  cases x with
  | error e => simp [Functor.map, Except.map]
  | ok a => simp

@[simp]
theorem toOption_map {ε α β : Type} (x : Except ε α) (f : α → β) :
    (f <$> x).toOption = x.toOption.map f := by
  cases x <;> rfl

@[simp]
theorem toOption_bind {ε α β : Type} (x : Except ε α) (f : α → Except ε β) :
    (x >>= f).toOption = x.toOption.bind fun a => (f a).toOption := by
  cases x <;> rfl

theorem eq_ok_of_toOption {ε α : Type} {x : Except ε α} {a : α} (h : x.toOption = some a) :
    x = .ok a := by
  cases x with
  | error e => simp [Except.toOption] at h
  | ok b => simpa [Except.toOption] using h

theorem eq_ok_getD {ε α : Type} {x : Except ε α} (h : x.toOption.isSome) (default : α) :
    x = .ok (x.toOption.getD default) := by
  obtain ⟨a, ha⟩ := Option.isSome_iff_exists.mp h
  rw [ha, Option.getD_some]
  exact eq_ok_of_toOption ha

theorem exists_of_toOption_map {ε α β : Type} {x : Except ε α} {f : α → β} {b : β}
    (h : x.toOption.map f = some b) : ∃ a, x = .ok a ∧ f a = b := by
  obtain ⟨a, ha, hb⟩ := Option.map_eq_some_iff.mp h
  exact ⟨a, eq_ok_of_toOption ha, hb⟩

@[simp]
theorem Traced.result_mapError {ε ε' α : Type} (f : ε → ε') (x : Traced ε α) :
    (x.mapError f).result = x.result.mapError f := rfl

theorem Traced.pure_bind {ε α β : Type} (a : α) (f : α → Traced ε β) : (pure a >>= f) = f a := rfl

theorem exists_mem_of_forall₂ {α β : Type} {R : α → β → Prop} {as : List α} {bs : List β}
    (h : List.Forall₂ R as bs) {b : β} (hb : b ∈ bs) : ∃ a ∈ as, R a b := by
  induction h with
  | nil => contradiction
  | cons hfirst _ ih =>
    rcases List.mem_cons.mp hb with rfl | hb
    · exact ⟨_, List.mem_cons_self, hfirst⟩
    · obtain ⟨a, ha, hR⟩ := ih hb
      exact ⟨a, List.mem_cons_of_mem _ ha, hR⟩

theorem mapM_map_pure {m : Type → Type} [Monad m] [LawfulMonad m] {α β γ : Type} {f : β → m γ}
    {g : α → β} {h : α → γ} (hf : ∀ a, f (g a) = pure (h a)) (as : List α) :
    (as.map g).mapM f = pure (as.map h) := by
  induction as with
  | nil => rfl
  | cons a as ih => simp [hf, ih]

theorem mapM_eq_ok {α β ε : Type} {f : α → Except ε β} {as : List α} {bs : List β} :
    as.mapM f = .ok bs ↔ List.Forall₂ (fun a b => f a = .ok b) as bs := by
  induction as generalizing bs with
  | nil => cases bs <;> simp
  | cons a as ih => cases bs <;> simp [bind_eq_ok, ih]

theorem mapM_ok_of_forall {α β ε : Type} {f : α → Except ε β} {as : List α}
    (h : ∀ a ∈ as, ∃ b, f a = .ok b) : ∃ bs, as.mapM f = .ok bs := by
  induction as with
  | nil => exact ⟨[], rfl⟩
  | cons a as ih =>
    obtain ⟨b, hb⟩ := h a (by simp)
    obtain ⟨bs, hbs⟩ := ih fun a ha => h a (by simp [ha])
    exact ⟨b :: bs, by simp [hb, hbs]⟩

theorem mapM_cons_eq_error {α β ε : Type} {f : α → Except ε β} {a : α} {as : List α} {e : ε} :
    (a :: as).mapM f = .error e ↔
      f a = .error e ∨ (∃ b, f a = .ok b) ∧ as.mapM f = .error e := by
  rw [List.mapM_cons]
  cases f a with
  | error e' => simp
  | ok b => cases as.mapM f <;> simp

/-- What is reported is the first fault. -/
theorem mapM_eq_error {α β ε : Type} {f : α → Except ε β} {as : List α} {e : ε} :
    as.mapM f = .error e ↔
      ∃ earlier a later, as = earlier ++ a :: later ∧ (∀ x ∈ earlier, ∃ b, f x = .ok b) ∧
        f a = .error e := by
  induction as with
  | nil => simp
  | cons a as ih =>
    rw [mapM_cons_eq_error, ih]
    constructor
    · rintro (ha | ⟨hb, earlier, x, later, rfl, hearlier, hx⟩)
      · exact ⟨[], a, as, rfl, by simp, ha⟩
      · exact ⟨a :: earlier, x, later, rfl, List.forall_mem_cons.mpr ⟨hb, hearlier⟩, hx⟩
    · rintro ⟨earlier, x, later, hsplit, hearlier, hx⟩
      cases earlier with
      | nil =>
        cases hsplit
        exact .inl hx
      | cons first earlier =>
        cases hsplit
        obtain ⟨hfirst, hrest⟩ := List.forall_mem_cons.mp hearlier
        exact .inr ⟨hfirst, earlier, x, later, rfl, hrest, hx⟩

end SchemaFold
