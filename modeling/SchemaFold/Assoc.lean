/-! Mappings as lists of pairs in order of first insertion. A key set again keeps its place and
takes the new value. -/

namespace SchemaFold.Assoc

def put {κ α : Type} [BEq κ] (key : κ) (value : α) : List (κ × α) → List (κ × α)
  | [] => [(key, value)]
  | (k, v) :: rest => if k == key then (key, value) :: rest else (k, v) :: put key value rest

def ofPairs {κ α : Type} [BEq κ] (pairs : List (κ × α)) : List (κ × α) :=
  pairs.foldl (fun m (k, v) => put k v m) []

def get? {κ α : Type} [BEq κ] (key : κ) : List (κ × α) → Option α
  | [] => none
  | (k, v) :: rest => if k == key then some v else get? key rest

def erase {κ α : Type} [BEq κ] (key : κ) (m : List (κ × α)) : List (κ × α) :=
  m.filter fun (k, _) => !(k == key)

theorem get?_put {κ α : Type} [BEq κ] [LawfulBEq κ] (key k : κ) (value : α) (m : List (κ × α)) :
    get? k (put key value m) = if key == k then some value else get? k m := by
  induction m with
  | nil => simp [put, get?]
  | cons p rest ih =>
    obtain ⟨k', v'⟩ := p
    by_cases h : k' = key <;> by_cases h' : key = k <;> by_cases h'' : k' = k <;>
      simp_all [put, get?]

theorem mem_of_get? {κ α : Type} [BEq κ] [LawfulBEq κ] {key : κ} {value : α}
    {m : List (κ × α)} (h : get? key m = some value) : (key, value) ∈ m := by
  induction m with
  | nil => contradiction
  | cons p rest ih =>
    obtain ⟨k, v⟩ := p
    by_cases hk : k = key
    · simp_all [get?]
    · simp only [get?, beq_iff_eq, hk, if_false] at h
      exact List.mem_cons_of_mem _ (ih h)

theorem get?_of_mem {κ α : Type} [BEq κ] [LawfulBEq κ] {key : κ} {value : α} {m : List (κ × α)}
    (hm : (m.map Prod.fst).Nodup) (h : (key, value) ∈ m) : get? key m = some value := by
  induction m with
  | nil => contradiction
  | cons p rest ih =>
    obtain ⟨k, v⟩ := p
    simp only [List.map_cons, List.nodup_cons] at hm
    rcases List.mem_cons.mp h with hfirst | hrest
    · cases hfirst
      simp [get?]
    · have hk : k ≠ key := by
        rintro rfl
        exact hm.1 (List.mem_map_of_mem hrest)
      simpa [get?, hk] using ih hm.2 hrest

theorem get?_eq_none {κ α : Type} [BEq κ] [LawfulBEq κ] {key : κ} {m : List (κ × α)} :
    get? key m = none ↔ key ∉ m.map Prod.fst := by
  induction m with
  | nil => simp [get?]
  | cons entry m ih =>
    obtain ⟨k, v⟩ := entry
    by_cases hk : k = key
    · simp [get?, hk]
    · simp [get?, hk, ih, Ne.symm hk]

theorem mem_put {κ α : Type} [BEq κ] [LawfulBEq κ] {key : κ} {value : α} {m : List (κ × α)}
    {p : κ × α} (h : p ∈ put key value m) : p = (key, value) ∨ p ∈ m := by
  induction m with
  | nil => exact .inl (List.mem_singleton.mp h)
  | cons q rest ih =>
    obtain ⟨k, v⟩ := q
    by_cases hk : k = key
    · simp only [put, hk, beq_self_eq_true, if_true, List.mem_cons] at h
      rcases h with h | h
      · exact .inl h
      · exact .inr (List.mem_cons_of_mem _ h)
    · simp only [put, beq_iff_eq, hk, if_false, List.mem_cons] at h
      rcases h with h | h
      · exact .inr (h ▸ List.mem_cons_self)
      · exact (ih h).imp id (List.mem_cons_of_mem _)

/-- Setting a key does not bring in a key twice. -/
theorem nodup_put {κ α : Type} [BEq κ] [LawfulBEq κ] (key : κ) (value : α) {m : List (κ × α)}
    (h : (m.map Prod.fst).Nodup) : ((put key value m).map Prod.fst).Nodup := by
  induction m with
  | nil => simp [put]
  | cons q rest ih =>
    obtain ⟨k, v⟩ := q
    simp only [List.map_cons, List.nodup_cons] at h
    by_cases hk : k = key
    · subst hk
      simp only [put, beq_self_eq_true, if_true, List.map_cons, List.nodup_cons]
      exact h
    · have hfirst : k ∉ (put key value rest).map Prod.fst := by
        intro hmem
        obtain ⟨p, hp, rfl⟩ := List.mem_map.mp hmem
        rcases mem_put hp with rfl | hp
        · exact hk rfl
        · exact h.1 (List.mem_map_of_mem hp)
      simp only [put, beq_iff_eq, hk, if_false, List.map_cons, List.nodup_cons]
      exact ⟨hfirst, ih h.2⟩

theorem nodup_ofPairs {κ α : Type} [BEq κ] [LawfulBEq κ] (pairs : List (κ × α)) :
    ((ofPairs pairs).map Prod.fst).Nodup := by
  have hfold : ∀ m : List (κ × α), (m.map Prod.fst).Nodup →
      ((pairs.foldl (fun m (k, v) => put k v m) m).map Prod.fst).Nodup := by
    induction pairs with
    | nil => exact fun m hm => hm
    | cons entry pairs ih => exact fun m hm => ih _ (nodup_put entry.1 entry.2 hm)
  exact hfold [] List.nodup_nil

/-- A key set to the value it has changes nothing. -/
theorem put_of_get? {κ α : Type} [BEq κ] [LawfulBEq κ] {key : κ} {value : α} {m : List (κ × α)}
    (h : get? key m = some value) : put key value m = m := by
  induction m with
  | nil => contradiction
  | cons p rest ih =>
    obtain ⟨k, v⟩ := p
    by_cases hk : k = key
    · simp_all [put, get?]
    · simp only [get?, beq_iff_eq, hk, if_false] at h
      simp [put, hk, ih h]

/-- What passes over a key, whatever its value, does not see it set. -/
theorem filterMap_put {κ α β : Type} [BEq κ] [LawfulBEq κ] {f : κ × α → Option β} {key : κ}
    {value : α} {m : List (κ × α)} (hnew : f (key, value) = none)
    (hold : ∀ v, get? key m = some v → f (key, v) = none) :
    (put key value m).filterMap f = m.filterMap f := by
  induction m with
  | nil => simp [put, hnew]
  | cons p rest ih =>
    obtain ⟨k, v⟩ := p
    by_cases hk : k = key
    · subst hk
      have hv : f (k, v) = none := hold v (by simp [get?])
      simp [put, hnew, hv]
    · have hrest := ih fun v hv => hold v (by simpa [get?, hk] using hv)
      simp [put, hk, List.filterMap_cons, hrest]

theorem put_map {κ α β : Type} [BEq κ] (f : α → β) (key : κ) (value : α) (m : List (κ × α)) :
    put key (f value) (m.map fun (k, a) => (k, f a)) =
      (put key value m).map fun (k, a) => (k, f a) := by
  induction m with
  | nil => rfl
  | cons entry m ih =>
    obtain ⟨k, a⟩ := entry
    by_cases hk : (k == key) = true <;> simp [put, hk, ih]

theorem ofPairs_map {κ α β : Type} [BEq κ] (f : α → β) (pairs : List (κ × α)) :
    ofPairs (pairs.map fun (k, a) => (k, f a)) = (ofPairs pairs).map fun (k, a) => (k, f a) := by
  have hfold : ∀ m : List (κ × α),
      (pairs.map fun (k, a) => (k, f a)).foldl (fun m (k, v) => put k v m)
          (m.map fun (k, a) => (k, f a)) =
        (pairs.foldl (fun m (k, v) => put k v m) m).map fun (k, a) => (k, f a) := by
    induction pairs with
    | nil => exact fun m => rfl
    | cons entry pairs ih =>
      intro m
      simp only [List.map_cons, List.foldl_cons, put_map, ih]
  exact hfold []

end SchemaFold.Assoc
