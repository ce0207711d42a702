import SchemaFold.Proofs.AcceptedSettings

/-! What a registry knows after calls to register scalars, made one after the other. A call is
refused for its name alone and then changes nothing, so the last call for a name that was not
refused decides its type. Accepted settings hold no scalar that would be refused. -/

namespace SchemaFold

theorem Scalar.resolve_eq (name : String) :
    resolve name =
      if name = "ID" ∨ name = "String" then "string"
      else if name = "Boolean" then "boolean"
      else if name = "Int" ∨ name = "Float" then "number"
      else name := by
  simp only [resolve, builtins, Assoc.get?, beq_iff_eq]
  grind

namespace Registry

/-- Whether a scalar of this name may be registered. -/
def admits (name : String) : Bool :=
  !Scalar.isBuiltin name && Name.accepted name

theorem admits_eq_false {name : String} :
    admits name = false ↔ Scalar.isBuiltin name = true ∨ Name.accepted name = false := by
  rw [admits, Bool.and_eq_false_iff, Bool.not_eq_false']

theorem register_of_admits (r : Registry) {name : String} (type : String)
    (h : admits name = true) :
    r.register name type = .ok { r with custom := Assoc.put name type r.custom } := by
  simp only [admits, Bool.and_eq_true, Bool.not_eq_true'] at h
  simp [register, h.1, h.2]

theorem register_of_not_admits (r : Registry) {name : String} (type : String)
    (h : admits name = false) : ∃ refusal, r.register name type = .error refusal := by
  by_cases hbuiltin : Scalar.isBuiltin name = true
  · exact ⟨.builtin name, by simp [register, hbuiltin]⟩
  · have haccepted : Name.accepted name = false := (admits_eq_false.mp h).resolve_left hbuiltin
    exact ⟨.invalidName name, by simp [register, hbuiltin, haccepted]⟩

/-- Whether a call is refused does not depend on the calls before it. -/
theorem register_refused_iff (r : Registry) (name type : String) :
    (∃ refusal, r.register name type = .error refusal) ↔ admits name = false := by
  constructor
  · rintro ⟨refusal, hrefusal⟩
    cases h : admits name with
    | false => rfl
    | true =>
      rw [register_of_admits r type h] at hrefusal
      contradiction
  · exact register_of_not_admits r type

/-- The registry after a call to register a scalar, which may have been refused. -/
def tryRegister (r : Registry) (call : String × String) : Registry :=
  match r.register call.1 call.2 with
  | .ok r' => r'
  | .error _ => r

def tryRegisterAll (r : Registry) (calls : List (String × String)) : Registry :=
  calls.foldl tryRegister r

/-- The calls that are not refused. -/
def carriedOut (calls : List (String × String)) : List (String × String) :=
  calls.filter fun call => admits call.1

/-- The type in the last of the pairs that have this name. -/
def lastType (name : String) (pairs : List (String × String)) : Option String :=
  (pairs.reverse.find? fun pair => pair.1 == name).map Prod.snd

theorem lastType_cons (name : String) (pair : String × String) (pairs : List (String × String)) :
    lastType name (pair :: pairs) =
      (lastType name pairs).or (if pair.1 = name then some pair.2 else none) := by
  by_cases h : pair.1 = name <;> simp [lastType, List.find?_append, h]

theorem tryRegister_of_admits (r : Registry) {call : String × String}
    (h : admits call.1 = true) :
    r.tryRegister call = { r with custom := Assoc.put call.1 call.2 r.custom } := by
  simp only [tryRegister, register_of_admits r call.2 h]

theorem tryRegister_of_not_admits (r : Registry) {call : String × String}
    (h : admits call.1 = false) : r.tryRegister call = r := by
  obtain ⟨refusal, hrefusal⟩ := register_of_not_admits r call.2 h
  simp only [tryRegister, hrefusal]

theorem register_eq_tryRegister (r : Registry) {name : String} (type : String)
    (h : admits name = true) : r.register name type = .ok (r.tryRegister (name, type)) := by
  rw [register_of_admits r type h, tryRegister_of_admits r h]

theorem handTyped_tryRegister (r : Registry) (call : String × String) :
    (r.tryRegister call).handTyped = r.handTyped := by
  cases h : admits call.1 with
  | true => rw [tryRegister_of_admits r h]
  | false => rw [tryRegister_of_not_admits r h]

theorem isHandTyped_tryRegister (r : Registry) (call : String × String) (name : String) :
    (r.tryRegister call).isHandTyped name = r.isHandTyped name := by
  rw [isHandTyped, handTyped_tryRegister, isHandTyped]

theorem get?_tryRegister_of_admits (r : Registry) {call : String × String}
    (h : admits call.1 = true) (name : String) :
    (r.tryRegister call).get? name =
      (if call.1 = name then some call.2 else none).or (r.get? name) := by
  rw [tryRegister_of_admits r h, get?, Assoc.get?_put]
  by_cases hname : call.1 = name <;> simp [get?, hname]

/-- A type that is not empty is what its own scalar is declared with, and no other. -/
theorem declaredType_tryRegister (r : Registry) {scalar type : String}
    (h : admits scalar = true) (htype : type ≠ "") (name : String) :
    (r.tryRegister (scalar, type)).declaredType name =
      if scalar = name then type else r.declaredType name := by
  rw [declaredType, get?_tryRegister_of_admits r h]
  by_cases hname : scalar = name
  · simp [hname, htype]
  · simp [hname, declaredType]

theorem get?_tryRegisterAll (r : Registry) (calls : List (String × String)) (name : String) :
    (r.tryRegisterAll calls).get? name =
      (lastType name (carriedOut calls)).or (r.get? name) := by
  induction calls generalizing r with
  | nil => simp [tryRegisterAll, carriedOut, lastType]
  | cons call calls ih =>
    have hrest := ih (r.tryRegister call)
    cases h : admits call.1 with
    | true =>
      have hkept : carriedOut (call :: calls) = call :: carriedOut calls := by
        simp [carriedOut, h]
      -- Later calls win over this one, and this one over what was registered before.
      rw [get?_tryRegister_of_admits r h, ← Option.or_assoc, ← lastType_cons, ← hkept] at hrest
      exact hrest
    | false =>
      have hdropped : carriedOut (call :: calls) = carriedOut calls := by simp [carriedOut, h]
      rw [tryRegister_of_not_admits r h] at hrest
      rw [hdropped, tryRegisterAll, List.foldl_cons, tryRegister_of_not_admits r h]
      exact hrest

theorem handTyped_tryRegisterAll (r : Registry) (calls : List (String × String)) :
    (r.tryRegisterAll calls).handTyped = r.handTyped := by
  induction calls generalizing r with
  | nil => rfl
  | cons call calls ih =>
    exact (ih (r.tryRegister call)).trans (handTyped_tryRegister r call)

/-- A registry is built by calls of which none is refused. -/
theorem build_eq_ok {custom : List (String × String)} {handTyped : List String} {r : Registry} :
    build custom handTyped = .ok r ↔
      (∀ entry ∈ custom, admits entry.1 = true) ∧ tryRegisterAll ⟨[], handTyped⟩ custom = r := by
  -- From any registry, as every call leaves another one for the rest.
  have hfold : ∀ start : Registry,
      custom.foldlM (fun r entry => r.register entry.1 entry.2) start = .ok r ↔
        (∀ entry ∈ custom, admits entry.1 = true) ∧ start.tryRegisterAll custom = r := by
    induction custom with
    | nil => simp [tryRegisterAll]
    | cons entry custom ih =>
      intro start
      rw [List.foldlM_cons, bind_eq_ok]
      cases h : admits entry.1 with
      | true =>
        have hfirst := register_of_admits start entry.2 h
        have hstep := tryRegister_of_admits start h
        simp [hfirst, ih, tryRegisterAll, hstep, h]
      | false =>
        obtain ⟨refusal, hrefusal⟩ := register_of_not_admits start entry.2 h
        simp [hrefusal, h]
  exact hfold ⟨[], handTyped⟩

theorem get?_of_build {custom : List (String × String)} {handTyped : List String} {r : Registry}
    (h : build custom handTyped = .ok r) (name : String) : r.get? name = lastType name custom := by
  obtain ⟨hadmits, rfl⟩ := build_eq_ok.mp h
  have hall : carriedOut custom = custom := List.filter_eq_self.mpr hadmits
  rw [get?_tryRegisterAll, hall]
  simp [get?, Assoc.get?]

theorem handTyped_of_build {custom : List (String × String)} {handTyped : List String}
    {r : Registry} (h : build custom handTyped = .ok r) : r.handTyped = handTyped := by
  obtain ⟨-, rfl⟩ := build_eq_ok.mp h
  exact handTyped_tryRegisterAll _ custom

theorem lastType_of_forall_ne {name : String} {pairs : List (String × String)}
    (h : ∀ pair ∈ pairs, pair.1 ≠ name) : lastType name pairs = none := by
  have hfind : (pairs.reverse.find? fun pair => pair.1 == name) = none := by
    apply List.find?_eq_none.mpr
    intro pair hpair
    simpa using h pair (List.mem_reverse.mp hpair)
  rw [lastType, hfind, Option.map_none]

theorem lastType_carriedOut_of_not_admits {name : String} (h : admits name = false)
    (calls : List (String × String)) : lastType name (carriedOut calls) = none := by
  apply lastType_of_forall_ne
  rintro call hcall rfl
  simp [carriedOut, h] at hcall

/-- After any calls, refused or not, a scalar has the type of the last call for it that was not
refused, or else the type it was built with. No call changes how names are written or which scalars
are typed by hand. -/
theorem get?_after_calls {custom : List (String × String)} {handTyped : List String} {r : Registry}
    (hbuild : build custom handTyped = .ok r) (calls : List (String × String)) :
    let after := r.tryRegisterAll calls
    (∀ name type,
      ((∃ refusal, after.register name type = .error refusal) ↔
          Scalar.isBuiltin name = true ∨ Name.accepted name = false) ∧
        ((∃ refusal, after.register name type = .error refusal) →
          r.tryRegisterAll (calls ++ [(name, type)]) = after)) ∧
    ∀ name,
      after.get? name = (lastType name (carriedOut calls)).or (lastType name custom) ∧
        (Scalar.isBuiltin name = true ∨ Name.accepted name = false → after.get? name = none) ∧
        after.isHandTyped name = r.isHandTyped name ∧
        Scalar.resolve name =
          if name = "ID" ∨ name = "String" then "string"
          else if name = "Boolean" then "boolean"
          else if name = "Int" ∨ name = "Float" then "number"
          else name := by
  intro after
  have hget : ∀ name, after.get? name =
      (lastType name (carriedOut calls)).or (lastType name custom) := by
    intro name
    rw [get?_tryRegisterAll, get?_of_build hbuild]
  refine ⟨fun name type => ⟨?_, ?_⟩, fun name => ⟨hget name, ?_, ?_, Scalar.resolve_eq name⟩⟩
  · rw [register_refused_iff, admits_eq_false]
  · intro hrefused
    have hadmits := (register_refused_iff _ name type).mp hrefused
    rw [tryRegisterAll, List.foldl_append]
    exact tryRegister_of_not_admits _ hadmits
  · intro hrefused
    have hadmits := admits_eq_false.mpr hrefused
    have hcustom : lastType name custom = none := by
      apply lastType_of_forall_ne
      rintro entry hentry rfl
      simp [(build_eq_ok.mp hbuild).1 entry hentry] at hadmits
    rw [hget, lastType_carriedOut_of_not_admits hadmits, hcustom]
    rfl
  · rw [isHandTyped, handTyped_tryRegisterAll, isHandTyped]

/-- Two calls are refused, one replaces the type that the registry was built with, and the last call
for a name decides. -/
theorem get?_after_calls_mixed :
    let r : Registry := ⟨[("Money", "Decimal"), ("Slug", "string")], ["Date"]⟩
    let calls := [("Int", "bigint"), ("Money", "string"), ("2fa", "Code"), ("Url", "string"),
      ("Url", "URL"), ("Date", "Date")]
    let after := r.tryRegisterAll calls
    build [("Money", "Decimal"), ("Slug", "string")] ["Date"] = .ok r ∧
      after.get? "Money" = some "string" ∧ after.get? "Url" = some "URL" ∧
      after.get? "Slug" = some "string" ∧ after.get? "Int" = none ∧ after.get? "2fa" = none ∧
      after.isHandTyped "Date" = true ∧
      (∃ refusal, after.register "2fa" "Code" = .error refusal) ∧
      r.tryRegisterAll (calls ++ [("2fa", "Code")]) = after := by
  intro r calls after
  have hbuild : build [("Money", "Decimal"), ("Slug", "string")] ["Date"] = .ok r := rfl
  obtain ⟨hcall, hname⟩ := get?_after_calls hbuild calls
  have hrefused := (hcall "2fa" "Code").1.mpr (.inr rfl)
  exact ⟨hbuild, (hname "Money").1, (hname "Url").1, (hname "Slug").1,
    (hname "Int").2.1 (.inl rfl), (hname "2fa").2.1 (.inr rfl), (hname "Date").2.2.1, hrefused,
    (hcall "2fa" "Code").2 hrefused⟩

theorem lastType_of_nodup {pairs : List (String × String)} (h : (pairs.map Prod.fst).Nodup)
    (name : String) : lastType name pairs = Assoc.get? name pairs := by
  induction pairs with
  | nil => rfl
  | cons pair pairs ih =>
    obtain ⟨hfirst, hrest⟩ := List.nodup_cons.mp h
    rw [lastType_cons, ih hrest]
    by_cases hname : pair.1 = name
    · have hnone : Assoc.get? name pairs = none := Assoc.get?_eq_none.mpr (hname ▸ hfirst)
      simp [hnone, Assoc.get?, hname]
    · simp [Assoc.get?, hname]

end Registry

namespace Settings

theorem admits_of_checkScalars {scalars : List (String × String)}
    (h : checkScalars scalars = .ok ()) :
    ∀ entry ∈ scalars, Registry.admits entry.1 = true := by
  intro entry hentry
  obtain ⟨hnames, hcustom, -⟩ := checkScalars_eq_ok.mp h
  simp [Registry.admits, hnames _ (List.mem_map_of_mem hentry), hcustom _ hentry]

theorem registry_of_accepted {draft : Draft} {s : Settings} (h : ofDraft draft = .ok s) :
    ∃ r, s.registry = .ok r := by
  have hadmits := admits_of_checkScalars (checkScalars_of_ofDraft h)
  exact ⟨_, Registry.build_eq_ok.mpr ⟨hadmits, rfl⟩⟩

/-- The registry of accepted settings has exactly their scalars, since none is named twice. -/
theorem get?_registry {draft : Draft} {s : Settings} {r : Registry} (h : ofDraft draft = .ok s)
    (hr : s.registry = .ok r) (name : String) : r.get? name = Assoc.get? name s.scalars := by
  rw [Registry.get?_of_build hr]
  exact Registry.lastType_of_nodup (nodup_scalars_of_ofDraft h) name

/-- No type in accepted settings is empty, so none gives way to any type. -/
theorem declaredType_registry {draft : Draft} {s : Settings} {r : Registry}
    (h : ofDraft draft = .ok s) (hr : s.registry = .ok r) (name : String) :
    r.declaredType name = (Assoc.get? name s.scalars).getD Scalar.anyType := by
  rw [Registry.declaredType, get?_registry h hr]
  cases hname : Assoc.get? name s.scalars with
  | none => rfl
  | some type =>
    have hchecked := (checkScalars_eq_ok.mp (checkScalars_of_ofDraft h)).2.2
    have hfilled : Text.allBlank type = false := hchecked _ (Assoc.mem_of_get? hname)
    have hne : type ≠ "" := by
      rintro rfl
      simp [Text.allBlank] at hfilled
    simp [hne]

end Settings
end SchemaFold
