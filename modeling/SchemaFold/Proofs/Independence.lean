import SchemaFold.Proofs.SharedHooks

/-! Generators that run the same hooks belong together, and what is asked of the others makes no
difference to them. A generator that shares its hooks with no other stands alone. Without a folder
of templates, what it renders follows from the requests made to it. -/

namespace SchemaFold.Session

/-- The generator that a request is made to. -/
def Request.generator? : Request → Option String
  | .create id _ _ | .share id _ _ | .register id _ _ | .addPre id _ | .addPost id _
  | .render id _ | .generate id _ _ => some id
  | .write _ _ | .makeFolder _ | .remove _ | .read _ | .list | .load _ _ => none

/-- Whether a request is made to a generator of the group. -/
def Request.concerns (group : String → Bool) (r : Request) : Bool :=
  r.generator?.any group

/-- Whether hooks that a request shares stay inside the group, or outside of it. -/
def Request.KeepsApart (group : String → Bool) : Request → Prop
  | .share id _ owner => group id = group owner
  | _ => True

namespace View

/-- No hooks are run both inside the group and outside of it. -/
def Apart (group : String → Bool) (v : View) : Prop :=
  ∀ a b, v.sameHooks a b = true → group a = group b

/-- The generators of the group look the same. -/
structure Agree (group : String → Bool) (v w : View) : Prop where
  generator : ∀ {a : String}, group a = true → v.generator a = w.generator a
  sameHooks : ∀ {a b : String}, group a = true → group b = true →
    v.sameHooks a b = w.sameHooks a b

variable {group : String → Bool} {v w : View}

theorem Apart.put (hv : v.Apart group) (id : String) (g : Generator) :
    (v.put id g).Apart group := by
  intro a b hab
  simp only [View.put] at hab
  split at hab
  · rw [eq_of_beq hab]
  · exact hv a b hab

theorem Apart.putBeside (hv : v.Apart group) {id owner : String} (h : group id = group owner)
    (g : Generator) : (v.putBeside id owner g).Apart group := by
  have hmoved : ∀ c, group (if c = id then owner else c) = group c := by
    intro c
    by_cases hc : c = id
    · rw [if_pos hc, hc, h]
    · rw [if_neg hc]
  intro a b hab
  have hsame := hv _ _ hab
  rwa [hmoved, hmoved] at hsame

theorem Apart.effect (hv : v.Apart group) {r : Request} (hr : r.KeepsApart group) :
    (r.effect v).Apart group := by
  cases r with
  | create id draft hooks =>
    simp only [Request.effect]
    split
    · exact hv.put id _
    · exact hv
  | share id draft owner =>
    simp only [Request.effect]
    split
    · exact hv.putBeside hr _
    · exact hv
  | _ => exact hv

theorem Agree.put (h : Agree group v w) (id : String) (g : Generator) :
    Agree group (v.put id g) (w.put id g) where
  generator {a} ha := by simp only [View.put, h.generator ha]
  sameHooks ha hb := by simp only [View.put, h.sameHooks ha hb]

theorem Agree.putBeside (h : Agree group v w) (id : String) {owner : String}
    (howner : group owner = true) (g : Generator) :
    Agree group (v.putBeside id owner g) (w.putBeside id owner g) where
  generator ha := by simp only [View.putBeside, h.generator ha]
  sameHooks ha hb := by
    have hmoved : ∀ {c : String}, group c = true → group (if c = id then owner else c) = true := by
      intro c hc
      split
      · exact howner
      · exact hc
    exact h.sameHooks (hmoved ha) (hmoved hb)

theorem Agree.register (h : Agree group v w) (id name type : String) :
    Agree group (v.register id name type) (w.register id name type) where
  generator ha := by simp only [View.register, h.generator ha]
  sameHooks := h.sameHooks

theorem Agree.changeHooks (h : Agree group v w) {id : String} (hid : group id = true)
    (change : Hooks → Hooks) : Agree group (v.changeHooks id change) (w.changeHooks id change) where
  generator ha := by simp only [View.changeHooks, h.generator ha, h.sameHooks hid ha]
  sameHooks := h.sameHooks

/-- A request to the group changes it in the same way wherever it looks the same. -/
theorem Agree.effect (h : Agree group v w) {r : Request} (hr : r.KeepsApart group)
    (hgroup : r.concerns group = true) : Agree group (r.effect v) (r.effect w) := by
  cases r with
  | create id draft hooks =>
    simp only [Request.effect]
    cases Generator.ofDraft draft hooks with
    | error f => exact h
    | ok g => exact h.put id g
  | share id draft owner =>
    have howner : group owner = true := hr.symm.trans hgroup
    simp only [Request.effect, h.generator howner]
    split
    · exact h.putBeside id howner _
    · exact h
  | register id name type => exact h.register id name type
  | addPre id hook => exact h.changeHooks hgroup (·.addPre hook)
  | addPost id hook => exact h.changeHooks hgroup (·.addPost hook)
  | _ => exact h

theorem Agree.trans {u : View} (h : Agree group v w) (h' : Agree group w u) : Agree group v u where
  generator ha := (h.generator ha).trans (h'.generator ha)
  sameHooks ha hb := (h.sameHooks ha hb).trans (h'.sameHooks ha hb)

theorem ne_of_outside {id a : String} (hid : group id = false) (ha : group a = true) : a ≠ id := by
  rintro rfl
  rw [hid] at ha
  contradiction

/-- A request outside the group leaves it as it was. -/
theorem Apart.agree_effect (hv : v.Apart group) {r : Request}
    (hgroup : r.concerns group = false) : Agree group (r.effect v) v := by
  have hsame : Agree group v v := ⟨fun _ => rfl, fun _ _ => rfl⟩
  have hchange : ∀ {id : String}, group id = false → ∀ change,
      Agree group (v.changeHooks id change) v := by
    intro id hid change
    refine ⟨fun {a} ha => ?_, hsame.sameHooks⟩
    have hother : v.sameHooks id a = false := by
      refine Bool.eq_false_iff.mpr fun hshared => ?_
      rw [← hv id a hshared, hid] at ha
      contradiction
    simp [View.changeHooks, hother]
  cases r with
  | create id draft hooks =>
    simp only [Request.effect]
    split
    · exact ⟨fun ha => if_neg (ne_of_outside hgroup ha), fun ha hb =>
        if_neg (not_or.mpr ⟨ne_of_outside hgroup ha, ne_of_outside hgroup hb⟩)⟩
    · exact hsame
  | share id draft owner =>
    simp only [Request.effect]
    split
    · refine ⟨fun ha => if_neg (ne_of_outside hgroup ha), fun ha hb => ?_⟩
      simp only [View.putBeside, if_neg (ne_of_outside hgroup ha), if_neg (ne_of_outside hgroup hb)]
    · exact hsame
  | register id name type =>
    exact ⟨fun ha => if_neg (ne_of_outside hgroup ha), hsame.sameHooks⟩
  | addPre id hook => exact hchange hgroup (·.addPre hook)
  | addPost id hook => exact hchange hgroup (·.addPost hook)
  | _ => exact hsame

end View

/-- However many requests are made, the group is what the requests to it have made of it. -/
theorem agree_runAll {group : String → Bool} {s t : Session} (hs : s.Sound) (ht : t.Sound)
    (hapart : s.view.Apart group) (h : View.Agree group s.view t.view) {requests : List Request}
    (hrequests : ∀ r ∈ requests, r.KeepsApart group) :
    View.Agree group (s.runAll requests).1.view
      (t.runAll (requests.filter (·.concerns group))).1.view := by
  induction requests generalizing s t with
  | nil => exact h
  | cons r requests ih =>
    have hr : r.KeepsApart group := hrequests r (by simp)
    have hrest : ∀ r ∈ requests, r.KeepsApart group := fun r hr => hrequests r (by simp [hr])
    have hview := hs.view_run r
    have hapart' : (s.run r).1.view.Apart group := hview ▸ hapart.effect hr
    cases hgroup : r.concerns group with
    | true =>
      have hstep : View.Agree group (s.run r).1.view (t.run r).1.view := by
        rw [hview, ht.view_run r]
        exact h.effect hr hgroup
      simpa [runAll, hgroup] using ih (hs.run r) (ht.run r) hapart' hstep hrest
    | false =>
      have hstep : View.Agree group (s.run r).1.view t.view := by
        rw [hview]
        exact (hapart.agree_effect hgroup).trans h
      simpa [runAll, hgroup] using ih (hs.run r) ht hapart' hstep hrest

theorem sound_start (disk : Disk) : ({ disk } : Session).Sound where
  registry h := by contradiction
  hooks h := by contradiction
  own h := by contradiction

theorem apart_start (disk : Disk) (group : String → Bool) :
    ({ disk } : Session).view.Apart group := by
  intro a b hab
  contradiction

theorem runAll_append (s : Session) (first second : List Request) :
    s.runAll (first ++ second) =
      (((s.runAll first).1.runAll second).1,
        (s.runAll first).2 ++ ((s.runAll first).1.runAll second).2) := by
  induction first generalizing s with
  | nil => rfl
  | cons r first ih => simp [runAll, ih]

theorem length_runAll (s : Session) (requests : List Request) :
    (s.runAll requests).2.length = requests.length := by
  induction requests generalizing s with
  | nil => rfl
  | cons r requests ih => simp [runAll, ih]

theorem answer_at (s : Session) (before : List Request) (r : Request) (after : List Request) :
    (s.runAll (before ++ r :: after)).2[before.length]? = some ((s.runAll before).1.run r).2 := by
  rw [runAll_append, List.getElem?_append_right (by simp [length_runAll]), length_runAll]
  simp [runAll]

theorem withGenerator_of_some {s : Session} {id : String} {g : Generator}
    (h : s.generator? id = some g) (act : Generator → Reply) :
    (s.withGenerator id fun _ => act) = act g := by
  obtain ⟨handle, hget, hfollow⟩ := Option.bind_eq_some_iff.mp h
  simp only [withGenerator, hget, hfollow]

/-- What is rendered without a folder of templates follows from the generator alone. -/
theorem render_answer_congr {s s' : Session} {id : String}
    (hsame : s'.generator? id = s.generator? id)
    (hplain : ∀ g, s.generator? id = some g → g.settings.templateDir = none)
    (source : String) : (s'.run (.render id source)).2 = (s.run (.render id source)).2 := by
  cases hid : s.generator? id with
  | none =>
    simp only [run, withGenerator_of_none hid, withGenerator_of_none (hsame.trans hid), refuse]
  | some g =>
    have hload : TemplateSet.load s'.disk g.settings.templateDir =
        TemplateSet.load s.disk g.settings.templateDir := by
      rw [hplain g hid]
      rfl
    simp only [run, withGenerator_of_some hid, withGenerator_of_some (hsame.trans hid),
      Generator.renderSource, Generator.render_congr hload]

theorem register_refused {s : Session} {id name type : String} {f : Failure}
    (h : (s.run (.register id name type)).2.result = .error f) :
    (s.run (.register id name type)).1 = s := by
  simp only [run, register, withGenerator] at h ⊢
  split
  · rfl
  · rename_i handle hget
    split
    · rfl
    · rename_i g hfollow
      simp only [hget, hfollow] at h
      cases hregister : g.register name type with
      | error e => rfl
      | ok g' => simp [hregister] at h

/-- A generator without a folder of templates renders a source in the same way if all requests are
left out that are made neither to it nor to another one of its group, as long as the group shares
no hooks with the rest. A generator that shares its hooks with no other is a group by itself. A
scalar that was refused makes no difference to anything that is answered later. -/
theorem render_own_requests_only (disk : Disk) (id : String) (before after : List Request) :
    let s : Session := { disk }
    (∀ (group : String → Bool) (source : String), group id = true →
      (∀ r ∈ before, r.KeepsApart group) →
      (∀ g, (s.runAll before).1.generator? id = some g → g.settings.templateDir = none) →
      let own := fun requests : List Request => requests.filter (·.concerns group)
      ∃ answer, (s.runAll (before ++ .render id source :: after)).2[before.length]? = some answer ∧
        (s.runAll (own (before ++ .render id source :: after))).2[(own before).length]? =
          some answer) ∧
    ∀ name type f, ((s.runAll before).1.run (.register id name type)).2.result = .error f →
      (s.runAll (before ++ .register id name type :: after)).1 = (s.runAll (before ++ after)).1 ∧
        (s.runAll (before ++ .register id name type :: after)).2.eraseIdx before.length =
          (s.runAll (before ++ after)).2 := by
  intro s
  constructor
  · intro group source hid hgroup hplain own
    refine ⟨_, answer_at s before _ after, ?_⟩
    have hown : own (before ++ .render id source :: after) =
        own before ++ .render id source :: own after := by
      simp [own, Request.concerns, Request.generator?, hid]
    have hagree := agree_runAll (sound_start disk) (sound_start disk) (apart_start disk group)
      ⟨fun _ => rfl, fun _ _ => rfl⟩ hgroup
    have hsame : (s.runAll (own before)).1.generator? id = (s.runAll before).1.generator? id :=
      (hagree.generator hid).symm
    rw [hown, answer_at, render_answer_congr hsame hplain]
  · intro name type f hrefused
    have hstate := register_refused hrefused
    constructor
    · simp [runAll_append, runAll, hstate]
    · have hlength := length_runAll s before
      simp only [runAll_append, runAll, hstate]
      rw [← hlength, List.eraseIdx_append_of_length_le (Nat.le_refl _)]
      simp

/-- Requests to three generators, of which two run the same hooks. The last one is refused. -/
def mixedRequests : List Request :=
  [.create "a" {} {}, .create "b" { scalars := some (.mapping [("Money", .text "string")]) } {},
    .share "c" {} "b", .write "money.graphql" (Text.Utf8.encode "scalar Money"),
    .addPre "c" (NameFilter.hook { excludePrefix := some "M" }), .register "b" "Url" "URL",
    .register "a" "Int" "bigint"]

theorem render_own_requests_only_mixedRequests :
    let s : Session := { disk := {} }
    (∀ r ∈ mixedRequests, r.KeepsApart (· == "a")) ∧
      (∀ r ∈ mixedRequests, r.KeepsApart (· != "a")) ∧
      (∀ id g, (s.runAll mixedRequests).1.generator? id = some g → id = "a" ∨ id = "b" →
        g.settings.templateDir = none) ∧
      (∃ answer, (s.runAll (mixedRequests ++ [.render "a" "scalar Money"])).2[7]? = some answer ∧
        (s.runAll [.create "a" {} {}, .register "a" "Int" "bigint",
          .render "a" "scalar Money"]).2[2]? = some answer) ∧
      (∃ answer, (s.runAll (mixedRequests ++ [.render "b" "scalar Money"])).2[7]? = some answer ∧
        (s.runAll [mixedRequests[1], mixedRequests[2], mixedRequests[4], mixedRequests[5],
          .render "b" "scalar Money"]).2[4]? = some answer) ∧
      ((s.runAll (mixedRequests.take 6)).1.run (.register "a" "Int" "bigint")).2.result =
        .error (.scalar (.builtin "Int")) ∧
      (s.runAll (mixedRequests ++ [.render "a" "scalar Money"])).2.eraseIdx 6 =
        (s.runAll (mixedRequests.take 6 ++ [.render "a" "scalar Money"])).2 := by
  intro s
  have halone : ∀ r ∈ mixedRequests, r.KeepsApart (· == "a") := by
    simp [mixedRequests, Request.KeepsApart]
  have hothers : ∀ r ∈ mixedRequests, r.KeepsApart (· != "a") := by
    simp [mixedRequests, Request.KeepsApart]
  have hplain : ∀ id g, (s.runAll mixedRequests).1.generator? id = some g → id = "a" ∨ id = "b" →
      g.settings.templateDir = none := by
    rintro id g hg (rfl | rfl)
    · cases hg
      rfl
    · cases hg
      rfl
  have hrefused :
      ((s.runAll (mixedRequests.take 6)).1.run (.register "a" "Int" "bigint")).2.result =
        .error (.scalar (.builtin "Int")) := rfl
  have hfirst := (render_own_requests_only {} "a" mixedRequests []).1 (· == "a") "scalar Money" rfl
    halone fun g hg => hplain "a" g hg (.inl rfl)
  have hsecond := (render_own_requests_only {} "b" mixedRequests []).1 (· != "a") "scalar Money"
    rfl hothers fun g hg => hplain "b" g hg (.inr rfl)
  have hlater := (render_own_requests_only {} "a" (mixedRequests.take 6)
    [.render "a" "scalar Money"]).2 _ _ _ hrefused
  exact ⟨halone, hothers, hplain, hfirst, hsecond, hrefused, hlater.2⟩

end SchemaFold.Session
