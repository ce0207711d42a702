import SchemaFold.Proofs.Rendering
import SchemaFold.Session

/-! What there is to see of the generators of a session: what each of them is, and which of them
run the same hooks. Where their registries and hooks are kept is not seen, and what a request makes
of the view follows from the view alone. -/

namespace SchemaFold.Session

/-- Whatever the generators refer to is kept, and each has a registry of its own. -/
structure Sound (s : Session) : Prop where
  registry : ∀ {id : String} {handle : Handle}, Assoc.get? id s.generators = some handle →
    handle.registry < s.registries.length
  hooks : ∀ {id : String} {handle : Handle}, Assoc.get? id s.generators = some handle →
    handle.hooks < s.runners.length
  own : ∀ {a b : String} {handle other : Handle}, Assoc.get? a s.generators = some handle →
    Assoc.get? b s.generators = some other → handle.registry = other.registry → a = b

def hooksAt? (s : Session) (id : String) : Option Nat :=
  (Assoc.get? id s.generators).map Handle.hooks

def sameHooks (s : Session) (a b : String) : Bool :=
  (s.hooksAt? a).isSome && s.hooksAt? a == s.hooksAt? b

structure View where
  generator : String → Option Generator
  sameHooks : String → String → Bool

def view (s : Session) : View where
  generator := s.generator?
  sameHooks := s.sameHooks

namespace View

/-- A generator under an id, with hooks that no other one runs. -/
def put (v : View) (id : String) (g : Generator) : View where
  generator a := if a = id then some g else v.generator a
  sameHooks a b := if a = id ∨ b = id then a == b else v.sameHooks a b

/-- A generator under an id, with the hooks of another one. -/
def putBeside (v : View) (id owner : String) (g : Generator) : View where
  generator a := if a = id then some g else v.generator a
  sameHooks a b := v.sameHooks (if a = id then owner else a) (if b = id then owner else b)

def register (v : View) (id name type : String) : View where
  generator a :=
    if a = id then (v.generator a).map (·.tryRegister (name, type)) else v.generator a
  sameHooks := v.sameHooks

def changeHooks (v : View) (id : String) (change : Hooks → Hooks) : View where
  generator a :=
    if v.sameHooks id a then
      (v.generator a).map fun g => { g with hooks := change g.hooks }
    else v.generator a
  sameHooks := v.sameHooks

end View

/-- What a request makes of the view. -/
def Request.effect : Request → View → View
  | .create id draft hooks, v =>
    match Generator.ofDraft draft hooks with
    | .ok g => v.put id g
    | .error _ => v
  | .share id draft owner, v =>
    match Generator.ofDraft draft, v.generator owner with
    | .ok g, some other => v.putBeside id owner { g with hooks := other.hooks }
    | _, _ => v
  | .register id name type, v => v.register id name type
  | .addPre id hook, v => v.changeHooks id (·.addPre hook)
  | .addPost id hook, v => v.changeHooks id (·.addPost hook)
  | _, v => v

theorem View.eq_of_forall {v w : View} (hgenerator : ∀ a, v.generator a = w.generator a)
    (hhooks : ∀ a b, v.sameHooks a b = w.sameHooks a b) : v = w := by
  cases v
  cases w
  congr
  · exact funext hgenerator
  · exact funext fun a => funext (hhooks a)

theorem follow_eq_some {s : Session} {handle : Handle} {g : Generator} :
    s.follow handle = some g ↔ handle.settings = g.settings ∧
      s.registries[handle.registry]? = some g.registry ∧
      s.runners[handle.hooks]? = some g.hooks := by
  obtain ⟨settings, registry, hooks⟩ := g
  unfold follow
  cases s.registries[handle.registry]? with
  | none => simp
  | some found =>
    cases s.runners[handle.hooks]? with
    | none => simp
    | some runner => simp

theorem Sound.exists_generator {s : Session} (hs : s.Sound) {id : String} {handle : Handle}
    (h : Assoc.get? id s.generators = some handle) : ∃ g, s.follow handle = some g := by
  have hregistry := List.getElem?_eq_getElem (hs.registry h)
  have hhooks := List.getElem?_eq_getElem (hs.hooks h)
  exact ⟨⟨handle.settings, _, _⟩, follow_eq_some.mpr ⟨rfl, hregistry, hhooks⟩⟩

theorem withGenerator_of_none {s : Session} {id : String} (h : s.generator? id = none)
    (act : Handle → Generator → Reply) :
    s.withGenerator id act = s.refuse (.noGenerator id) := by
  unfold generator? at h
  unfold withGenerator
  cases hid : Assoc.get? id s.generators with
  | none => rfl
  | some handle =>
    rw [hid, Option.bind_some] at h
    simp only [h]

/-- A request to a generator is refused for want of one, or acts on what it is at this point. -/
theorem Sound.withGenerator_cases {s : Session} (hs : s.Sound) (id : String)
    (act : Handle → Generator → Reply) :
    (Assoc.get? id s.generators = none ∧ s.generator? id = none ∧
        s.withGenerator id act = s.refuse (.noGenerator id)) ∨
      ∃ handle g, Assoc.get? id s.generators = some handle ∧ s.follow handle = some g ∧
        s.generator? id = some g ∧ s.withGenerator id act = act handle g := by
  cases hid : Assoc.get? id s.generators with
  | none => exact .inl ⟨rfl, by simp [generator?, hid], by simp [withGenerator, hid]⟩
  | some handle =>
    obtain ⟨g, hg⟩ := hs.exists_generator hid
    exact .inr ⟨handle, g, rfl, hg, by simp [generator?, hid, hg], by simp [withGenerator, hid, hg]⟩

theorem follow_congr {s s' : Session} {handle : Handle}
    (hregistry : s'.registries[handle.registry]? = s.registries[handle.registry]?)
    (hhooks : s'.runners[handle.hooks]? = s.runners[handle.hooks]?) :
    s'.follow handle = s.follow handle := by
  simp only [follow, hregistry, hhooks]

theorem Sound.of_eq {s s' : Session} (hs : s.Sound) (hgenerators : s'.generators = s.generators)
    (hregistries : s.registries.length ≤ s'.registries.length)
    (hrunners : s.runners.length ≤ s'.runners.length) : s'.Sound where
  registry h := Nat.lt_of_lt_of_le (hs.registry (hgenerators ▸ h)) hregistries
  hooks h := Nat.lt_of_lt_of_le (hs.hooks (hgenerators ▸ h)) hrunners
  own h h' := hs.own (hgenerators ▸ h) (hgenerators ▸ h')

theorem Sound.hold {s : Session} (hs : s.Sound) (hooks : Hooks) :
    { s with runners := s.runners ++ [hooks] }.Sound :=
  hs.of_eq rfl (Nat.le_refl _) (by simp)

section Keeping

variable {s : Session} {place : Nat} (id : String) (g : Generator)

theorem get?_keep (a : String) :
    Assoc.get? a (s.keep id g place).1.generators =
      if a = id then some ⟨g.settings, s.registries.length, place⟩
      else Assoc.get? a s.generators := by
  by_cases ha : id = a
  · simp [keep, Assoc.get?_put, ha]
  · simp [keep, Assoc.get?_put, ha, Ne.symm ha]

theorem get?_keep_eq_some {a : String} {handle : Handle}
    (h : Assoc.get? a (s.keep id g place).1.generators = some handle) :
    a = id ∧ handle = ⟨g.settings, s.registries.length, place⟩ ∨
      a ≠ id ∧ Assoc.get? a s.generators = some handle := by
  rw [get?_keep] at h
  by_cases ha : a = id
  · rw [if_pos ha, Option.some.injEq] at h
    exact .inl ⟨ha, h.symm⟩
  · rw [if_neg ha] at h
    exact .inr ⟨ha, h⟩

theorem Sound.keep (hs : s.Sound) (hplace : place < s.runners.length) :
    (s.keep id g place).1.Sound where
  registry h := by
    rcases get?_keep_eq_some id g h with ⟨-, rfl⟩ | ⟨-, h⟩
    · simp [Session.keep]
    · simpa [Session.keep] using Nat.lt_succ_of_lt (hs.registry h)
  hooks h := by
    rcases get?_keep_eq_some id g h with ⟨-, rfl⟩ | ⟨-, h⟩
    · exact hplace
    · exact hs.hooks h
  own h h' heq := by
    rcases get?_keep_eq_some id g h with ⟨ha, rfl⟩ | ⟨-, hold⟩ <;>
      rcases get?_keep_eq_some id g h' with ⟨hb, rfl⟩ | ⟨-, hold'⟩
    · exact ha.trans hb.symm
    · exact absurd heq (Nat.ne_of_gt (hs.registry hold'))
    · exact absurd heq (Nat.ne_of_lt (hs.registry hold))
    · exact hs.own hold hold' heq

theorem Sound.generator?_keep (hs : s.Sound) {hooks : Hooks}
    (hplace : s.runners[place]? = some hooks) (a : String) :
    (s.keep id g place).1.generator? a =
      if a = id then some { g with hooks } else s.generator? a := by
  unfold generator?
  rw [get?_keep]
  by_cases ha : a = id
  · rw [if_pos ha, if_pos ha, Option.bind_some]
    exact follow_eq_some.mpr ⟨rfl, by simp [Session.keep], hplace⟩
  · rw [if_neg ha, if_neg ha]
    cases hget : Assoc.get? a s.generators with
    | none => rfl
    | some handle => exact follow_congr (List.getElem?_append_left (hs.registry hget)) rfl

theorem hooksAt?_keep (a : String) :
    (s.keep id g place).1.hooksAt? a = if a = id then some place else s.hooksAt? a := by
  unfold hooksAt?
  rw [get?_keep]
  by_cases ha : a = id <;> simp [ha]

end Keeping

theorem Sound.hooksAt?_ne {s : Session} (hs : s.Sound) (a : String) :
    s.hooksAt? a ≠ some s.runners.length := by
  intro h
  obtain ⟨handle, hget, hlength⟩ := Option.map_eq_some_iff.mp h
  exact absurd hlength (Nat.ne_of_lt (hs.hooks hget))

theorem hooks_ofDraft {draft : Settings.Draft} {hooks : Hooks} {g : Generator}
    (h : Generator.ofDraft draft hooks = .ok g) : g.hooks = hooks := by
  obtain ⟨settings, -, hsettings⟩ := bind_eq_ok.mp h
  obtain ⟨registry, -, hregistry⟩ := bind_eq_ok.mp hsettings
  rw [← Except.ok.inj hregistry]

/-- Hooks that are new to the session are run by the new generator only. -/
theorem Sound.view_create {s : Session} (hs : s.Sound) (id : String) {draft : Settings.Draft}
    {hooks : Hooks} {g : Generator} (hg : Generator.ofDraft draft hooks = .ok g) :
    (s.create id draft hooks).1.view = s.view.put id g := by
  let held : Session := { s with runners := s.runners ++ [hooks] }
  have hheld : held.Sound := hs.hold hooks
  have hplace : held.runners[s.runners.length]? = some hooks := by simp [held]
  have hcreate : s.create id draft hooks = held.keep id g s.runners.length := by
    simp only [create, hg, held]
  rw [hcreate]
  refine View.eq_of_forall ?_ ?_
  · intro a
    have hsame : held.generator? a = s.generator? a := by
      unfold generator?
      cases hget : Assoc.get? a s.generators with
      | none => rfl
      | some handle => exact follow_congr rfl (List.getElem?_append_left (hs.hooks hget))
    simp only [view, View.put]
    rw [hheld.generator?_keep id g hplace, hsame, ← hooks_ofDraft hg]
  · intro a b
    have hold : ∀ c, held.hooksAt? c = s.hooksAt? c := fun _ => rfl
    have hnew := hs.hooksAt?_ne
    simp only [view, View.put, sameHooks, hooksAt?_keep, hold]
    by_cases ha : a = id <;> by_cases hb : b = id
    · simp [ha, hb]
    · simp [ha, hb, Ne.symm (hnew b), Ne.symm hb]
    · have hne : (a == id) = false := beq_eq_false_iff_ne.mpr ha
      have hapart : (s.hooksAt? a == some s.runners.length) = false :=
        beq_eq_false_iff_ne.mpr (hnew a)
      simp [ha, hb, hne, hapart]
    · simp [ha, hb]

theorem Sound.view_share {s : Session} (hs : s.Sound) (id owner : String)
    {draft : Settings.Draft} {g other : Generator} (hg : Generator.ofDraft draft = .ok g)
    (howner : s.generator? owner = some other) :
    (s.share id draft owner).1.view =
      s.view.putBeside id owner { g with hooks := other.hooks } := by
  rcases hs.withGenerator_cases owner fun handle _ => s.keep id g handle.hooks with
    ⟨-, hnone, -⟩ | ⟨handle, found, hget, hfollow, hfound, hact⟩
  · rw [hnone] at howner
    contradiction
  · cases hfound.symm.trans howner
    have hplace := (follow_eq_some.mp hfollow).2.2
    have hat : s.hooksAt? owner = some handle.hooks := by simp [hooksAt?, hget]
    have hshare : s.share id draft owner = s.keep id g handle.hooks := by
      simp only [share, hg, hact]
    rw [hshare]
    refine View.eq_of_forall (hs.generator?_keep id g hplace) ?_
    intro a b
    simp only [view, View.putBeside, sameHooks, hooksAt?_keep]
    by_cases ha : a = id <;> by_cases hb : b = id <;> simp [ha, hb, hat]

theorem sameHooks_of_get? {s : Session} {a b : String} {handle other : Handle}
    (ha : Assoc.get? a s.generators = some handle)
    (hb : Assoc.get? b s.generators = some other) :
    s.sameHooks a b = (handle.hooks == other.hooks) := by
  simp [sameHooks, hooksAt?, ha, hb]

theorem sameHooks_of_none {s : Session} {a b : String}
    (h : Assoc.get? a s.generators = none ∨ Assoc.get? b s.generators = none) :
    s.sameHooks a b = false := by
  rcases h with h | h
  · simp [sameHooks, hooksAt?, h]
  · simp only [sameHooks, hooksAt?, h, Option.map_none]
    cases (Assoc.get? a s.generators).map Handle.hooks <;> rfl

/-- A registry is written for the one generator that refers to it. -/
theorem Sound.generator?_setRegistry {s : Session} (hs : s.Sound) {id : String} {handle : Handle}
    {g : Generator} (hget : Assoc.get? id s.generators = some handle)
    (hfollow : s.follow handle = some g) (registry : Registry) (a : String) :
    ({ s with registries := s.registries.set handle.registry registry } : Session).generator? a =
      if a = id then some { g with registry } else s.generator? a := by
  unfold generator?
  by_cases ha : a = id
  · obtain ⟨hsettings, -, hhooks⟩ := follow_eq_some.mp hfollow
    have hset := List.getElem?_set_self (a := registry) (hs.registry hget)
    rw [if_pos ha, ha, hget]
    exact follow_eq_some.mpr ⟨hsettings, hset, hhooks⟩
  · rw [if_neg ha]
    cases hother : Assoc.get? a s.generators with
    | none => rfl
    | some other =>
      have hapart : handle.registry ≠ other.registry := fun heq =>
        ha (hs.own hget hother heq).symm
      exact follow_congr (List.getElem?_set_ne hapart) rfl

theorem Sound.view_register {s : Session} (hs : s.Sound) (id name type : String) :
    (s.register id name type).1.view = s.view.register id name type := by
  unfold register
  rcases hs.withGenerator_cases id _ with
    ⟨-, hnone, hact⟩ | ⟨handle, g, hget, hfollow, hfound, hact⟩
  · rw [hact]
    refine View.eq_of_forall (fun a => ?_) fun _ _ => rfl
    by_cases ha : a = id <;> simp [view, View.register, refuse, ha, hnone]
  · rw [hact]
    cases hregister : g.register name type with
    | error f =>
      have hkept : g.tryRegister (name, type) = g := by simp [Generator.tryRegister, hregister]
      refine View.eq_of_forall (fun a => ?_) fun _ _ => rfl
      by_cases ha : a = id <;> simp [view, View.register, refuse, ha, hfound, hkept]
    | ok g' =>
      have hmade : g.tryRegister (name, type) = g' := by simp [Generator.tryRegister, hregister]
      have hframe : { g with registry := g'.registry } = g' := by
        rw [← hmade, Generator.tryRegister_registry]
      refine View.eq_of_forall (fun a => ?_) fun _ _ => rfl
      simp only [view, View.register, hs.generator?_setRegistry hget hfollow, hframe]
      by_cases ha : a = id <;> simp [ha, hfound, hmade]

/-- Hooks are written for all generators that refer to them. -/
theorem Sound.view_changeHooks {s : Session} (hs : s.Sound) (id : String)
    (change : Hooks → Hooks) :
    (s.changeHooks id change).1.view = s.view.changeHooks id change := by
  unfold changeHooks
  rcases hs.withGenerator_cases id _ with
    ⟨hnone, -, hact⟩ | ⟨handle, g, hget, hfollow, hfound, hact⟩
  · rw [hact]
    refine View.eq_of_forall (fun a => ?_) fun _ _ => rfl
    simp [view, View.changeHooks, refuse, sameHooks_of_none (.inl hnone)]
  · rw [hact]
    refine View.eq_of_forall (fun a => ?_) fun _ _ => rfl
    simp only [view, View.changeHooks]
    unfold generator?
    cases hother : Assoc.get? a s.generators with
    | none => simp [sameHooks_of_none (.inr hother)]
    | some other =>
      obtain ⟨found, hfound⟩ := hs.exists_generator hother
      obtain ⟨hsettings, hregistry, hhooks⟩ := follow_eq_some.mp hfound
      simp only [Option.bind_some, hfound, sameHooks_of_get? hget hother, Option.map_some]
      by_cases hsame : handle.hooks = other.hooks
      · have hset := List.getElem?_set_self (a := change g.hooks) (hs.hooks hget)
        rw [hsame] at hset
        have hruns : found.hooks = g.hooks := by
          have hkept := (follow_eq_some.mp hfollow).2.2
          rw [hsame, hhooks] at hkept
          exact Option.some.inj hkept
        simp only [hsame, beq_self_eq_true, if_true, hruns]
        exact follow_eq_some.mpr ⟨hsettings, hregistry, hset⟩
      · simp only [beq_iff_eq, hsame, if_false]
        rw [← hfound]
        exact follow_congr rfl (List.getElem?_set_ne hsame)

theorem withDisk_eq (s : Session) (r : Disk × Except FileFault Unit) :
    (s.withDisk r).1 = { s with disk := r.1 } := by
  obtain ⟨disk, _ | ⟨⟩⟩ := r <;> rfl

theorem view_withDisk (s : Session) (r : Disk × Except FileFault Unit) :
    (s.withDisk r).1.view = s.view := by
  rw [withDisk_eq]
  rfl

theorem Sound.setDisk {s : Session} (hs : s.Sound) (disk : Disk) : { s with disk }.Sound :=
  hs.of_eq rfl (Nat.le_refl _) (Nat.le_refl _)

theorem Sound.withGenerator {s : Session} (hs : s.Sound) {id : String}
    {act : Handle → Generator → Reply}
    (hact : ∀ handle g, Assoc.get? id s.generators = some handle → (act handle g).1.Sound) :
    (s.withGenerator id act).1.Sound := by
  rcases hs.withGenerator_cases id act with ⟨-, -, hnone⟩ | ⟨handle, g, hget, -, -, hsome⟩
  · rw [hnone]
    exact hs
  · rw [hsome]
    exact hact handle g hget

theorem Sound.create {s : Session} (hs : s.Sound) (id : String) (draft : Settings.Draft)
    (hooks : Hooks) : (s.create id draft hooks).1.Sound := by
  unfold Session.create
  split
  · exact hs
  · exact (hs.hold hooks).keep id _ (by simp)

theorem Sound.share {s : Session} (hs : s.Sound) (id : String) (draft : Settings.Draft)
    (owner : String) : (s.share id draft owner).1.Sound := by
  unfold Session.share
  split
  · exact hs
  · exact hs.withGenerator fun handle _ hget => hs.keep id _ (hs.hooks hget)

theorem Sound.register {s : Session} (hs : s.Sound) (id name type : String) :
    (s.register id name type).1.Sound := by
  refine hs.withGenerator fun handle g _ => ?_
  split
  · exact hs
  · exact hs.of_eq rfl (by simp) (Nat.le_refl _)

theorem Sound.changeHooks {s : Session} (hs : s.Sound) (id : String) (change : Hooks → Hooks) :
    (s.changeHooks id change).1.Sound :=
  hs.withGenerator fun _ _ _ => hs.of_eq rfl (Nat.le_refl _) (by simp)

theorem Sound.run {s : Session} (hs : s.Sound) (r : Request) : (s.run r).1.Sound := by
  cases r with
  | write path bytes => exact s.withDisk_eq _ ▸ hs.setDisk _
  | makeFolder path => exact s.withDisk_eq _ ▸ hs.setDisk _
  | remove path => exact s.withDisk_eq _ ▸ hs.setDisk _
  | read path => exact hs
  | list => exact hs
  | load path encoding => exact hs
  | create id draft hooks => exact hs.create id draft hooks
  | share id draft owner => exact hs.share id draft owner
  | register id name type => exact hs.register id name type
  | addPre id hook => exact hs.changeHooks id _
  | addPost id hook => exact hs.changeHooks id _
  | render id source => exact hs.withGenerator fun _ _ _ => hs
  | generate id schema output => exact hs.withGenerator fun _ g _ => hs.setDisk _

theorem Sound.view_withGenerator {s : Session} (hs : s.Sound) {id : String}
    {act : Handle → Generator → Reply} (hact : ∀ handle g, (act handle g).1.view = s.view) :
    (s.withGenerator id act).1.view = s.view := by
  rcases hs.withGenerator_cases id act with ⟨-, -, hnone⟩ | ⟨handle, g, -, -, -, hsome⟩
  · rw [hnone, refuse]
  · rw [hsome, hact]

/-- What a request makes of the generators follows from what there is to see of them. -/
theorem Sound.view_run {s : Session} (hs : s.Sound) (r : Request) :
    (s.run r).1.view = r.effect s.view := by
  cases r with
  | write path bytes => exact s.view_withDisk _
  | makeFolder path => exact s.view_withDisk _
  | remove path => exact s.view_withDisk _
  | read path => rfl
  | list => rfl
  | load path encoding => rfl
  | create id draft hooks =>
    simp only [Session.run, Request.effect]
    cases hg : Generator.ofDraft draft hooks with
    | error f => simp only [Session.create, hg, refuse]
    | ok g => exact hs.view_create id hg
  | share id draft owner =>
    simp only [Session.run, Request.effect]
    cases hg : Generator.ofDraft draft with
    | error f => simp only [Session.share, hg, refuse]
    | ok g =>
      cases howner : s.generator? owner with
      | none => simp only [view, howner, Session.share, hg, withGenerator_of_none howner, refuse]
      | some other => simpa only [view, howner] using hs.view_share id owner hg howner
  | register id name type => exact hs.view_register id name type
  | addPre id hook => exact hs.view_changeHooks id _
  | addPost id hook => exact hs.view_changeHooks id _
  | render id source => exact hs.view_withGenerator fun _ _ => rfl
  | generate id schema output => exact hs.view_withGenerator fun _ _ => rfl

example (hook : PreHook) :
    ((({ disk := {} } : Session).runAll [.create "a" {} {}, .share "b" {} "a",
      .addPre "b" hook]).1.generator? "a").map (·.hooks.pre) = some [hook] := rfl

end SchemaFold.Session
