import Mathlib.Logic.Relation
import SchemaFold.Proofs.BlindReading
import SchemaFold.Proofs.JoinedWords

/-! Reading words that others follow. Many parts of a definition are optional, so a reader that has
come to the end of a text might go on if the text did. It does not where the words that follow start
a definition of their own, unless that is a query in braces. -/

namespace SchemaFold

namespace Tokens

/-- Words that can be left once a number of others are taken. -/
abbrev Reaches : Tokens → Tokens → Prop :=
  Relation.ReflTransGen fun ts rest => ts.next = .ok rest

theorem next_cases {ts rest : Tokens} (h : ts.next = .ok rest) :
    (∃ start, ts = .last start ∧ rest = .last start) ∨
      (∃ t, ts = .cons t rest) ∧ rest.checked = .ok rest := by
  cases ts with
  | last start =>
    cases h
    exact .inl ⟨start, rfl, rfl⟩
  | stop e => contradiction
  | cons t mid =>
    cases mid with
    | stop e => contradiction
    | last start =>
      cases h
      exact .inr ⟨⟨t, rfl⟩, rfl⟩
    | cons t' mid =>
      cases h
      exact .inr ⟨⟨t, rfl⟩, rfl⟩

/-- What taking a word keeps, taking many does. -/
theorem Reaches.keeps {P : Tokens → Prop} {ts rest : Tokens} (h : ts.Reaches rest) (hts : P ts)
    (hstep : ∀ t rest, rest.checked = .ok rest → P (.cons t rest) → P rest) : P rest := by
  induction h with
  | refl => exact hts
  | tail _ hnext ih =>
    rcases next_cases hnext with ⟨start, rfl, rfl⟩ | ⟨⟨t, rfl⟩, hrest⟩
    · exact ih
    · exact hstep t _ hrest ih

theorem Reaches.size_le {ts rest : Tokens} (h : ts.Reaches rest) : rest.size ≤ ts.size :=
  h.keeps (P := fun us => us.size ≤ ts.size) (Nat.le_refl _) fun _ _ _ => Nat.le_of_succ_le

theorem Reaches.whole {ts rest : Tokens} (h : ts.Reaches rest) (hts : ts.Whole) : rest.Whole :=
  h.keeps hts fun _ _ _ => And.right

theorem lexeme_followedBy {ts : Tokens} (h : 1 ≤ ts.size) (us : Tokens) :
    (ts.followedBy us).lexeme = ts.lexeme := by
  cases ts with
  | cons t rest => rfl
  | _ => contradiction

theorem Whole.eq_last {ts : Tokens} (h : ts.Whole) (hsize : ¬1 ≤ ts.size) :
    ∃ start, ts = .last start := by
  cases ts with
  | last start => exact ⟨start, rfl⟩
  | stop e => exact h.elim
  | cons t rest => exact absurd (Nat.succ_le_succ (Nat.zero_le _)) hsize

theorem checked_followedBy {ts us : Tokens} (h : ts.Whole) (hus : us.checked = .ok us) :
    (ts.followedBy us).checked = .ok (ts.followedBy us) := by
  cases ts with
  | last start => exact hus
  | stop e => exact h.elim
  | cons t rest => rfl

theorem next_followedBy {ts rest us : Tokens} (h : ts.Whole) (hus : us.checked = .ok us)
    (hsize : 1 ≤ ts.size) (hnext : ts.next = .ok rest) :
    (ts.followedBy us).next = .ok (rest.followedBy us) := by
  rcases next_cases hnext with ⟨start, rfl, rfl⟩ | ⟨⟨t, rfl⟩, -⟩
  · contradiction
  · exact checked_followedBy h.2 hus

/-- The names that introduce an optional part of a definition or of a selection. -/
def continuations : List String :=
  ["implements", "repeatable", "on"]

/-- Words that do not continue a definition that may be over before them. -/
structure StartsAnew (us : Tokens) : Prop where
  readable : us.checked = .ok us
  noPunctuator : ∀ p, us.lexeme ≠ .punctuator p
  noKeyword : ∀ word ∈ continuations, Parser.isKeyword word us.lexeme = false

end Tokens

namespace Parser

/-- What holds where words are read that `us` follow: the numbers of words that the readers of the
shorter and of the longer text are told. -/
structure Joint (us : Tokens) (n n' : Nat) (ts : Tokens) : Prop where
  startsAnew : us.StartsAnew
  whole : ts.Whole
  fits : ts.size ≤ n
  grows : n ≤ n'

theorem Joint.reaches {us ts rest : Tokens} {n n' : Nat} (h : Joint us n n' ts)
    (hrest : ts.Reaches rest) : Joint us n n' rest where
  startsAnew := h.startsAnew
  whole := hrest.whole h.whole
  fits := hrest.size_le.trans h.fits
  grows := h.grows

/-- A reader takes words from the front. -/
def Moves {α : Type} (p : Parser α) : Prop :=
  ∀ ⦃n : Nat⦄ ⦃ts rest : Tokens⦄ ⦃a : α⦄, p n ts = .ok (a, rest) → ts.Reaches rest

/-- Where `p` succeeds and at least so many words are left, it does the same, and takes no more, if
others follow that start anew. -/
structure Closed {α : Type} (least : Nat) (p : Parser α) : Prop where
  moves : Moves p
  same : ∀ {us ts rest : Tokens} {n n' : Nat} {a : α}, Joint us n n' ts → least ≤ ts.size →
    p n ts = .ok (a, rest) → p n' (ts.followedBy us) = .ok (a, rest.followedBy us)

/-- Moreover, `p` takes a word at least. -/
structure Firm {α : Type} (least : Nat) (p : Parser α) : Prop extends Closed least p where
  takes : ∀ {n : Nat} {ts rest : Tokens} {a : α}, least ≤ ts.size → p n ts = .ok (a, rest) →
    rest.size < ts.size

def Fails {α : Type} (p : Parser α) : Prop :=
  ∀ n ts, ∃ e, p n ts = .error e

theorem Fails.ne_ok {α : Type} {p : Parser α} (h : Fails p) {n : Nat} {ts : Tokens}
    {x : α × Tokens} : p n ts ≠ .ok x := by
  obtain ⟨e, he⟩ := h n ts
  simp [he]

theorem Fails.bind {α β : Type} {p : Parser α} {f : α → Parser β} (hf : ∀ a, Fails (f a)) :
    Fails (p >>= f) := by
  intro n ts
  have hrun : (p >>= f) n ts = p n ts >>= fun x => f x.1 n x.2 := rfl
  rw [hrun]
  cases p n ts with
  | error e => exact ⟨e, rfl⟩
  | ok x => exact hf x.1 n x.2

theorem Fails.moves {α : Type} {p : Parser α} (h : Fails p) : Moves p :=
  fun _ _ _ _ hp => absurd hp h.ne_ok

theorem Fails.firm {α : Type} {p : Parser α} (h : Fails p) {least : Nat} : Firm least p where
  moves := h.moves
  same _ _ hp := absurd hp h.ne_ok
  takes _ hp := absurd hp h.ne_ok

section Rules

variable {α β : Type} {least : Nat} {p q : Parser α} {f : α → Parser β}

theorem Moves.pure (a : α) : Moves (pure a : Parser α) := by
  intro n ts rest b h
  cases h
  exact .refl

theorem Moves.bind (hp : Moves p) (hf : ∀ a, Moves (f a)) : Moves (p >>= f) := by
  intro n ts rest b h
  obtain ⟨⟨a, mid⟩, ha, hb⟩ := bind_eq_ok.mp h
  exact (hp ha).trans (hf a hb)

theorem Moves.ite {c : Prop} [Decidable c] (hp : Moves p) (hq : Moves q) :
    Moves (if c then p else q) := by
  split <;> assumption

theorem Closed.pure (a : α) : Closed least (pure a : Parser α) where
  moves := .pure a
  same _ _ h := by
    cases h
    rfl

theorem Closed.weaken (h : Closed 0 p) : Closed least p where
  moves := h.moves
  same hjoint _ := h.same hjoint (Nat.zero_le _)

theorem Firm.weaken (h : Firm 0 p) : Firm least p where
  toClosed := h.toClosed.weaken
  takes _ := h.takes (Nat.zero_le _)

theorem Closed.bind (hp : Closed least p) (hf : ∀ a, Closed 0 (f a)) :
    Closed least (p >>= f) where
  moves := hp.moves.bind fun a => (hf a).moves
  same hjoint hleast h := by
    obtain ⟨⟨a, mid⟩, ha, hb⟩ := bind_eq_ok.mp h
    have hmid := hjoint.reaches (hp.moves ha)
    exact bind_eq_ok.mpr
      ⟨_, hp.same hjoint hleast ha, (hf a).same hmid (Nat.zero_le _) hb⟩

theorem Firm.bind (hp : Firm least p) (hf : ∀ a, Closed 0 (f a)) : Firm least (p >>= f) where
  toClosed := hp.toClosed.bind hf
  takes hleast h := by
    obtain ⟨⟨a, mid⟩, ha, hb⟩ := bind_eq_ok.mp h
    exact ((hf a).moves hb).size_le.trans_lt (hp.takes hleast ha)

/-- A reader that takes a word fails at the end, so the one before it may be disturbed there. -/
theorem Firm.after (hp : Closed 1 p) (hf : ∀ a, Firm 0 (f a)) : Firm least (p >>= f) where
  moves := hp.moves.bind fun a => (hf a).moves
  same hjoint _ h := by
    obtain ⟨⟨a, mid⟩, ha, hb⟩ := bind_eq_ok.mp h
    have hreach := hp.moves ha
    have htakes := (hf a).takes (Nat.zero_le _) hb
    have hsize := hreach.size_le
    exact bind_eq_ok.mpr ⟨_, hp.same hjoint (by omega) ha,
      (hf a).same (hjoint.reaches hreach) (Nat.zero_le _) hb⟩
  takes _ h := by
    obtain ⟨⟨a, mid⟩, ha, hb⟩ := bind_eq_ok.mp h
    exact ((hf a).takes (Nat.zero_le _) hb).trans_le (hp.moves ha).size_le

theorem Closed.ite {c : Prop} [Decidable c] (hp : Closed least p) (hq : Closed least q) :
    Closed least (if c then p else q) := by
  split <;> assumption

theorem Firm.ite {c : Prop} [Decidable c] (hp : Firm least p) (hq : Firm least q) :
    Firm least (if c then p else q) := by
  split <;> assumption

theorem Closed.peek_bind {f : Lexeme → Parser α} (hf : ∀ l, Closed 1 (f l)) :
    Closed 1 (peek >>= f) where
  moves n ts rest a h := (hf ts.lexeme).moves h
  same {us ts rest n n' a} hjoint hleast h := by
    have hrun : (peek >>= f) n' (ts.followedBy us) =
        f (ts.followedBy us).lexeme n' (ts.followedBy us) := rfl
    rw [hrun, Tokens.lexeme_followedBy hleast]
    exact (hf ts.lexeme).same hjoint hleast h

/-- The word that decides is none at the end, where the reader goes on as it would before words
that start anew. -/
theorem Closed.peek_ite {c : Lexeme → Prop} [DecidablePred c] (hp : Closed 1 p) (hq : Closed 0 q)
    (hend : ¬c .eof) (hc : ∀ us : Tokens, us.StartsAnew → ¬c us.lexeme) :
    Closed 0 (peek >>= fun l => if c l then p else q) where
  moves := (Closed.peek_bind fun _ => .ite hp hq.weaken).moves
  same {us ts rest n n' a} hjoint _ h := by
    by_cases hsize : 1 ≤ ts.size
    · exact (Closed.peek_bind fun _ => .ite hp hq.weaken).same hjoint hsize h
    · obtain ⟨start, rfl⟩ := hjoint.whole.eq_last hsize
      have hleft : q n (.last start) = .ok (a, rest) := by
        have hrun : (if c .eof then p else q) n (.last start) = .ok (a, rest) := h
        rwa [if_neg hend] at hrun
      have hright : (if c us.lexeme then p else q) n' us = .ok (a, rest.followedBy us) := by
        rw [if_neg (hc us hjoint.startsAnew)]
        exact hq.same hjoint (Nat.zero_le _) hleft
      exact hright

theorem Firm.peek_bind {f : Lexeme → Parser α} (hf : ∀ l, Firm 1 (f l)) (hend : Fails (f .eof)) :
    Firm 0 (peek >>= f) := by
  have hclosed : Closed 1 (peek >>= f) := .peek_bind fun l => (hf l).toClosed
  have hsize : ∀ {n : Nat} {ts rest : Tokens} {a : α}, (peek >>= f) n ts = .ok (a, rest) →
      1 ≤ ts.size := by
    intro n ts rest a h
    cases ts with
    | cons t rest => exact Nat.succ_le_succ (Nat.zero_le _)
    | last start => exact absurd h hend.ne_ok
    | stop e => exact absurd h hend.ne_ok
  exact
    { moves := hclosed.moves
      same := fun hjoint _ h => hclosed.same hjoint (hsize h) h
      takes := fun {n ts rest a} _ h => (hf ts.lexeme).takes (hsize h) h }

end Rules

theorem closed_peek : Closed 1 peek :=
  .peek_bind fun l => .pure l

theorem firm_advance : Firm 1 advance where
  moves _ _ _ _ h := .single (advance_eq_ok.mp h)
  same hjoint hleast h :=
    advance_eq_ok.mpr (Tokens.next_followedBy hjoint.whole hjoint.startsAnew.readable hleast
      (advance_eq_ok.mp h))
  takes hleast h := by
    rcases Tokens.next_cases (advance_eq_ok.mp h) with ⟨start, rfl, rfl⟩ | ⟨⟨t, rfl⟩, -⟩
    · contradiction
    · exact Nat.lt_succ_self _

/-- Each word that is sure to be taken leaves one fewer to be asked for. -/
theorem Firm.advance_bind {α : Type} {least : Nat} {f : Unit → Parser α}
    (hf : Closed least (f ())) : Firm (least + 1) (advance >>= f) where
  moves := firm_advance.moves.bind fun _ => hf.moves
  same hjoint hleast h := by
    obtain ⟨⟨a, mid⟩, ha, hb⟩ := bind_eq_ok.mp h
    have hfirst := firm_advance.same hjoint (by omega) ha
    have hmid := hjoint.reaches (firm_advance.moves ha)
    rcases Tokens.next_cases (advance_eq_ok.mp ha) with ⟨start, rfl, rfl⟩ | ⟨⟨t, rfl⟩, -⟩
    · contradiction
    · exact bind_eq_ok.mpr ⟨_, hfirst, hf.same hmid (Nat.le_of_succ_le_succ hleast) hb⟩
  takes hleast h := by
    obtain ⟨⟨a, mid⟩, ha, hb⟩ := bind_eq_ok.mp h
    exact (hf.moves hb).size_le.trans_lt (firm_advance.takes (by omega) ha)

theorem fails_throw {α : Type} (e : SyntaxError) : Fails (throw e : Parser α) :=
  fun _ _ => ⟨e, rfl⟩

theorem fails_failHere {α : Type} (cause : SyntaxError.Cause) :
    Fails (failHere cause : Parser α) :=
  fun _ ts => ⟨⟨cause, ts.start⟩, rfl⟩

theorem fails_unexpected {α : Type} : Fails (unexpected : Parser α) :=
  .bind fun _ => fails_failHere _

theorem fails_expected {α : Type} (wanted : SyntaxError.Wanted) :
    Fails (expected wanted : Parser α) :=
  .bind fun _ => fails_failHere _

theorem firm_expect (p : Punctuator) : Firm 0 (expect p) :=
  .peek_bind (fun _ => .ite firm_advance (fails_expected _).firm) (fails_expected _)

theorem firm_expectKeyword (word : String) : Firm 0 (expectKeyword word) :=
  .peek_bind (fun _ => .ite firm_advance (fails_expected _).firm) (fails_expected _)

theorem closed_accept (p : Punctuator) : Closed 0 (accept p) :=
  .peek_ite (firm_advance.bind fun _ => .pure true).toClosed (.pure false) (by simp)
    fun _ hus => hus.noPunctuator p

theorem closed_acceptKeyword {word : String} (h : word ∈ Tokens.continuations) :
    Closed 0 (acceptKeyword word) :=
  .peek_ite (firm_advance.bind fun _ => .pure true).toClosed (.pure false) (by simp [isKeyword])
    fun us hus => by simp [hus.noKeyword word h]

theorem firm_name : Firm 0 name := by
  refine .peek_bind (fun l => ?_) (fails_expected _)
  cases l with
  | name n => exact firm_advance.bind fun _ => .pure n
  | _ => exact (fails_expected _).firm

theorem closed_bound {α : Type} {loop : Nat → Parser α} (hmoves : ∀ m, Moves (loop m))
    (hsame : ∀ {us ts rest : Tokens} {m k n n' : Nat} {a : α}, Joint us n n' ts → ts.size < m →
      m ≤ k → loop m n ts = .ok (a, rest) →
      loop k n' (ts.followedBy us) = .ok (a, rest.followedBy us)) :
    Closed 0 (bound >>= loop) where
  moves n _ _ _ h := hmoves (n + 1) h
  same hjoint _ h :=
    hsame hjoint (Nat.lt_succ_of_le hjoint.fits) (Nat.succ_le_succ hjoint.grows) h

theorem closed_bound_bind {α β : Type} {loop : Nat → Parser α} {f : α → Parser β}
    (hloop : Closed 0 (bound >>= loop)) (hf : ∀ a, Closed 0 (f a)) :
    Closed 0 (bound >>= fun m => loop m >>= f) := by
  have h := hloop.bind hf
  rwa [bind_assoc] at h

theorem moves_itemsUntil {α : Type} (close : Punctuator) {item : Parser α} (h : Moves item)
    (m : Nat) : Moves (itemsUntil close item m) := by
  induction m with
  | zero => exact fails_unexpected.moves
  | succ m ih =>
    exact .bind (closed_accept close).moves fun _ =>
      .ite (.pure []) (.bind h fun _ => .bind ih fun _ => .pure _)

theorem itemsUntil_same {α : Type} {close : Punctuator} {item : Parser α} (h : Closed 0 item)
    {us ts rest : Tokens} {m k n n' : Nat} {as : List α} (hjoint : Joint us n n' ts)
    (hm : m ≤ k) (hrun : itemsUntil close item m n ts = .ok (as, rest)) :
    itemsUntil close item k n' (ts.followedBy us) = .ok (as, rest.followedBy us) := by
  induction m generalizing k ts as with
  | zero => exact absurd hrun fails_unexpected.ne_ok
  | succ m ih =>
    obtain ⟨j, rfl⟩ := Nat.exists_eq_add_of_le' hm
    obtain ⟨⟨ended, mid⟩, hended, hrun⟩ := bind_eq_ok.mp hrun
    have hended' := (closed_accept close).same hjoint (Nat.zero_le _) hended
    have hmid := hjoint.reaches ((closed_accept close).moves hended)
    refine bind_eq_ok.mpr ⟨_, hended', ?_⟩
    cases ended with
    | true =>
      cases hrun
      rfl
    | false =>
      obtain ⟨⟨first, mid'⟩, hfirst, hrun⟩ := bind_eq_ok.mp hrun
      obtain ⟨⟨others, last⟩, hothers, hresult⟩ := bind_eq_ok.mp hrun
      cases hresult
      have hfirst' := h.same hmid (Nat.zero_le _) hfirst
      have hothers' := ih (k := j + m) (hmid.reaches (h.moves hfirst)) (Nat.le_add_left m j) hothers
      exact bind_eq_ok.mpr ⟨_, hfirst', bind_eq_ok.mpr ⟨_, hothers', rfl⟩⟩

theorem closed_itemsUntil {α : Type} (close : Punctuator) {item : Parser α} (h : Closed 0 item) :
    Closed 0 (bound >>= itemsUntil close item) :=
  closed_bound (moves_itemsUntil close h.moves) fun hjoint _ hm hrun =>
    itemsUntil_same h hjoint hm hrun

theorem firm_enclosed {α : Type} (opening close : Punctuator) {item : Parser α}
    (h : Closed 0 item) : Firm 0 (enclosed opening close item) :=
  (firm_expect opening).bind fun _ => closed_itemsUntil close h

theorem firm_enclosedSome {α : Type} (opening close : Punctuator) {item : Parser α}
    (h : Closed 0 item) : Firm 0 (enclosedSome opening close item) :=
  (firm_expect opening).bind fun _ => h.bind fun _ =>
    closed_bound_bind (closed_itemsUntil close h) fun _ => .pure _

theorem closed_enclosedOptional {α : Type} (opening close : Punctuator) {item : Parser α}
    (h : Closed 0 item) : Closed 0 (enclosedOptional opening close item) :=
  .peek_ite (firm_enclosedSome opening close h).toClosed.weaken (.pure []) (by simp)
    fun _ hus => hus.noPunctuator opening

theorem accept_takes {p : Punctuator} {n : Nat} {ts rest : Tokens}
    (h : accept p n ts = .ok (true, rest)) : rest.size < ts.size := by
  have hrun : (if ts.lexeme = .punctuator p then advance >>= fun _ => pure true
      else pure false : Parser Bool) n ts = .ok (true, rest) := h
  split at hrun
  · rename_i hword
    obtain ⟨⟨u, mid⟩, hmid, hresult⟩ := bind_eq_ok.mp hrun
    cases hresult
    cases ts with
    | cons t ts => exact firm_advance.takes (Nat.succ_le_succ (Nat.zero_le _)) hmid
    | _ => simp [Tokens.lexeme] at hword
  · cases hrun

theorem moves_separatedRest {α : Type} (separator : Punctuator) {item : Parser α} (h : Moves item)
    (m : Nat) : Moves (separatedRest separator item m) := by
  induction m with
  | zero => exact .pure []
  | succ m ih =>
    exact .bind (closed_accept separator).moves fun _ =>
      .ite (.bind h fun _ => .bind ih fun _ => .pure _) (.pure [])

/-- Every separator is a word, so the loop comes to an end before its bound does. -/
theorem separatedRest_same {α : Type} {separator : Punctuator} {item : Parser α}
    (h : Closed 0 item) {us ts rest : Tokens} {m k n n' : Nat} {as : List α}
    (hjoint : Joint us n n' ts) (hsize : ts.size < m) (hm : m ≤ k)
    (hrun : separatedRest separator item m n ts = .ok (as, rest)) :
    separatedRest separator item k n' (ts.followedBy us) = .ok (as, rest.followedBy us) := by
  induction m generalizing k ts as with
  | zero => contradiction
  | succ m ih =>
    obtain ⟨j, rfl⟩ := Nat.exists_eq_add_of_le' hm
    obtain ⟨⟨more, mid⟩, hmore, hrun⟩ := bind_eq_ok.mp hrun
    have hmore' := (closed_accept separator).same hjoint (Nat.zero_le _) hmore
    have hmid := hjoint.reaches ((closed_accept separator).moves hmore)
    refine bind_eq_ok.mpr ⟨_, hmore', ?_⟩
    cases more with
    | false =>
      cases hrun
      rfl
    | true =>
      obtain ⟨⟨first, mid'⟩, hfirst, hrun⟩ := bind_eq_ok.mp hrun
      obtain ⟨⟨others, last⟩, hothers, hresult⟩ := bind_eq_ok.mp hrun
      cases hresult
      have hfirst' := h.same hmid (Nat.zero_le _) hfirst
      -- The separator was taken, so the bound still exceeds what is left.
      have hsize' : mid'.size < m := by
        have htaken := accept_takes hmore
        have hleft := (h.moves hfirst).size_le
        omega
      have hothers' := ih (k := j + m) (hmid.reaches (h.moves hfirst)) hsize'
        (Nat.le_add_left m j) hothers
      exact bind_eq_ok.mpr ⟨_, hfirst', bind_eq_ok.mpr ⟨_, hothers', rfl⟩⟩

theorem closed_separatedRest {α : Type} (separator : Punctuator) {item : Parser α}
    (h : Closed 0 item) : Closed 0 (bound >>= separatedRest separator item) :=
  closed_bound (moves_separatedRest separator h.moves) (separatedRest_same h)

theorem closed_separated {α : Type} (separator : Punctuator) {item : Parser α}
    (h : Closed 0 item) : Closed 0 (separated separator item) :=
  (closed_accept separator).bind fun _ => h.bind fun _ =>
    closed_bound_bind (closed_separatedRest separator h) fun _ => .pure _

end Parser
end SchemaFold
