import SchemaFold.Proofs.JoinedReading

/-! The readers of a document, from values to definitions, where other words follow. What ends in an
optional part takes nothing of words that start anew, and what looks at a word ahead finds the
same one. -/

namespace SchemaFold

namespace Parser

theorem firm_variableName : Firm 0 variableName :=
  (firm_expect .dollar).bind fun _ => firm_name.toClosed

theorem fails_refusedVariable {α : Type} : Fails (refusedVariable : Parser α) := by
  refine .bind fun _ => .bind fun _ => .bind fun l => ?_
  cases l with
  | name v => exact fails_throw _
  | _ => exact fails_throw _

theorem firm_literalWith (constant : Bool) {listed braced : Parser Literal}
    (hlisted : Firm 0 listed) (hbraced : Firm 0 braced) :
    Firm 0 (literalWith constant listed braced) := by
  refine .peek_bind (fun l => ?_) fails_unexpected
  split
  · exact hlisted.weaken
  · exact hbraced.weaken
  · exact firm_advance.bind fun _ => .pure _
  · exact firm_advance.bind fun _ => .pure _
  · exact firm_advance.bind fun _ => .pure _
  · exact firm_advance.bind fun _ => .pure _
  · exact firm_advance.bind fun _ => .pure _
  · exact .ite fails_refusedVariable.firm (firm_variableName.bind fun _ => .pure _).weaken
  · exact fails_unexpected.firm

theorem closed_objectField {value : Parser Literal} (h : Closed 0 value) :
    Closed 0 (objectField value) :=
  firm_name.toClosed.bind fun _ => (firm_expect .colon).toClosed.bind fun _ => h.bind fun _ =>
    .pure _

theorem firm_literal (constant : Bool) (levels : Nat) : Firm 0 (literal constant levels) := by
  induction levels with
  | zero =>
    rw [literal_zero]
    exact firm_literalWith constant (fails_failHere _).firm (fails_failHere _).firm
  | succ levels ih =>
    rw [literal_succ]
    exact firm_literalWith constant
      ((firm_enclosed _ _ ih.toClosed).bind fun _ => .pure _)
      ((firm_enclosed _ _ (closed_objectField ih.toClosed)).bind fun _ => .pure _)

theorem closed_argument (constant : Bool) (levels : Nat) : Closed 0 (argument constant levels) :=
  firm_name.toClosed.bind fun _ => (firm_expect .colon).toClosed.bind fun _ =>
    (firm_literal constant levels).toClosed.bind fun _ => .pure _

theorem closed_arguments (constant : Bool) (levels : Nat) : Closed 0 (arguments constant levels) :=
  closed_enclosedOptional _ _ (closed_argument constant levels)

/-- A directive after its mark. -/
def directive (constant : Bool) (levels : Nat) : Parser Directive :=
  return ⟨← name, ← arguments constant levels⟩

theorem directivesRest_eq (constant : Bool) (levels m : Nat) :
    directivesRest constant levels m = separatedRest .atSign (directive constant levels) m := by
  induction m with
  | zero => rfl
  | succ m ih => simp only [directivesRest, separatedRest, directive, bind_assoc, pure_bind, ih]

theorem closed_directives (constant : Bool) (levels : Nat) :
    Closed 0 (directives constant levels) := by
  have hloop : directivesRest constant levels = separatedRest .atSign (directive constant levels) :=
    funext (directivesRest_eq constant levels)
  unfold directives
  rw [hloop]
  exact closed_separatedRest _ (firm_name.toClosed.bind fun _ =>
    (closed_arguments constant levels).bind fun _ => .pure _)

theorem closed_required : Closed 0 required :=
  closed_accept .bang

theorem closed_typeRef (levels : Nat) : Closed 0 (typeRef levels) := by
  have hnamed : Closed 0 (do let n ← name; return .named n (← required) : Parser TypeRef) :=
    firm_name.toClosed.bind fun _ => closed_required.bind fun _ => .pure _
  induction levels with
  | zero =>
    exact (closed_accept .bracketLeft).bind fun _ => .ite (fails_failHere _).firm.toClosed hnamed
  | succ levels ih =>
    exact (closed_accept .bracketLeft).bind fun _ =>
      .ite (ih.bind fun _ => (firm_expect .bracketRight).toClosed.bind fun _ =>
        closed_required.bind fun _ => .pure _) hnamed

theorem firm_fragmentName : Firm 0 fragmentName :=
  .after closed_peek fun _ => .ite fails_unexpected.firm firm_name

theorem closed_selectionField (levels : Nat) {nested : Parser (List Selection)}
    (h : Closed 0 nested) : Closed 0 (selectionField levels nested) := by
  refine firm_name.toClosed.bind fun first => (closed_accept .colon).bind fun labelled => ?_
  have hrest : ∀ fieldName label, Closed 0 (do
      let arguments ← arguments false levels
      let directives ← directives false levels
      let selections ← if (← peek) = .punctuator .braceLeft then nested else pure []
      return .field label fieldName arguments directives selections : Parser Selection) :=
    fun _ _ => (closed_arguments false levels).bind fun _ =>
      (closed_directives false levels).bind fun _ =>
        .peek_ite (h.bind fun _ => .pure _).weaken ((Closed.pure []).bind fun _ => .pure _)
          (by simp) fun _ hus => hus.noPunctuator .braceLeft
  exact .ite (firm_name.toClosed.bind fun _ => hrest _ _)
    ((Closed.pure first).bind fun _ => hrest _ _)

theorem closed_selectionSpread (levels : Nat) {nested : Parser (List Selection)}
    (h : Firm 0 nested) : Closed 0 (selectionSpread levels nested) := by
  have hdirectives := closed_directives false levels
  have hnested : ∀ onType, Firm 0 (do
      let directives ← directives false levels
      return .inline onType directives (← nested) : Parser Selection) :=
    fun _ => .after hdirectives.weaken fun _ => h.bind fun _ => .pure _
  refine (firm_expect .spread).toClosed.bind fun _ =>
    (closed_acceptKeyword (by decide)).bind fun _ => ?_
  refine .ite (firm_name.toClosed.bind fun _ => (hnested _).toClosed) ?_
  refine (Firm.after closed_peek fun l => ?_).toClosed
  cases l with
  | name _ => exact firm_fragmentName.bind fun _ => hdirectives.bind fun _ => .pure _
  | _ => exact hnested none

theorem closed_selection (levels : Nat) {nested : Parser (List Selection)} (h : Firm 0 nested) :
    Closed 0 (selection levels nested) :=
  .peek_ite (closed_selectionSpread levels h).weaken (closed_selectionField levels h.toClosed)
    (by simp) fun _ hus => hus.noPunctuator .spread

theorem firm_selectionSet (levels : Nat) : Firm 0 (selectionSet levels) := by
  induction levels with
  | zero => exact (fails_failHere _).firm
  | succ levels ih => exact firm_enclosedSome _ _ (closed_selection levels ih)

theorem closed_description : Closed 1 description := by
  refine .peek_bind fun l => ?_
  cases l with
  | string value => exact (firm_advance.bind fun _ => .pure _).toClosed
  | blockString value => exact (firm_advance.bind fun _ => .pure _).toClosed
  | _ => exact .pure none

theorem oneOf_eq_ok {α : Type} {choose : Name → Option α} {n : Nat} {ts rest : Tokens} {a : α} :
    oneOf choose n ts = .ok (a, rest) ↔
      ∃ word, name n ts = .ok (word, rest) ∧ choose word = some a := by
  constructor
  · intro h
    obtain ⟨⟨word, mid⟩, hword, h⟩ := bind_eq_ok.mp h
    simp only at h
    cases hchoose : choose word with
    | none =>
      rw [hchoose] at h
      exact absurd h (fails_throw _).ne_ok
    | some b =>
      rw [hchoose] at h
      cases h
      exact ⟨word, hword, hchoose⟩
  · rintro ⟨word, hword, hchoose⟩
    refine bind_eq_ok.mpr ⟨(word, rest), hword, ?_⟩
    simp only [hchoose]
    rfl

theorem firm_oneOf {α : Type} (choose : Name → Option α) : Firm 0 (oneOf choose) where
  moves _ _ _ _ h := by
    obtain ⟨word, hword, -⟩ := oneOf_eq_ok.mp h
    exact firm_name.moves hword
  same hjoint hleast h := by
    obtain ⟨word, hword, hchoose⟩ := oneOf_eq_ok.mp h
    exact oneOf_eq_ok.mpr ⟨word, firm_name.same hjoint hleast hword, hchoose⟩
  takes hleast h := by
    obtain ⟨word, hword, -⟩ := oneOf_eq_ok.mp h
    exact firm_name.takes hleast hword

theorem firm_operationKind : Firm 0 operationKind :=
  firm_oneOf _

theorem closed_defaultValue : Closed 0 defaultValue :=
  (closed_accept .equals).bind fun _ =>
    .ite ((firm_literal true maxDepth).toClosed.bind fun _ => .pure _) (.pure none)

theorem closed_constDirectives : Closed 0 constDirectives :=
  closed_directives true maxDepth

theorem firm_variableDefinition : Firm 0 variableDefinition :=
  .after closed_description fun _ => firm_variableName.bind fun _ =>
    (firm_expect .colon).toClosed.bind fun _ => (closed_typeRef maxDepth).bind fun _ =>
      closed_defaultValue.bind fun _ => closed_constDirectives.bind fun _ => .pure _

theorem firm_shorthandQuery : Firm 0 shorthandQuery :=
  (firm_selectionSet maxDepth).bind fun _ => .pure _

theorem closed_optionalName : Closed 1 optionalName := by
  refine .peek_bind fun l => ?_
  cases l with
  | name n => exact (firm_advance.bind fun _ => .pure _).toClosed
  | _ => exact .pure none

theorem firm_operation : Firm 0 operation := by
  have hselections : ∀ f : List Selection → Definition,
      Firm 0 (do let selections ← selectionSet maxDepth; return f selections : Parser Definition) :=
    fun _ => (firm_selectionSet maxDepth).bind fun _ => .pure _
  have hparameters := closed_enclosedOptional .parenLeft .parenRight
    firm_variableDefinition.toClosed
  -- A selection set is sure to follow, so that what stands before it may be optional.
  exact .after closed_description fun _ => .after firm_operationKind.toClosed.weaken fun _ =>
    .after closed_optionalName fun _ => .after hparameters.weaken fun _ =>
      .after (closed_directives false maxDepth).weaken fun _ => hselections _

theorem firm_fragment : Firm 0 fragment :=
  .after closed_description fun _ => (firm_expectKeyword "fragment").bind fun _ =>
    firm_fragmentName.toClosed.bind fun _ => (firm_expectKeyword "on").toClosed.bind fun _ =>
      firm_name.toClosed.bind fun _ => (closed_directives false maxDepth).bind fun _ =>
        (firm_selectionSet maxDepth).toClosed.bind fun _ => .pure _

theorem firm_inputValue : Firm 0 inputValue :=
  .after closed_description fun _ => firm_name.bind fun _ =>
    (firm_expect .colon).toClosed.bind fun _ => (closed_typeRef maxDepth).bind fun _ =>
      closed_defaultValue.bind fun _ => closed_constDirectives.bind fun _ => .pure _

theorem firm_fieldDefinition : Firm 0 fieldDefinition :=
  .after closed_description fun _ => firm_name.bind fun _ =>
    (closed_enclosedOptional _ _ firm_inputValue.toClosed).bind fun _ =>
      (firm_expect .colon).toClosed.bind fun _ => (closed_typeRef maxDepth).bind fun _ =>
        closed_constDirectives.bind fun _ => .pure _

theorem firm_enumValueName : Firm 0 enumValueName :=
  .after closed_peek fun _ => .ite (fails_failHere _).firm firm_name

theorem firm_enumValue : Firm 0 enumValue :=
  .after closed_description fun _ => firm_enumValueName.bind fun _ =>
    closed_constDirectives.bind fun _ => .pure _

theorem closed_operationType : Closed 0 operationType :=
  firm_operationKind.toClosed.bind fun _ => (firm_expect .colon).toClosed.bind fun _ =>
    firm_name.toClosed.bind fun _ => .pure _

theorem closed_implementedInterfaces : Closed 0 implementedInterfaces :=
  (closed_acceptKeyword (by decide)).bind fun _ =>
    .ite (closed_separated .ampersand firm_name.toClosed) (.pure [])

theorem closed_unionMembers : Closed 0 unionMembers :=
  (closed_accept .equals).bind fun _ =>
    .ite (closed_separated .pipe firm_name.toClosed) (.pure [])

theorem closed_fieldDefinitions : Closed 0 fieldDefinitions :=
  closed_enclosedOptional _ _ firm_fieldDefinition.toClosed

theorem closed_typeBody (sort : TypeSort) : Closed 0 (typeBody sort) := by
  have hfields : ∀ body : List Name → List FieldDefinition → TypeBody,
      Closed 0 (do
        let interfaces ← implementedInterfaces
        let directives ← constDirectives
        return (directives, body interfaces (← fieldDefinitions))) :=
    fun _ => closed_implementedInterfaces.bind fun _ => closed_constDirectives.bind fun _ =>
      closed_fieldDefinitions.bind fun _ => .pure _
  cases sort with
  | scalar => exact closed_constDirectives.bind fun _ => .pure _
  | object => exact hfields .object
  | interface => exact hfields .interface
  | union =>
    exact closed_constDirectives.bind fun _ => closed_unionMembers.bind fun _ => .pure _
  | enum =>
    exact closed_constDirectives.bind fun _ =>
      (closed_enclosedOptional _ _ firm_enumValue.toClosed).bind fun _ => .pure _
  | input =>
    exact closed_constDirectives.bind fun _ =>
      (closed_enclosedOptional _ _ firm_inputValue.toClosed).bind fun _ => .pure _

theorem firm_typeDefinition (sort : TypeSort) : Firm 0 (typeDefinition sort) :=
  .after closed_description fun _ => .after firm_advance.toClosed fun _ => firm_name.bind fun _ =>
    (closed_typeBody sort).bind fun _ => .pure _

theorem firm_schemaDefinition : Firm 0 schemaDefinition :=
  .after closed_description fun _ => .after firm_advance.toClosed fun _ =>
    .after closed_constDirectives.weaken fun _ =>
      (firm_enclosedSome _ _ closed_operationType).bind fun _ => .pure _

theorem firm_directiveDefinition : Firm 0 directiveDefinition :=
  .after closed_description fun _ => .after firm_advance.toClosed fun _ =>
    (firm_expect .atSign).bind fun _ => firm_name.toClosed.bind fun _ =>
      (closed_enclosedOptional _ _ firm_inputValue.toClosed).bind fun _ =>
        (closed_acceptKeyword (by decide)).bind fun _ =>
          (firm_expectKeyword "on").toClosed.bind fun _ =>
            (closed_separated .pipe (firm_oneOf _).toClosed).bind fun _ => .pure _

theorem firm_typeExtension (sort : TypeSort) : Firm 2 (typeExtension sort) :=
  .after firm_advance.toClosed fun _ => .after firm_advance.toClosed fun _ =>
    firm_name.bind fun _ => (closed_typeBody sort).bind fun _ =>
      .ite fails_unexpected.firm.toClosed (.pure _)

/-- Nothing that must follow the word `schema` takes a word. -/
theorem firm_schemaExtension : Firm 2 schemaExtension :=
  .advance_bind (Firm.advance_bind (closed_constDirectives.bind fun _ =>
    (closed_enclosedOptional _ _ closed_operationType).bind fun _ =>
      .ite fails_unexpected.firm.toClosed (.pure _))).toClosed

theorem run_get_bind {α : Type} (f : Tokens → Parser α) (n : Nat) (ts : Tokens) :
    (get >>= f) n ts = f ts n ts := rfl

/-- The reader of the extension that a word after `extend` introduces. -/
def extensionOf? : Lexeme → Option (Parser Definition)
  | .name n =>
    match TypeSort.ofWord? n.text with
    | some sort => some (typeExtension sort)
    | none => if n.text = "schema" then some schemaExtension else none
  | _ => none

theorem extension_eq_ok {n : Nat} {ts : Tokens} {x : Definition × Tokens} :
    extension n ts = .ok x ↔
      ∃ ahead p, ts.next = .ok ahead ∧ extensionOf? ahead.lexeme = some p ∧ p n ts = .ok x := by
  unfold extension
  rw [run_get_bind, run_next_bind, bind_eq_ok]
  refine exists_congr fun ahead => ?_
  rw [exists_and_left]
  refine and_congr_right fun _ => ?_
  unfold extensionOf?
  cases ahead.lexeme with
  | name w =>
    simp only
    cases TypeSort.ofWord? w.text with
    | some sort => simp
    | none =>
      by_cases hschema : w.text = "schema"
      · simp [hschema]
      · simp [hschema, (fails_throw _).ne_ok]
  | _ => simp [(fails_throw _).ne_ok]

/-- The reader of the definition that a word introduces. -/
def definitionFor? (described : Bool) : Lexeme → Option (Parser Definition)
  | .name n =>
    match definitionOf? n.text with
    | some read => some read
    | none => if described then none else if n.text = "extend" then some extension else none
  | .punctuator .braceLeft => if described then none else some shorthandQuery
  | _ => none

end Parser

/-- The words from the one on that says what is defined. -/
def Tokens.ahead (ts : Tokens) : Except SyntaxError Tokens :=
  if ts.lexeme.isString then ts.next else .ok ts

namespace Parser

theorem definition_eq_ok {n : Nat} {ts : Tokens} {x : Definition × Tokens} :
    definition n ts = .ok x ↔
      ∃ ahead p, ts.ahead = .ok ahead ∧
        definitionFor? ts.lexeme.isString ahead.lexeme = some p ∧ p n ts = .ok x := by
  unfold definition Tokens.ahead
  have hrun : ∀ f : Lexeme → Parser Definition, (peek >>= f) n ts = f ts.lexeme n ts := fun _ => rfl
  rw [hrun]
  by_cases hbrace : ts.lexeme = .punctuator .braceLeft
  · simp [hbrace, Lexeme.isString, definitionFor?]
  · rw [if_neg hbrace]
    -- After a description it is the next word that decides.
    cases hstring : ts.lexeme.isString with
    | true =>
      simp only [if_true]
      rw [run_get_bind, run_next_bind, bind_eq_ok]
      refine exists_congr fun ahead => ?_
      rw [exists_and_left]
      refine and_congr_right fun _ => ?_
      cases ahead.lexeme with
      | name w =>
        simp only [definitionFor?]
        cases definitionOf? w.text with
        | some read => simp
        | none => simp [(fails_failHere _).ne_ok]
      | punctuator p =>
        cases p with
        | braceLeft => simp [definitionFor?, (fails_failHere _).ne_ok]
        | _ => simp [definitionFor?, (fails_throw _).ne_ok]
      | _ => simp [definitionFor?, (fails_throw _).ne_ok]
    | false =>
      simp only [Bool.false_eq_true, if_false, Except.ok.injEq, exists_and_left, exists_eq_left']
      rw [run_get_bind]
      cases hword : ts.lexeme with
      | name w =>
        simp only [definitionFor?]
        cases definitionOf? w.text with
        | some read => simp
        | none =>
          by_cases hextend : w.text = "extend"
          · simp [hextend]
          · simp [hextend, fails_unexpected.ne_ok]
      | punctuator p =>
        cases p with
        | braceLeft => exact absurd hword hbrace
        | _ => simp [definitionFor?, (fails_throw _).ne_ok]
      | _ => simp [definitionFor?, (fails_throw _).ne_ok]

end Parser

namespace Tokens

theorem one_le_size {ts : Tokens} (h : ts.lexeme ≠ .eof) : 1 ≤ ts.size := by
  cases ts with
  | cons t rest => exact Nat.succ_le_succ (Nat.zero_le _)
  | _ => exact absurd rfl h

theorem two_le_size {ts ahead : Tokens} (hnext : ts.next = .ok ahead)
    (hword : ahead.lexeme ≠ .eof) : 2 ≤ ts.size := by
  rcases next_cases hnext with ⟨start, rfl, rfl⟩ | ⟨⟨t, rfl⟩, -⟩
  · exact absurd rfl hword
  · exact Nat.succ_le_succ (one_le_size hword)

/-- A word ahead is also there where other words follow. -/
theorem next_lexeme_followedBy {ts ahead us : Tokens} (h : ts.Whole) (hus : us.checked = .ok us)
    (hnext : ts.next = .ok ahead) (hword : ahead.lexeme ≠ .eof) :
    ∃ ahead', (ts.followedBy us).next = .ok ahead' ∧ ahead'.lexeme = ahead.lexeme := by
  have hsize : 1 ≤ ts.size := Nat.le_of_succ_le (two_le_size hnext hword)
  exact ⟨_, next_followedBy h hus hsize hnext, lexeme_followedBy (one_le_size hword) us⟩

theorem one_le_size_of_ahead {ts ahead : Tokens} (hahead : ts.ahead = .ok ahead)
    (hword : ahead.lexeme ≠ .eof) : 1 ≤ ts.size := by
  unfold Tokens.ahead at hahead
  split at hahead
  · exact Nat.le_of_succ_le (two_le_size hahead hword)
  · cases hahead
    exact one_le_size hword

theorem ahead_lexeme_followedBy {ts ahead us : Tokens} (h : ts.Whole) (hus : us.checked = .ok us)
    (hahead : ts.ahead = .ok ahead) (hword : ahead.lexeme ≠ .eof) :
    ∃ ahead', (ts.followedBy us).ahead = .ok ahead' ∧ ahead'.lexeme = ahead.lexeme := by
  have hsize := one_le_size_of_ahead hahead hword
  unfold Tokens.ahead at hahead ⊢
  rw [lexeme_followedBy hsize]
  by_cases hstring : ts.lexeme.isString = true
  · rw [if_pos hstring] at hahead ⊢
    exact next_lexeme_followedBy h hus hahead hword
  · rw [if_neg hstring] at hahead ⊢
    cases hahead
    exact ⟨_, rfl, lexeme_followedBy hsize us⟩

end Tokens

namespace Parser

theorem firm_extensionOf? {l : Lexeme} {p : Parser Definition} (h : extensionOf? l = some p) :
    Firm 2 p := by
  unfold extensionOf? at h
  split at h
  · split at h
    · cases h
      exact firm_typeExtension _
    · split at h
      · cases h
        exact firm_schemaExtension
      · contradiction
  · contradiction

theorem extensionOf?_ne_eof {l : Lexeme} {p : Parser Definition} (h : extensionOf? l = some p) :
    l ≠ .eof := by
  rintro rfl
  contradiction

theorem firm_extension : Firm 0 extension where
  moves _ _ _ _ h := by
    obtain ⟨ahead, p, -, hp, hrun⟩ := extension_eq_ok.mp h
    exact (firm_extensionOf? hp).moves hrun
  same hjoint _ h := by
    obtain ⟨ahead, p, hnext, hp, hrun⟩ := extension_eq_ok.mp h
    have hword := extensionOf?_ne_eof hp
    obtain ⟨ahead', hnext', hsame⟩ :=
      Tokens.next_lexeme_followedBy hjoint.whole hjoint.startsAnew.readable hnext hword
    have hrun' := (firm_extensionOf? hp).same hjoint (Tokens.two_le_size hnext hword) hrun
    exact extension_eq_ok.mpr ⟨ahead', p, hnext', hsame ▸ hp, hrun'⟩
  takes _ h := by
    obtain ⟨ahead, p, hnext, hp, hrun⟩ := extension_eq_ok.mp h
    exact (firm_extensionOf? hp).takes (Tokens.two_le_size hnext (extensionOf?_ne_eof hp)) hrun

theorem firm_definitionOf? {word : String} {p : Parser Definition}
    (h : definitionOf? word = some p) : Firm 0 p := by
  unfold definitionOf? at h
  split at h
  · cases h
    exact firm_typeDefinition _
  · split at h
    · cases h; exact firm_schemaDefinition
    · cases h; exact firm_directiveDefinition
    · cases h; exact firm_operation
    · cases h; exact firm_operation
    · cases h; exact firm_operation
    · cases h; exact firm_fragment
    · cases h

theorem firm_definitionFor? {described : Bool} {l : Lexeme} {p : Parser Definition}
    (h : definitionFor? described l = some p) : Firm 0 p := by
  unfold definitionFor? at h
  split at h
  · split at h
    · rename_i hread
      cases h
      exact firm_definitionOf? hread
    · split at h
      · contradiction
      · split at h
        · cases h
          exact firm_extension
        · contradiction
  · split at h
    · contradiction
    · cases h
      exact firm_shorthandQuery
  · contradiction

theorem definitionFor?_ne_eof {described : Bool} {l : Lexeme} {p : Parser Definition}
    (h : definitionFor? described l = some p) : l ≠ .eof := by
  rintro rfl
  contradiction

theorem firm_definition : Firm 0 definition where
  moves _ _ _ _ h := by
    obtain ⟨ahead, p, -, hp, hrun⟩ := definition_eq_ok.mp h
    exact (firm_definitionFor? hp).moves hrun
  same hjoint hleast h := by
    obtain ⟨ahead, p, hahead, hp, hrun⟩ := definition_eq_ok.mp h
    have hword := definitionFor?_ne_eof hp
    obtain ⟨ahead', hahead', hsame⟩ :=
      Tokens.ahead_lexeme_followedBy hjoint.whole hjoint.startsAnew.readable hahead hword
    have hfirst := Tokens.lexeme_followedBy (Tokens.one_le_size_of_ahead hahead hword)
    have hrun' := (firm_definitionFor? hp).same hjoint hleast hrun
    refine definition_eq_ok.mpr ⟨ahead', p, hahead', ?_, hrun'⟩
    rw [hfirst, hsame, hp]
  takes hleast h := by
    obtain ⟨ahead, p, -, hp, hrun⟩ := definition_eq_ok.mp h
    exact (firm_definitionFor? hp).takes hleast hrun

end Parser
end SchemaFold
