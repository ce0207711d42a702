import SchemaFold.Grammar.Parser
import SchemaFold.Proofs.SameWords

/-! Reading a document does not depend on where its words start. Every reader that succeeds on some
words succeeds on words alike, with the same result, and leaves words alike. -/

namespace SchemaFold

namespace Parser

/-- Wherever `p` succeeds, `q` does the same on words alike. -/
def Agree {α : Type} (p q : Parser α) : Prop :=
  ∀ ⦃n : Nat⦄ ⦃ts ts' rest : Tokens⦄ ⦃a : α⦄, Tokens.Alike ts ts' → p n ts = .ok (a, rest) →
    ∃ rest', q n ts' = .ok (a, rest') ∧ Tokens.Alike rest rest'

/-- Wherever `p` succeeds, it does the same on words alike. -/
def Blind {α : Type} (p : Parser α) : Prop :=
  Agree p p

theorem Blind.pure {α : Type} (a : α) : Blind (pure a : Parser α) := by
  intro n ts ts' rest b hts h
  cases h
  exact ⟨ts', rfl, hts⟩

theorem Agree.bind {α β : Type} {p q : Parser α} {f g : α → Parser β} (hp : Agree p q)
    (hf : ∀ a, Agree (f a) (g a)) : Agree (p >>= f) (q >>= g) := by
  intro n ts ts' rest b hts h
  obtain ⟨⟨a, mid⟩, ha, hb⟩ := bind_eq_ok.mp h
  obtain ⟨mid', ha', hmid⟩ := hp hts ha
  obtain ⟨rest', hb', hrest⟩ := hf a hmid hb
  refine ⟨rest', ?_, hrest⟩
  exact bind_eq_ok.mpr ⟨(a, mid'), ha', hb'⟩

theorem Blind.bind {α β : Type} {p : Parser α} {f : α → Parser β} (hp : Blind p)
    (hf : ∀ a, Blind (f a)) : Blind (p >>= f) :=
  Agree.bind hp hf

/-- A reader that looks at all the words at hand may keep them: alike words make it agree. -/
theorem Agree.get_bind {α : Type} {f g : Tokens → Parser α}
    (h : ∀ ts ts', Tokens.Alike ts ts' → Agree (f ts) (g ts')) : Agree (get >>= f) (get >>= g) := by
  intro n ts ts' rest a hts hf
  exact h ts ts' hts hts hf

theorem run_next_bind {α : Type} (f : Tokens → Parser α) (us : Tokens) (n : Nat) (ts : Tokens) :
    (liftM us.next >>= f : Parser α) n ts = us.next >>= fun ahead => f ahead n ts := by
  have hlift : (liftM us.next >>= f : Parser α) n ts =
      ((us.next >>= fun ahead => .ok (ahead, ts)) >>= fun r => f r.1 n r.2) := rfl
  rw [hlift]
  cases us.next <;> rfl

theorem Agree.next_bind {α : Type} {f g : Tokens → Parser α} {ts ts' : Tokens}
    (hts : Tokens.Alike ts ts')
    (h : ∀ ts ts', Tokens.Alike ts ts' → Agree (f ts) (g ts')) :
    Agree (liftM ts.next >>= f) (liftM ts'.next >>= g) := by
  intro n us us' rest a hus hf
  rw [run_next_bind] at hf
  obtain ⟨ahead, hahead, hf⟩ := bind_eq_ok.mp hf
  obtain ⟨ahead', hahead', halike⟩ := hts.next hahead
  obtain ⟨rest', hg, hrest⟩ := h ahead ahead' halike hus hf
  refine ⟨rest', ?_, hrest⟩
  rw [run_next_bind]
  exact bind_eq_ok.mpr ⟨ahead', hahead', hg⟩

/-- Looking one word ahead, or not, keeps agreement. -/
theorem Agree.ahead {α : Type} {c : Prop} [Decidable c] {f g : Tokens → Parser α}
    (h : ∀ ts ts', Tokens.Alike ts ts' → Agree (f ts) (g ts')) :
    Agree (if c then get >>= fun ts => liftM ts.next >>= f else get >>= f)
      (if c then get >>= fun ts => liftM ts.next >>= g else get >>= g) := by
  split
  · exact .get_bind fun _ _ hts => .next_bind hts h
  · exact .get_bind h

theorem Agree.of_fails {α : Type} {p q : Parser α} (h : ∀ n ts, ∃ e, p n ts = .error e) :
    Agree p q := by
  intro n ts ts' rest a hts hp
  obtain ⟨e, he⟩ := h n ts
  rw [he] at hp
  contradiction

theorem Agree.throw {α : Type} {q : Parser α} (e : SyntaxError) :
    Agree (throw e : Parser α) q :=
  .of_fails fun _ _ => ⟨e, rfl⟩

theorem Blind.ite {α : Type} {c : Prop} [Decidable c] {p q : Parser α} (hp : Blind p)
    (hq : Blind q) : Blind (if c then p else q) := by
  split <;> assumption

/-- Two ways to read a value that is then used in one way. -/
theorem Blind.ite_bind {α β : Type} {c : Prop} [Decidable c] {p q : Parser α} {f : α → Parser β}
    (hp : Blind p) (hq : Blind q) (hf : ∀ a, Blind (f a)) :
    Blind (if c then p >>= f else q >>= f) :=
  .ite (.bind hp hf) (.bind hq hf)

theorem blind_peek : Blind peek := by
  intro n ts ts' rest l hts h
  cases h
  exact ⟨ts', by rw [hts.lexeme_eq]; rfl, hts⟩

theorem blind_failHere {α : Type} (cause : SyntaxError.Cause) :
    Blind (failHere cause : Parser α) :=
  Agree.of_fails fun _ ts => ⟨⟨cause, ts.start⟩, rfl⟩

theorem blind_unexpected {α : Type} : Blind (unexpected : Parser α) :=
  .bind blind_peek fun _ => blind_failHere _

theorem blind_expected {α : Type} (wanted : SyntaxError.Wanted) :
    Blind (expected wanted : Parser α) :=
  .bind blind_peek fun _ => blind_failHere _

theorem advance_eq_ok {n : Nat} {ts rest : Tokens} :
    advance n ts = .ok ((), rest) ↔ ts.next = .ok rest := by
  have hrun : advance n ts = ((ts.next >>= fun t => .ok (t, ts)) >>= fun r => .ok ((), r.1)) := rfl
  rw [hrun]
  cases ts.next <;> simp

theorem blind_advance : Blind advance := by
  intro n ts ts' rest u hts h
  obtain ⟨rest', hnext, hrest⟩ := hts.next (advance_eq_ok.mp h)
  exact ⟨rest', advance_eq_ok.mpr hnext, hrest⟩

theorem blind_expect (p : Punctuator) : Blind (expect p) :=
  .bind blind_peek fun _ => .ite blind_advance (blind_expected _)

theorem blind_accept (p : Punctuator) : Blind (accept p) :=
  .bind blind_peek fun _ => .ite (.bind blind_advance fun _ => .pure true) (.pure false)

theorem blind_expectKeyword (word : String) : Blind (expectKeyword word) :=
  .bind blind_peek fun _ => .ite blind_advance (blind_expected _)

theorem blind_acceptKeyword (word : String) : Blind (acceptKeyword word) :=
  .bind blind_peek fun _ => .ite (.bind blind_advance fun _ => .pure true) (.pure false)

theorem blind_name : Blind name := by
  refine .bind blind_peek fun l => ?_
  cases l with
  | name n => exact .bind blind_advance fun _ => .pure n
  | _ => exact blind_expected _

theorem blind_bound : Blind bound := by
  intro n ts ts' rest b hts h
  cases h
  exact ⟨ts', rfl, hts⟩

theorem blind_itemsUntil {α : Type} (close : Punctuator) {item : Parser α} (h : Blind item)
    (n : Nat) : Blind (itemsUntil close item n) := by
  induction n with
  | zero => exact blind_unexpected
  | succ n ih =>
    exact .bind (blind_accept close) fun _ =>
      .ite (.pure []) (.bind h fun _ => .bind ih fun _ => .pure _)

theorem blind_enclosed {α : Type} (opening close : Punctuator) {item : Parser α}
    (h : Blind item) : Blind (enclosed opening close item) :=
  .bind (blind_expect opening) fun _ => .bind blind_bound fun n => blind_itemsUntil close h n

theorem blind_enclosedSome {α : Type} (opening close : Punctuator) {item : Parser α}
    (h : Blind item) : Blind (enclosedSome opening close item) :=
  .bind (blind_expect opening) fun _ => .bind h fun _ => .bind blind_bound fun n =>
    .bind (blind_itemsUntil close h n) fun _ => .pure _

theorem blind_enclosedOptional {α : Type} (opening close : Punctuator) {item : Parser α}
    (h : Blind item) : Blind (enclosedOptional opening close item) :=
  .bind blind_peek fun _ => .ite (blind_enclosedSome opening close h) (.pure [])

theorem blind_separatedRest {α : Type} (separator : Punctuator) {item : Parser α}
    (h : Blind item) (n : Nat) : Blind (separatedRest separator item n) := by
  induction n with
  | zero => exact .pure []
  | succ n ih =>
    exact .bind (blind_accept separator) fun _ =>
      .ite (.bind h fun _ => .bind ih fun _ => .pure _) (.pure [])

theorem blind_separated {α : Type} (separator : Punctuator) {item : Parser α} (h : Blind item) :
    Blind (separated separator item) :=
  .bind (blind_accept separator) fun _ => .bind h fun _ => .bind blind_bound fun n =>
    .bind (blind_separatedRest separator h n) fun _ => .pure _

theorem blind_variableName : Blind variableName :=
  .bind (blind_expect .dollar) fun _ => blind_name

theorem blind_objectField {value : Parser Literal} (h : Blind value) :
    Blind (objectField value) :=
  .bind blind_name fun _ => .bind (blind_expect .colon) fun _ => .bind h fun _ => .pure _

/-- Where a variable is refused, no reading succeeds. -/
theorem blind_refusedVariable {α : Type} : Blind (refusedVariable : Parser α) := by
  refine Agree.get_bind fun ts ts' _ => .bind (blind_expect .dollar) fun _ =>
    .bind blind_peek fun l => ?_
  cases l with
  | name v => exact .throw _
  | _ => exact .throw _

/-- A value, with readers for what stands in brackets and in braces. -/
def literalWith (constant : Bool) (listed braced : Parser Literal) : Parser Literal := do
  match ← peek with
  | .punctuator .bracketLeft => listed
  | .punctuator .braceLeft => braced
  | .int digits =>
    advance
    return .int digits
  | .float digits =>
    advance
    return .float digits
  | .string value =>
    advance
    return .string value false
  | .blockString value =>
    advance
    return .string value true
  | .name n =>
    advance
    return namedValue n
  | .punctuator .dollar =>
    if constant then refusedVariable else return .reference (← variableName)
  | _ => unexpected

theorem blind_literalWith (constant : Bool) {listed braced : Parser Literal}
    (hlisted : Blind listed) (hbraced : Blind braced) :
    Blind (literalWith constant listed braced) := by
  refine .bind blind_peek fun l => ?_
  split
  · exact hlisted
  · exact hbraced
  · exact .bind blind_advance fun _ => .pure _
  · exact .bind blind_advance fun _ => .pure _
  · exact .bind blind_advance fun _ => .pure _
  · exact .bind blind_advance fun _ => .pure _
  · exact .bind blind_advance fun _ => .pure _
  · exact .ite blind_refusedVariable (.bind blind_variableName fun _ => .pure _)
  · exact blind_unexpected

theorem literal_zero (constant : Bool) :
    literal constant 0 =
      literalWith constant (failHere .nestedTooDeeply) (failHere .nestedTooDeeply) := by
  unfold literal literalWith
  refine congrArg (peek >>= ·) (funext fun l => ?_)
  cases l with
  | punctuator p => cases p <;> rfl
  | _ => rfl

theorem literal_succ (constant : Bool) (levels : Nat) :
    literal constant (levels + 1) =
      literalWith constant
        (return .list (← enclosed .bracketLeft .bracketRight (literal constant levels)))
        (return .object
          (← enclosed .braceLeft .braceRight (objectField (literal constant levels)))) := by
  rw [literal]
  unfold literalWith
  refine congrArg (peek >>= ·) (funext fun l => ?_)
  cases l with
  | punctuator p => cases p <;> rfl
  | _ => rfl

theorem blind_literal (constant : Bool) (levels : Nat) : Blind (literal constant levels) := by
  induction levels with
  | zero =>
    rw [literal_zero]
    exact blind_literalWith constant (blind_failHere _) (blind_failHere _)
  | succ levels ih =>
    rw [literal_succ]
    exact blind_literalWith constant (.bind (blind_enclosed _ _ ih) fun _ => .pure _)
      (.bind (blind_enclosed _ _ (blind_objectField ih)) fun _ => .pure _)

theorem blind_argument (constant : Bool) (levels : Nat) : Blind (argument constant levels) :=
  .bind blind_name fun _ => .bind (blind_expect .colon) fun _ =>
    .bind (blind_literal constant levels) fun _ => .pure _

theorem blind_arguments (constant : Bool) (levels : Nat) : Blind (arguments constant levels) :=
  blind_enclosedOptional _ _ (blind_argument constant levels)

theorem blind_directivesRest (constant : Bool) (levels n : Nat) :
    Blind (directivesRest constant levels n) := by
  induction n with
  | zero => exact .pure []
  | succ n ih =>
    exact .bind (blind_accept .atSign) fun _ =>
      .ite (.bind blind_name fun _ => .bind (blind_arguments constant levels) fun _ =>
        .bind ih fun _ => .pure _) (.pure [])

theorem blind_directives (constant : Bool) (levels : Nat) : Blind (directives constant levels) :=
  .bind blind_bound fun n => blind_directivesRest constant levels n

theorem blind_required : Blind required :=
  blind_accept .bang

theorem blind_typeRef (levels : Nat) : Blind (typeRef levels) := by
  have hnamed : Blind (do let n ← name; return .named n (← required) : Parser TypeRef) :=
    .bind blind_name fun _ => .bind blind_required fun _ => .pure _
  induction levels with
  | zero => exact .bind (blind_accept .bracketLeft) fun _ => .ite (blind_failHere _) hnamed
  | succ levels ih =>
    exact .bind (blind_accept .bracketLeft) fun _ =>
      .ite (.bind ih fun _ => .bind (blind_expect .bracketRight) fun _ =>
        .bind blind_required fun _ => .pure _) hnamed

theorem blind_fragmentName : Blind fragmentName :=
  .bind blind_peek fun _ => .ite blind_unexpected blind_name

theorem blind_selectionField (levels : Nat) {nested : Parser (List Selection)}
    (h : Blind nested) : Blind (selectionField levels nested) :=
  .bind blind_name fun first => .bind (blind_accept .colon) fun _ =>
    .ite_bind blind_name (.pure first) fun _ => .bind (blind_arguments false levels) fun _ =>
      .bind (blind_directives false levels) fun _ => .bind blind_peek fun _ =>
        .ite_bind h (.pure []) fun _ => .pure _

theorem blind_selectionSpread (levels : Nat) {nested : Parser (List Selection)}
    (h : Blind nested) : Blind (selectionSpread levels nested) := by
  have hdirectives := blind_directives false levels
  refine .bind (blind_expect .spread) fun _ => .bind (blind_acceptKeyword "on") fun _ => ?_
  refine .ite (.bind blind_name fun _ => .bind hdirectives fun _ => .bind h fun _ => .pure _) ?_
  refine .bind blind_peek fun l => ?_
  cases l with
  | name _ => exact .bind blind_fragmentName fun _ => .bind hdirectives fun _ => .pure _
  | _ => exact .bind hdirectives fun _ => .bind h fun _ => .pure _

theorem blind_selection (levels : Nat) {nested : Parser (List Selection)} (h : Blind nested) :
    Blind (selection levels nested) :=
  .bind blind_peek fun _ => .ite (blind_selectionSpread levels h) (blind_selectionField levels h)

theorem blind_selectionSet (levels : Nat) : Blind (selectionSet levels) := by
  induction levels with
  | zero => exact blind_failHere _
  | succ levels ih => exact blind_enclosedSome _ _ (blind_selection levels ih)

theorem blind_description : Blind description := by
  refine .bind blind_peek fun l => ?_
  cases l with
  | string value => exact .bind blind_advance fun _ => .pure _
  | blockString value => exact .bind blind_advance fun _ => .pure _
  | _ => exact .pure none

theorem blind_oneOf {α : Type} (choose : Name → Option α) : Blind (oneOf choose) := by
  refine Agree.get_bind fun ts ts' _ => .bind blind_name fun n => ?_
  cases choose n with
  | some a => exact Blind.pure a
  | none => exact .throw _

theorem blind_operationKind : Blind operationKind :=
  blind_oneOf _

theorem blind_defaultValue : Blind defaultValue :=
  .bind (blind_accept .equals) fun _ =>
    .ite (.bind (blind_literal true maxDepth) fun _ => .pure _) (.pure none)

theorem blind_constDirectives : Blind constDirectives :=
  blind_directives true maxDepth

theorem blind_variableDefinition : Blind variableDefinition :=
  .bind blind_description fun _ => .bind blind_variableName fun _ =>
    .bind (blind_expect .colon) fun _ => .bind (blind_typeRef maxDepth) fun _ =>
      .bind blind_defaultValue fun _ => .bind blind_constDirectives fun _ => .pure _

theorem blind_shorthandQuery : Blind shorthandQuery :=
  .bind (blind_selectionSet maxDepth) fun _ => .pure _

theorem blind_optionalName : Blind optionalName := by
  refine .bind blind_peek fun l => ?_
  cases l with
  | name n => exact .bind blind_advance fun _ => .pure _
  | _ => exact .pure none

theorem blind_operation : Blind operation :=
  .bind blind_description fun _ => .bind blind_operationKind fun _ =>
    .bind blind_optionalName fun _ =>
      .bind (blind_enclosedOptional _ _ blind_variableDefinition) fun _ =>
        .bind (blind_directives false maxDepth) fun _ =>
          .bind (blind_selectionSet maxDepth) fun _ => .pure _

theorem blind_fragment : Blind fragment :=
  .bind blind_description fun _ => .bind (blind_expectKeyword "fragment") fun _ =>
    .bind blind_fragmentName fun _ => .bind (blind_expectKeyword "on") fun _ =>
      .bind blind_name fun _ => .bind (blind_directives false maxDepth) fun _ =>
        .bind (blind_selectionSet maxDepth) fun _ => .pure _

theorem blind_inputValue : Blind inputValue :=
  .bind blind_description fun _ => .bind blind_name fun _ => .bind (blind_expect .colon) fun _ =>
    .bind (blind_typeRef maxDepth) fun _ => .bind blind_defaultValue fun _ =>
      .bind blind_constDirectives fun _ => .pure _

theorem blind_fieldDefinition : Blind fieldDefinition :=
  .bind blind_description fun _ => .bind blind_name fun _ =>
    .bind (blind_enclosedOptional _ _ blind_inputValue) fun _ =>
      .bind (blind_expect .colon) fun _ => .bind (blind_typeRef maxDepth) fun _ =>
        .bind blind_constDirectives fun _ => .pure _

theorem blind_enumValueName : Blind enumValueName :=
  .bind blind_peek fun _ => .ite (blind_failHere _) blind_name

theorem blind_enumValue : Blind enumValue :=
  .bind blind_description fun _ => .bind blind_enumValueName fun _ =>
    .bind blind_constDirectives fun _ => .pure _

theorem blind_operationType : Blind operationType :=
  .bind blind_operationKind fun _ => .bind (blind_expect .colon) fun _ =>
    .bind blind_name fun _ => .pure _

theorem blind_implementedInterfaces : Blind implementedInterfaces :=
  .bind (blind_acceptKeyword "implements") fun _ =>
    .ite (blind_separated .ampersand blind_name) (.pure [])

theorem blind_unionMembers : Blind unionMembers :=
  .bind (blind_accept .equals) fun _ => .ite (blind_separated .pipe blind_name) (.pure [])

theorem blind_fieldDefinitions : Blind fieldDefinitions :=
  blind_enclosedOptional _ _ blind_fieldDefinition

theorem blind_typeBody (sort : TypeSort) : Blind (typeBody sort) := by
  have hfields : ∀ body : List Name → List FieldDefinition → TypeBody,
      Blind (do
        let interfaces ← implementedInterfaces
        let directives ← constDirectives
        return (directives, body interfaces (← fieldDefinitions))) :=
    fun _ => .bind blind_implementedInterfaces fun _ => .bind blind_constDirectives fun _ =>
      .bind blind_fieldDefinitions fun _ => .pure _
  cases sort with
  | scalar => exact .bind blind_constDirectives fun _ => .pure _
  | object => exact hfields .object
  | interface => exact hfields .interface
  | union =>
    exact .bind blind_constDirectives fun _ => .bind blind_unionMembers fun _ => .pure _
  | enum =>
    exact .bind blind_constDirectives fun _ =>
      .bind (blind_enclosedOptional _ _ blind_enumValue) fun _ => .pure _
  | input =>
    exact .bind blind_constDirectives fun _ =>
      .bind (blind_enclosedOptional _ _ blind_inputValue) fun _ => .pure _

theorem blind_typeDefinition (sort : TypeSort) : Blind (typeDefinition sort) :=
  .bind blind_description fun _ => .bind blind_advance fun _ => .bind blind_name fun _ =>
    .bind (blind_typeBody sort) fun _ => .pure _

theorem blind_schemaDefinition : Blind schemaDefinition :=
  .bind blind_description fun _ => .bind blind_advance fun _ =>
    .bind blind_constDirectives fun _ =>
      .bind (blind_enclosedSome _ _ blind_operationType) fun _ => .pure _

theorem blind_directiveDefinition : Blind directiveDefinition :=
  .bind blind_description fun _ => .bind blind_advance fun _ =>
    .bind (blind_expect .atSign) fun _ => .bind blind_name fun _ =>
      .bind (blind_enclosedOptional _ _ blind_inputValue) fun _ =>
        .bind (blind_acceptKeyword "repeatable") fun _ => .bind (blind_expectKeyword "on") fun _ =>
          .bind (blind_separated .pipe (blind_oneOf _)) fun _ => .pure _

theorem blind_typeExtension (sort : TypeSort) : Blind (typeExtension sort) :=
  .bind blind_advance fun _ => .bind blind_advance fun _ => .bind blind_name fun _ =>
    .bind (blind_typeBody sort) fun _ => .ite blind_unexpected (.pure _)

theorem blind_schemaExtension : Blind schemaExtension :=
  .bind blind_advance fun _ => .bind blind_advance fun _ => .bind blind_constDirectives fun _ =>
    .bind (blind_enclosedOptional _ _ blind_operationType) fun _ =>
      .ite blind_unexpected (.pure _)

theorem blind_extension : Blind extension := by
  refine Agree.get_bind fun ts ts' hts => .next_bind hts fun ahead ahead' halike => ?_
  rw [halike.lexeme_eq]
  cases ahead'.lexeme with
  | name n =>
    simp only
    cases TypeSort.ofWord? n.text with
    | some sort => exact blind_typeExtension sort
    | none =>
      simp only
      split
      · exact blind_schemaExtension
      · exact .throw _
  | _ => exact .throw _

theorem blind_definitionOf? {word : String} {p : Parser Definition}
    (h : definitionOf? word = some p) : Blind p := by
  unfold definitionOf? at h
  split at h
  · cases h
    exact blind_typeDefinition _
  · split at h
    · cases h; exact blind_schemaDefinition
    · cases h; exact blind_directiveDefinition
    · cases h; exact blind_operation
    · cases h; exact blind_operation
    · cases h; exact blind_operation
    · cases h; exact blind_fragment
    · cases h

theorem blind_definition : Blind definition := by
  refine .bind blind_peek fun next => .ite blind_shorthandQuery ?_
  -- The word that decides may be the one after a description, so two words are in play.
  refine Agree.ahead fun ahead ahead' halike => ?_
  simp only [halike.lexeme_eq]
  split
  · rename_i n _
    cases hread : definitionOf? n.text with
    | some read => exact blind_definitionOf? hread
    | none =>
      exact Blind.ite (blind_failHere _) (.ite blind_extension blind_unexpected)
  · exact blind_failHere _
  · exact .throw _

theorem blind_definitionsUntilEnd (n : Nat) : Blind (definitionsUntilEnd n) := by
  induction n with
  | zero => exact .pure []
  | succ n ih =>
    exact .bind blind_peek fun _ =>
      .ite (.pure []) (.bind blind_definition fun _ => .bind ih fun _ => .pure _)

theorem blind_document : Blind document :=
  .bind blind_definition fun _ => .bind blind_bound fun n =>
    .bind (blind_definitionsUntilEnd n) fun _ => .pure _

end Parser

/-- Texts whose words are alike are the same document. -/
theorem Document.parse_of_alike {source source' : String} {d : Document}
    (halike : Tokens.Alike (Tokens.ofSource source) (Tokens.ofSource source'))
    (h : Document.parse source = .ok d) : Document.parse source' = .ok d := by
  obtain ⟨ts, hts, hread⟩ := bind_eq_ok.mp h
  obtain ⟨⟨document, rest⟩, hdocument, hd⟩ := bind_eq_ok.mp hread
  obtain ⟨ts', hts', halike⟩ := halike.checked hts
  obtain ⟨rest', hdocument', -⟩ := Parser.blind_document halike hdocument
  rw [halike.size_eq] at hdocument'
  refine bind_eq_ok.mpr ⟨ts', hts', ?_⟩
  exact bind_eq_ok.mpr ⟨(document, rest'), hdocument', hd⟩

theorem hasDefinitions_of_alike {source source' : String} {b : Bool}
    (halike : Tokens.Alike (Tokens.ofSource source) (Tokens.ofSource source'))
    (h : hasDefinitions source = .ok b) : hasDefinitions source' = .ok b := by
  obtain ⟨ts, hts, hb⟩ := bind_eq_ok.mp h
  obtain ⟨ts', hts', halike⟩ := halike.checked hts
  rw [halike.lexeme_eq] at hb
  exact bind_eq_ok.mpr ⟨ts', hts', hb⟩

end SchemaFold
