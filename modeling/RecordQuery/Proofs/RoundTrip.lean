import RecordQuery.Proofs.CanonicalText
import RecordQuery.Proofs.Prefixes
import RecordQuery.Query

/-!
# Queries and their canonical texts

Reading the canonical text of a well-formed expression gives the flattened expression, as long as the
text does not nest too deeply; it is refused otherwise. So the canonical text keeps the meaning, and it
is a key for the expression up to flattening. The canonical text of a query can nest one level deeper
than the query itself, so the text of a query at the limit may be refused.
-/

namespace RecordQuery.Expr

/-! ## Reading a text that spells an expression -/

section Spelling

variable {text : List Char} {lexemes : List Lexeme} {expr : Expr}
  {nesting : Nat}

/-- A text that spells an expression consists of tokens that do, and the end marker. -/
theorem ofText_tokens_of_spells
    (row : Lexeme.RowOf text (lexemes ++ [.endOfQuery]))
    (spelled : Spells lexemes expr nesting) :
    ∃ tokens ending,
      Token.ofText (String.ofList text) = .ok (tokens ++ ending) ∧
        isEmptyQuery ending = true ∧
        Spells (tokens.map Token.lexeme) expr nesting := by
  obtain ⟨all, read, same⟩ := row 0
  obtain ⟨tokens, ending, rfl, rfl, endSpelled⟩ :=
    List.map_eq_append_iff.mp same
  obtain ⟨last, rfl, isEnd⟩ := List.map_eq_singleton_iff.mp endSpelled
  refine ⟨tokens, [last], ?_, ?_, spelled⟩
  · rw [Token.ofText, Cursor.start, String.toList_ofList]
    exact read
  · rw [isEmptyQuery, Token.isEnd, isEnd]
    rfl

theorem ofText_of_tokens {query : String} {tokens : List Token}
    (read : Token.ofText query = .ok tokens) :
    ofText query = (ofTokens tokens).mapError .grammar := by
  rw [ofText, read]
  rfl

theorem ofText_of_spells_of_le
    (row : Lexeme.RowOf text (lexemes ++ [.endOfQuery]))
    (spelled : Spells lexemes expr nesting)
    (shallow : nesting ≤ nestingLimit) :
    ofText (String.ofList text) = .ok expr := by
  obtain ⟨tokens, ending, read, ends, spelledByTokens⟩ :=
    ofText_tokens_of_spells row spelled
  have run := (State.run_of_spells spelledByTokens ends).1 shallow
  rw [ofText_of_tokens read, ofTokens_eq_ok_iff.mpr run]
  rfl

theorem ofText_of_spells_of_lt
    (row : Lexeme.RowOf text (lexemes ++ [.endOfQuery]))
    (spelled : Spells lexemes expr nesting)
    (deep : nestingLimit < nesting) :
    ∃ error : GrammarError,
      ofText (String.ofList text) = .error (.grammar error) ∧
        error.message = "Query nested too deeply" := by
  obtain ⟨tokens, ending, read, ends, spelledByTokens⟩ :=
    ofText_tokens_of_spells row spelled
  obtain ⟨others, run⟩ := (State.run_of_spells spelledByTokens ends).2 deep
  obtain ⟨error, failed, fault⟩ := ofTokens_of_nestedTooDeeply run
  have message : error.message = "Query nested too deeply" := by
    rw [GrammarError.message, fault]
  rw [ofText_of_tokens read, failed]
  exact ⟨error, rfl, message⟩

end Spelling

/-! ## Reading a canonical text -/

section Canonical

/-- The canonical text spells the flattened expression. -/
theorem spells_canonical {expr : Expr} (wellFormed : expr.WellFormed) :
    ∃ lexemes, Lexeme.RowOf expr.write (lexemes ++ [.endOfQuery]) ∧
      Spells lexemes expr.flatten expr.nesting := by
  obtain ⟨lexemes, phrase, disjunction⟩ :=
    (spelled_of_wellFormed wellFormed).disjunct
  have row := phrase.reads [] _ rfl Lexeme.rowOf_nil
  rw [List.append_nil] at row
  exact ⟨lexemes, row, _, disjunction,
    (anyOf_disjuncts (wellFormed_flatten wellFormed)).symm⟩

theorem ofText_canonical_of_le {expr : Expr} (wellFormed : expr.WellFormed)
    (shallow : expr.nesting ≤ nestingLimit) :
    ofText expr.canonical = .ok expr.flatten := by
  obtain ⟨lexemes, row, spelled⟩ := spells_canonical wellFormed
  exact ofText_of_spells_of_le row spelled shallow

theorem ofText_canonical_of_lt {expr : Expr} (wellFormed : expr.WellFormed)
    (deep : nestingLimit < expr.nesting) :
    ∃ error : GrammarError,
      ofText expr.canonical = .error (.grammar error) ∧
        error.message = "Query nested too deeply" := by
  obtain ⟨lexemes, row, spelled⟩ := spells_canonical wellFormed
  exact ofText_of_spells_of_lt row spelled deep

/-- The canonical text is accepted only if the expression does not nest too deeply. -/
theorem eq_flatten_of_ofText_canonical {expr again : Expr}
    (wellFormed : expr.WellFormed)
    (accepted : ofText expr.canonical = .ok again) :
    expr.nesting ≤ nestingLimit ∧ again = expr.flatten := by
  by_cases shallow : expr.nesting ≤ nestingLimit
  · rw [ofText_canonical_of_le wellFormed shallow] at accepted
    exact ⟨shallow, (Except.ok.inj accepted).symm⟩
  · obtain ⟨error, refused, _⟩ :=
      ofText_canonical_of_lt wellFormed (Nat.lt_of_not_le shallow)
    rw [refused] at accepted
    cases accepted

/-- A canonical text determines the flattened expression. The tokens are read with a limit that suits
both expressions, so the text may nest deeper than a query. -/
theorem flatten_eq_of_canonical_eq {left right : Expr}
    (leftWellFormed : left.WellFormed) (rightWellFormed : right.WellFormed)
    (same : left.canonical = right.canonical) :
    left.flatten = right.flatten := by
  obtain ⟨leftLexemes, leftRow, leftSpells⟩ :=
    spells_canonical leftWellFormed
  obtain ⟨rightLexemes, rightRow, rightSpells⟩ :=
    spells_canonical rightWellFormed
  obtain ⟨leftTokens, leftEnding, leftRead, leftEnds, leftSpelled⟩ :=
    ofText_tokens_of_spells leftRow leftSpells
  obtain ⟨rightTokens, rightEnding, rightRead, rightEnds, rightSpelled⟩ :=
    ofText_tokens_of_spells rightRow rightSpells
  have tokensEq : leftTokens ++ leftEnding = rightTokens ++ rightEnding := by
    have sameText : String.ofList left.write = String.ofList right.write :=
      same
    rw [sameText, rightRead] at leftRead
    exact (Except.ok.inj leftRead).symm
  have leftRun := (State.run_of_spells leftSpelled leftEnds).1 <|
    Nat.le_max_left left.nesting right.nesting
  have rightRun := (State.run_of_spells rightSpelled rightEnds).1 <|
    Nat.le_max_right left.nesting right.nesting
  rw [tokensEq, rightRun] at leftRun
  exact (Except.ok.inj leftRun).symm

theorem canonical_flatten {expr : Expr} (wellFormed : expr.WellFormed) :
    expr.flatten.canonical = expr.canonical := by
  rw [canonical, canonical, write_flatten wellFormed]

end Canonical

/-! ## What an accepted query spells -/

section Accepted

/-- The lexemes of an accepted query spell its expression within the limit. -/
theorem spells_of_ofText {query : String} {expr : Expr}
    (accepted : ofText query = .ok expr) :
    ∃ tokens nesting,
      Token.ofText query = .ok tokens ∧ nesting ≤ nestingLimit ∧
        Spells ((tokens.takeWhile (!·.isEnd)).map Token.lexeme) expr
          nesting := by
  cases read : Token.ofText query with
  | error error =>
      rw [ofText, read] at accepted
      cases accepted
  | ok tokens =>
      rw [ofText_of_tokens read] at accepted
      cases taken : ofTokens tokens with
      | error error =>
          rw [taken] at accepted
          cases accepted
      | ok result =>
          rw [taken] at accepted
          cases accepted
          obtain ⟨nesting, within, spelled⟩ :=
            spells_of_run (ofTokens_eq_ok_iff.mp taken)
          exact ⟨tokens, nesting, rfl, within, spelled⟩

theorem wellFormed_of_ofText {query : String} {expr : Expr}
    (accepted : ofText query = .ok expr) : expr.WellFormed := by
  obtain ⟨tokens, nesting, _, _, spelled⟩ := spells_of_ofText accepted
  exact spelled.wellFormed

theorem nesting_le_of_ofText {query : String} {expr : Expr}
    (accepted : ofText query = .ok expr) :
    expr.nesting ≤ nestingLimit + 1 := by
  obtain ⟨tokens, nesting, _, within, spelled⟩ := spells_of_ofText accepted
  have bound := spelled.nesting_le fun _ _ => Nat.le_refl 1
  omega

/-- The canonical text of a query nests deeper than the limit only if `*` occurs in the query. -/
theorem exists_anySignal_of_lt {query : String} {expr : Expr}
    (accepted : ofText query = .ok expr)
    (deep : nestingLimit < expr.nesting) :
    ∃ tokens token spelling,
      Token.ofText query = .ok tokens ∧ token ∈ tokens ∧
        token.lexeme = .symbol .anySignal spelling := by
  obtain ⟨tokens, nesting, read, within, spelled⟩ :=
    spells_of_ofText accepted
  by_cases present : ∃ token ∈ tokens, ∃ spelling,
      token.lexeme = .symbol .anySignal spelling
  · obtain ⟨token, member, spelling, isAnySignal⟩ := present
    exact ⟨tokens, token, spelling, read, member, isAnySignal⟩
  · have slack :
        Slack ((tokens.takeWhile (!·.isEnd)).map Token.lexeme) 0 := by
      intro spelling member
      obtain ⟨token, tokenMember, isAnySignal⟩ := List.mem_map.mp member
      have inQuery := List.takeWhile_subset _ tokenMember
      exact absurd ⟨token, inQuery, spelling, isAnySignal⟩ present
    have bound := spelled.nesting_le slack
    omega

end Accepted

/-! ## Negations of `*` -/

section NegatedAnySignal

/-- The sigil `*` behind a number of negations. -/
def writeNegatedAny : Nat → List Char
  | 0 => ['*']
  | count + 1 => ['N', 'O', 'T'] ++ ' ' :: writeNegatedAny count

theorem operand_negatedAny :
    ∀ count : Nat, ∃ lexemes,
      Lexeme.RowOf (writeNegatedAny count) (lexemes ++ [.endOfQuery]) ∧
        Operand lexemes (negated count anySignal) count
  | 0 => by
      have row : Lexeme.RowOf (['*'] ++ [])
          [.symbol .anySignal (String.ofList ['*']), .endOfQuery] :=
        Lexeme.rowOf_source (.anySignal rfl) Lexeme.rowOf_nil
      exact ⟨[_], row, .atom (.anySignal _)⟩
  | count + 1 => by
      obtain ⟨lexemes, row, operand⟩ := operand_negatedAny count
      exact ⟨_ :: lexemes, Lexeme.rowOf_keyword .not row,
        .negation _ operand⟩

/-- The sigil is a single token, so it takes as many negations as the limit allows. -/
theorem ofText_negatedAny {count : Nat} (shallow : count ≤ nestingLimit) :
    ofText (String.ofList (writeNegatedAny count)) =
      .ok (negated count anySignal) := by
  obtain ⟨lexemes, row, operand⟩ := operand_negatedAny count
  have spelled : Spells lexemes (negated count anySignal) count :=
    ⟨_, .single (.single operand), rfl⟩
  exact ofText_of_spells_of_le row spelled shallow

/-- The canonical text has the three marks in parentheses under the negations. -/
theorem nesting_negatedAny :
    ∀ count : Nat, (negated (count + 1) anySignal).nesting = count + 2
  | 0 => rfl
  | count + 1 => by
      have inner := nesting_negatedAny count
      have outer : (negated (count + 2) anySignal).nesting =
          (negated (count + 1) anySignal).nesting + 1 := rfl
      rw [outer, inner]

end NegatedAnySignal

/-! ## Round trips -/

section RoundTrips

/-- The canonical text of a query is a query with the same canonical text, unless it nests deeper than
the limit. Then it does so by one level and is refused, and `*` occurs in the query. -/
theorem canonical_ofText_canonical {query : String} {expr : Expr}
    (accepted : ofText query = .ok expr) :
    (expr.nesting ≤ nestingLimit →
      ∃ again, ofText expr.canonical = .ok again ∧
        again.canonical = expr.canonical) ∧
    (nestingLimit < expr.nesting →
      expr.nesting = nestingLimit + 1 ∧
      (∃ tokens token spelling, Token.ofText query = .ok tokens ∧
        token ∈ tokens ∧ token.lexeme = .symbol .anySignal spelling) ∧
      ∃ error : GrammarError,
        ofText expr.canonical = .error (.grammar error) ∧
          error.message = "Query nested too deeply") := by
  have wellFormed := wellFormed_of_ofText accepted
  refine ⟨fun shallow => ?_, fun deep => ⟨?_, ?_, ?_⟩⟩
  · exact ⟨expr.flatten, ofText_canonical_of_le wellFormed shallow,
      canonical_flatten wellFormed⟩
  · have bound := nesting_le_of_ofText accepted
    omega
  · exact exists_anySignal_of_lt accepted deep
  · exact ofText_canonical_of_lt wellFormed deep

theorem canonical_ofText_canonical_negated :
    (ofText (String.ofList (writeNegatedAny 1)) = .ok (not anySignal) ∧
      ∃ again, ofText (not anySignal).canonical = .ok again ∧
        again.canonical = (not anySignal).canonical) ∧
    (ofText (String.ofList (writeNegatedAny nestingLimit)) =
        .ok (negated nestingLimit anySignal) ∧
      ∃ error : GrammarError,
        ofText (negated nestingLimit anySignal).canonical =
            .error (.grammar error) ∧
          error.message = "Query nested too deeply") := by
  have single : ofText (String.ofList (writeNegatedAny 1)) =
      .ok (not anySignal) :=
    ofText_negatedAny (by decide)
  have full := ofText_negatedAny (Nat.le_refl nestingLimit)
  have deep : (negated nestingLimit anySignal).nesting = nestingLimit + 1 :=
    nesting_negatedAny 255
  refine ⟨⟨single, ?_⟩, full, ?_⟩
  · exact (canonical_ofText_canonical single).1 (by decide)
  · exact ((canonical_ofText_canonical full).2 (by omega)).2.2

/-- At the limit the canonical text of a query is refused. -/
theorem canonical_refused_at_limit :
    ofText (String.ofList (writeNegatedAny nestingLimit)) =
      .ok (negated nestingLimit anySignal) ∧
    ¬ ∃ again,
      ofText (negated nestingLimit anySignal).canonical = .ok again := by
  have accepted := ofText_negatedAny (Nat.le_refl nestingLimit)
  have wellFormed := wellFormed_of_ofText accepted
  refine ⟨accepted, ?_⟩
  rintro ⟨again, acceptedAgain⟩
  have shallow := (eq_flatten_of_ofText_canonical wellFormed acceptedAgain).1
  have deep : (negated nestingLimit anySignal).nesting = nestingLimit + 1 :=
    nesting_negatedAny 255
  omega

/-- The canonical text of a well-formed expression is read as the flattened expression, unless it nests
too deeply. -/
theorem ofText_canonical {expr : Expr} (wellFormed : expr.WellFormed) :
    (expr.nesting ≤ nestingLimit →
      ofText expr.canonical = .ok expr.flatten) ∧
    (nestingLimit < expr.nesting →
      ∃ error : GrammarError,
        ofText expr.canonical = .error (.grammar error) ∧
          error.message = "Query nested too deeply") :=
  ⟨ofText_canonical_of_le wellFormed, ofText_canonical_of_lt wellFormed⟩

theorem ofText_canonical_mixed :
    ((or [and [string "a \"" true, and [not (not (signal .errorSuffix)),
        not (or [property .name "b c", signal .runningAgent])]],
      or [string "or" false, property .status "WIP"]]).WellFormed ∧
    ofText (or [and [string "a \"" true, and [not (not (signal .errorSuffix)),
        not (or [property .name "b c", signal .runningAgent])]],
      or [string "or" false, property .status "WIP"]]).canonical =
    .ok (or [and [string "a \"" true, not (not (signal .errorSuffix)),
        not (or [property .name "b c", signal .runningAgent])],
      string "or" false, property .status "WIP"])) ∧
    (negated nestingLimit anySignal).WellFormed ∧
    ∃ error : GrammarError,
      ofText (negated nestingLimit anySignal).canonical =
          .error (.grammar error) ∧
        error.message = "Query nested too deeply" := by
  have wellFormed :
      (or [and [string "a \"" true, and [not (not (signal .errorSuffix)),
          not (or [property .name "b c", signal .runningAgent])]],
        or [string "or" false, property .status "WIP"]]).WellFormed := by
    have negation := wellFormed_signal .errorSuffix
    have group := wellFormed_signal .runningAgent
    exact ⟨by decide,
      ⟨by decide, wellFormed_string _ _,
        ⟨by decide, negation, ⟨by decide, trivial, group, trivial⟩, trivial⟩,
        trivial⟩,
      ⟨by decide, wellFormed_string _ _, trivial, trivial⟩, trivial⟩
  have deepWellFormed := wellFormed_negated wellFormed_anySignal nestingLimit
  have deep : (negated nestingLimit anySignal).nesting = nestingLimit + 1 :=
    nesting_negatedAny 255
  refine ⟨⟨wellFormed, ?_⟩, deepWellFormed, ?_⟩
  · exact (ofText_canonical wellFormed).1 (by decide)
  · exact (ofText_canonical deepWellFormed).2 (by omega)

/-- What a canonical text is read as holds for the same records as the expression. So a query and its
canonical text select the same records, in the same order. -/
theorem holds_ofText_canonical :
    (∀ expr again : Expr, expr.WellFormed →
      ofText expr.canonical = .ok again →
        ∀ lineage record,
          again.holds lineage record = expr.holds lineage record) ∧
    (∀ query expr again, ofText query = .ok expr →
      ofText expr.canonical = .ok again →
        ∀ lineage records,
          again.select lineage records = expr.select lineage records) := by
  have same : ∀ expr again : Expr, expr.WellFormed →
      ofText expr.canonical = .ok again →
        ∀ lineage record,
          again.holds lineage record = expr.holds lineage record := by
    intro expr again wellFormed accepted lineage record
    rw [(eq_flatten_of_ofText_canonical wellFormed accepted).2]
    exact holds_flatten lineage record expr
  refine ⟨same, ?_⟩
  intro query expr again accepted acceptedAgain lineage records
  have wellFormed := wellFormed_of_ofText accepted
  rw [select, select]
  congr 1
  funext record
  exact same expr again wellFormed acceptedAgain lineage record

theorem holds_ofText_canonical_nested :
    (and [string "a" false,
      and [string "b" false, string "c" true]]).WellFormed ∧
    ofText (and [string "a" false,
      and [string "b" false, string "c" true]]).canonical =
        .ok (and [string "a" false, string "b" false, string "c" true]) ∧
    ∀ lineage record,
      (and [string "a" false, string "b" false,
        string "c" true]).holds lineage record =
      (and [string "a" false,
        and [string "b" false, string "c" true]]).holds lineage record := by
  have wellFormed :
      (and [string "a" false,
        and [string "b" false, string "c" true]]).WellFormed :=
    ⟨by decide, wellFormed_string _ _,
      ⟨by decide, wellFormed_string _ _, wellFormed_string _ _, trivial⟩,
      trivial⟩
  have accepted := ofText_canonical_of_le wellFormed (by decide)
  exact ⟨wellFormed, accepted,
    holds_ofText_canonical.1 _ _ wellFormed accepted⟩

/-- Two canonical texts are equal just when the flattened expressions are, however deeply they nest. -/
theorem canonical_eq_iff {left right : Expr}
    (leftWellFormed : left.WellFormed) (rightWellFormed : right.WellFormed) :
    (left.canonical = right.canonical ↔ left.flatten = right.flatten) ∧
    (left.canonical = right.canonical →
      ∀ lineage record,
        left.holds lineage record = right.holds lineage record) := by
  have onlyIf : left.canonical = right.canonical →
      left.flatten = right.flatten :=
    flatten_eq_of_canonical_eq leftWellFormed rightWellFormed
  refine ⟨⟨onlyIf, fun flattened => ?_⟩, ?_⟩
  · rw [← canonical_flatten leftWellFormed, flattened,
      canonical_flatten rightWellFormed]
  · intro same lineage record
    rw [← holds_flatten lineage record left, onlyIf same,
      holds_flatten lineage record right]

theorem canonical_eq_iff_nested :
    (or [string "a" false, or [string "b" true, signal .errorSuffix]]).canonical =
      (or [or [string "a" false, string "b" true], signal .errorSuffix]).canonical := by
  have leftWellFormed :
      (or [string "a" false,
        or [string "b" true, signal .errorSuffix]]).WellFormed :=
    ⟨by decide, wellFormed_string _ _,
      ⟨by decide, wellFormed_string _ _, wellFormed_signal _, trivial⟩,
      trivial⟩
  have rightWellFormed :
      (or [or [string "a" false, string "b" true],
        signal .errorSuffix]).WellFormed :=
    ⟨by decide,
      ⟨by decide, wellFormed_string _ _, wellFormed_string _ _, trivial⟩,
      wellFormed_signal _, trivial⟩
  exact (canonical_eq_iff leftWellFormed rightWellFormed).1.mpr rfl

end RoundTrips

end RecordQuery.Expr
