import RecordQuery.Proofs.Scanning

/-!
# Sources of lexemes

The lexeme that is found at the head of a text is the one whose source stands there, by the lexical
grammar. So the tokens of a text are read off its sources, one after another.
-/

namespace RecordQuery.Lexeme

/-! ## Every source is found -/

section Written

variable {source rest : List Char} {lexeme : Lexeme}

theorem scanQuoted_of_closed {opening : Nat} {inside value : List Char}
    (closed : Quoted.read inside = .closed value inside.length)
    (rest : List Char) (make : String → Lexeme) :
    scanQuoted opening (inside ++ rest) make =
      .found (make (String.ofList value)) (opening + inside.length) := by
  rw [scanQuoted, Quoted.read_append_of_closed rest closed]

/-- Where a mark stands alone no sign follows. -/
theorem not_isPrefixOf_of_standsAlone {asked : Signal} {text : List Char}
    (alone : standsAlone text = true) :
    ¬ [asked.sign, asked.sign].isPrefixOf text = true := by
  intro triple
  obtain ⟨others, rfl⟩ := List.isPrefixOf_iff_prefix.mp triple
  cases asked <;> cases alone

/-- The mark of a signal is found whatever follows. -/
theorem scan_mark (asked : Signal) (rest : List Char) :
    scan (asked.mark ++ rest) =
      .symbol (.signal asked) asked.mark := by
  cases asked <;> rfl

/-- The mark of the absence of a signal has to stand alone. -/
theorem scan_absenceMark (asked : Signal)
    (alone : standsAlone rest = true) :
    scan (asked.absenceMark ++ rest) =
      .symbol (.noSignal asked) asked.absenceMark := by
  cases asked with
  | errorSuffix =>
      have noThird : ∀ tail, rest = '!' :: tail → False := by
        rintro tail rfl
        cases alone
      change scanExclamation ('!' :: rest) = _
      rw [scanExclamation, if_pos alone]
      · rfl
      · exact noThird
  | runningAgent => exact if_pos alone
  | runningProcess => exact if_pos alone

/-- The sign of a signal that stands alone. -/
theorem scan_sign (asked : Signal) (alone : standsAlone rest = true) :
    scan ([asked.sign] ++ rest) = .symbol (.signal asked) [asked.sign] := by
  cases asked with
  | errorSuffix =>
      change scanExclamation rest = _
      unfold scanExclamation
      split
      -- None of the signs stands alone.
      iterate 4
        · cases alone
      · exact if_pos alone
  | runningAgent =>
      change scanSignal .runningAgent rest = _
      rw [scanSignal, if_neg (not_isPrefixOf_of_standsAlone alone),
        if_pos alone]
  | runningProcess =>
      change scanSignal .runningProcess rest = _
      rw [scanSignal, if_neg (not_isPrefixOf_of_standsAlone alone),
        if_pos alone]

/-- In front of a text that begins with no sign, an exclamation mark negates. -/
theorem Negates.of_no_sign {c : Char} {tail : List Char}
    (notAlone : standsAlone (c :: tail) = false)
    (noSign : ∀ asked : Signal, c ≠ asked.sign) : Negates (c :: tail) :=
  ⟨notAlone, fun asked _ begins => absurd (List.cons.inj begins).1 (noSign asked),
    fun _ begins => absurd (List.cons.inj begins).1 (noSign .errorSuffix)⟩

theorem scan_negation (negates : Negates rest) :
    scan ('!' :: rest) = .symbol .not ['!'] := by
  obtain ⟨notAlone, noAbsence, noMark⟩ := negates
  change scanExclamation rest = _
  unfold scanExclamation
  split
  · next tail => exact absurd rfl (noMark tail)
  · next tail _ => simp [noAbsence .errorSuffix tail rfl]
  · next tail => simp [noAbsence .runningAgent tail rfl]
  · next tail => simp [noAbsence .runningProcess tail rfl]
  · simp [notAlone]

theorem scan_sigil (sigil : Sigil) {value : List Char} (word : IsWord value)
    (ends : EndsWord rest) :
    scan (sigil.sign :: value ++ rest) =
      .found (.property (some sigil.key) (String.ofList value))
        (1 + value.length) := by
  have scanned : scan (sigil.sign :: value ++ rest) =
      scanSigil sigil (value ++ rest) := by
    cases sigil <;> rfl
  have notEmpty : ¬ value.isEmpty = true := by simpa using word.nonempty
  rw [scanned, scanSigil, takeWhile_isWordPart word.parts ends]
  exact if_neg notEmpty

theorem scan_bareWord (bare : IsBareWord source rest) :
    scan (source ++ rest) =
      .found (ofWord (String.ofList source)) source.length := by
  obtain ⟨⟨c, tail, rfl, starts⟩, parts, ends, noColon, noQuote⟩ := bare
  rw [← scanWord_bare parts ends noColon]
  apply scan_eq_scanWord starts
  rintro others rfl equality
  cases tail with
  | nil => exact noQuote rfl others equality
  | cons d tail =>
      have isQuote : d = '"' := (List.cons.inj equality).1
      have part := parts d (by simp)
      rw [isQuote] at part
      exact absurd part (by decide)

/-- A source is found where it stands. -/
theorem IsSource.scan_eq (written : IsSource source lexeme rest) :
    scan (source ++ rest) = .found lexeme source.length := by
  cases written with
  | openParen => rfl
  | closeParen => rfl
  | @string inside _ _ closed =>
      rw [List.length_cons, Nat.add_comm]
      exact scanQuoted_of_closed closed rest (.string · false)
  | @sensitiveString inside _ _ closed =>
      rw [List.length_cons, List.length_cons, Nat.add_assoc, Nat.add_comm]
      exact scanQuoted_of_closed closed rest (.string · true)
  | mark asked => exact scan_mark asked rest
  | sign asked alone => exact scan_sign asked alone
  | absenceMark asked alone => exact scan_absenceMark asked alone
  | anySignal alone => exact if_pos ⟨rfl, alone⟩
  | negation negates => exact scan_negation negates
  | @status letter status _ known =>
      change scanStatusLetter (letter :: rest) = _
      rw [scanStatusLetter, known]
      rfl
  | sigil sigil word ends =>
      rw [List.length_cons, Nat.add_comm]
      exact scan_sigil sigil word ends
  | @property name value _ key named word ends =>
      rw [List.append_assoc, List.cons_append, scan_named named,
        scanValue_bare key _ word ends, List.length_append, List.length_cons,
        Nat.add_assoc, Nat.add_comm 1]
  | @quotedProperty name inside value _ key named closed =>
      rw [List.append_assoc, List.cons_append, List.cons_append,
        scan_named named]
      refine (scanQuoted_of_closed closed rest (.property (some key))).trans ?_
      rw [List.length_append, List.length_cons, List.length_cons]
      congr 1
      omega
  | word bare => exact scan_bareWord bare

end Written

/-! ## Nothing but sources is found -/

section Found

variable {text rest : List Char} {lexeme : Lexeme} {length : Nat}

/-- A text begins with the source of a lexeme, of a certain length. -/
def BeginsWith (text : List Char) (lexeme : Lexeme) (length : Nat) : Prop :=
  ∃ source rest, text = source ++ rest ∧ source.length = length ∧
    IsSource source lexeme rest

theorem faulty_ne_found {fault : LexicalFault} {offset used : Nat} :
    Scan.faulty fault offset used ≠ Scan.found lexeme length := by
  simp [Scan.faulty, Scan.found]

theorem found_inj {other : Lexeme} {used : Nat}
    (same : Scan.found lexeme length = .found other used) :
    lexeme = other ∧ length = used :=
  ⟨Except.ok.inj (congrArg Scan.outcome same), congrArg Scan.length same⟩

/-- A source that stands at the head of a text, as what a scan has found there. -/
theorem beginsWith_of_found {source : List Char} {other : Lexeme} {used : Nat}
    (found : Scan.found other used = .found lexeme length)
    (counted : source.length = used) (written : IsSource source other rest) :
    BeginsWith (source ++ rest) lexeme length := by
  obtain ⟨rfl, rfl⟩ := found_inj found
  exact ⟨source, rest, rfl, counted, written⟩

theorem exists_inside_of_scanQuoted {opening : Nat} {make : String → Lexeme}
    (found : scanQuoted opening text make = .found lexeme length) :
    ∃ inside value rest, text = inside ++ rest ∧
      Quoted.read inside = .closed value inside.length ∧
      lexeme = make (String.ofList value) ∧ length = opening + inside.length := by
  rw [scanQuoted] at found
  split at found
  · next value used closed =>
      obtain ⟨inside, rest, rfl, rfl, again⟩ := Quoted.exists_inside_of_closed closed
      obtain ⟨rfl, rfl⟩ := found_inj found
      exact ⟨inside, value, rest, rfl, again, rfl, rfl⟩
  · exact absurd found faulty_ne_found
  · exact absurd found faulty_ne_found

theorem beginsWith_of_scanExclamation
    (found : scanExclamation text = .found lexeme length) :
    BeginsWith ('!' :: text) lexeme length := by
  -- Behind the first mark, only one of the signs can make a longer mark.
  have negates : standsAlone text = false →
      (∀ (asked : Signal) (tail : List Char),
        text = asked.sign :: tail → standsAlone tail = false) →
      (∀ tail, text ≠ '!' :: '!' :: tail) →
      Scan.symbol .not ['!'] = .found lexeme length →
        BeginsWith ('!' :: text) lexeme length := by
    intro notAlone noAbsence noMark isNot
    exact beginsWith_of_found isNot rfl (.negation ⟨notAlone, noAbsence, noMark⟩)
  unfold scanExclamation at found
  split at found
  · exact beginsWith_of_found found rfl (.mark .errorSuffix)
  · next tail noMark =>
      split at found
      · next alone =>
          exact beginsWith_of_found found rfl (.absenceMark .errorSuffix alone)
      · next notAlone =>
          refine negates rfl ?_ ?_ found
          · rintro (_ | _ | _) others equality <;> cases equality
            exact eq_false_of_ne_true notAlone
          · rintro others equality
            cases equality
            exact noMark others rfl
  · next tail =>
      split at found
      · next alone =>
          exact beginsWith_of_found found rfl (.absenceMark .runningAgent alone)
      · next notAlone =>
          refine negates rfl ?_ (fun _ => by simp) found
          rintro (_ | _ | _) others equality <;> cases equality
          exact eq_false_of_ne_true notAlone
  · next tail =>
      split at found
      · next alone =>
          exact beginsWith_of_found found rfl
            (.absenceMark .runningProcess alone)
      · next notAlone =>
          refine negates rfl ?_ (fun _ => by simp) found
          rintro (_ | _ | _) others equality <;> cases equality
          exact eq_false_of_ne_true notAlone
  · next noBang noAt noDollar =>
      split at found
      · next alone =>
          exact beginsWith_of_found found rfl (.sign .errorSuffix alone)
      · next notAlone =>
          refine negates (eq_false_of_ne_true notAlone) ?_ ?_ found
          · rintro (_ | _ | _) others rfl
            · exact absurd rfl (noBang others)
            · exact absurd rfl (noAt others)
            · exact absurd rfl (noDollar others)
          · rintro others rfl
            exact noBang ('!' :: others) rfl

theorem beginsWith_of_scanSignal {asked : Signal}
    (found : scanSignal asked text = .found lexeme length) :
    BeginsWith (asked.sign :: text) lexeme length := by
  rw [scanSignal] at found
  split at found
  · next triple =>
      obtain ⟨others, rfl⟩ := List.isPrefixOf_iff_prefix.mp triple
      exact beginsWith_of_found found rfl (.mark asked)
  · split at found
    · next alone => exact beginsWith_of_found found rfl (.sign asked alone)
    · exact absurd found faulty_ne_found

theorem beginsWith_of_scanStatusLetter
    (found : scanStatusLetter text = .found lexeme length) :
    BeginsWith ('%' :: text) lexeme length := by
  cases text with
  | nil => exact absurd found faulty_ne_found
  | cons letter tail =>
      rw [scanStatusLetter] at found
      split at found
      · next status known =>
          exact beginsWith_of_found found rfl (.status known)
      · exact absurd found faulty_ne_found

theorem endsWord_dropWhile (text : List Char) :
    EndsWord (text.dropWhile isWordPart) := by
  intro c tail equality
  have nonempty : text.dropWhile isWordPart ≠ [] := by simp [equality]
  have first := List.head_dropWhile_not isWordPart nonempty
  simpa [equality] using first

theorem isWord_takeWhile
    (nonempty : ¬ (text.takeWhile isWordPart).isEmpty = true) :
    IsWord (text.takeWhile isWordPart) :=
  ⟨by simpa using nonempty, List.all_eq_true.mp List.all_takeWhile⟩

theorem beginsWith_of_scanSigil {sigil : Sigil}
    (found : scanSigil sigil text = .found lexeme length) :
    BeginsWith (sigil.sign :: text) lexeme length := by
  simp only [scanSigil] at found
  split at found
  · exact absurd found faulty_ne_found
  · next nonempty =>
      have written :=
        IsSource.sigil sigil (isWord_takeWhile nonempty) (endsWord_dropWhile text)
      have begins := beginsWith_of_found found (Nat.add_comm _ 1) written
      rw [List.cons_append, List.takeWhile_append_dropWhile] at begins
      exact begins

theorem beginsWith_of_scanValue {name : List Char} {key : PropertyKey}
    (named : PropertyKey.ofWord? (String.ofList name) = some key)
    (found : scanValue key (name.length + 1) text = .found lexeme length) :
    BeginsWith (name ++ ':' :: text) lexeme length := by
  unfold scanValue at found
  split at found
  · next tail =>
      obtain ⟨inside, value, rest, rfl, closed, rfl, rfl⟩ :=
        exists_inside_of_scanQuoted found
      refine ⟨name ++ ':' :: '"' :: inside, rest, by simp, ?_,
        .quotedProperty named closed⟩
      rw [List.length_append, List.length_cons, List.length_cons]
      omega
  · dsimp only at found
    split at found
    · exact absurd found faulty_ne_found
    · next nonempty =>
        have written :=
          IsSource.property named (isWord_takeWhile nonempty)
            (endsWord_dropWhile text)
        have counted :
            (name ++ ':' :: text.takeWhile isWordPart).length =
              name.length + 1 + (text.takeWhile isWordPart).length := by
          rw [List.length_append, List.length_cons]
          omega
        have begins := beginsWith_of_found found counted written
        rw [List.append_assoc, List.cons_append,
          List.takeWhile_append_dropWhile] at begins
        exact begins

theorem beginsWith_of_scanWord {c : Char} {tail : List Char}
    (starts : isWordStart c = true)
    (unquoted : ∀ others, c = 'c' → tail ≠ '"' :: others)
    (found : scanWord (c :: tail) = .found lexeme length) :
    BeginsWith (c :: tail) lexeme length := by
  have whole := List.takeWhile_append_dropWhile (p := isWordPart) (l := c :: tail)
  rw [scanWord] at found
  split at found
  · next text behind =>
      rw [behind] at whole
      split at found
      · next key named =>
          rw [← whole]
          exact beginsWith_of_scanValue named found
      · exact absurd found faulty_ne_found
  · next noColon =>
      have word : (c :: tail).takeWhile isWordPart =
          c :: tail.takeWhile isWordPart := by
        rw [List.takeWhile_cons, isWordPart_of_isWordStart starts]
        rfl
      have bare : IsBareWord ((c :: tail).takeWhile isWordPart)
          ((c :: tail).dropWhile isWordPart) := by
        refine ⟨⟨c, _, word, starts⟩, List.all_eq_true.mp List.all_takeWhile,
          endsWord_dropWhile _, noColon, fun single others quote => ?_⟩
        rw [single, quote] at whole
        obtain ⟨isC, isQuote⟩ := List.cons.inj whole
        exact unquoted others isC.symm isQuote.symm
      have begins := beginsWith_of_found found rfl (.word bare)
      rw [List.takeWhile_append_dropWhile] at begins
      exact begins

/-- What is found at the head of a text has its source there. -/
theorem beginsWith_of_scan (nonempty : text ≠ [])
    (found : scan text = .found lexeme length) :
    BeginsWith text lexeme length := by
  unfold scan at found
  split at found
  · exact absurd rfl nonempty
  · exact beginsWith_of_found found rfl .openParen
  · exact beginsWith_of_found found rfl .closeParen
  · obtain ⟨inside, value, rest, rfl, closed, rfl, rfl⟩ :=
      exists_inside_of_scanQuoted found
    exact ⟨'"' :: inside, rest, rfl, Nat.add_comm _ 1, .string closed⟩
  · obtain ⟨inside, value, rest, rfl, closed, rfl, rfl⟩ :=
      exists_inside_of_scanQuoted found
    exact ⟨'c' :: '"' :: inside, rest, rfl, Nat.add_comm _ 2,
      .sensitiveString closed⟩
  · exact beginsWith_of_scanExclamation found
  · exact beginsWith_of_scanSignal found
  · exact beginsWith_of_scanSignal found
  · exact beginsWith_of_scanStatusLetter found
  · exact beginsWith_of_scanSigil found
  · exact beginsWith_of_scanSigil found
  · exact beginsWith_of_scanSigil found
  · next c tail _ _ _ notQuoted _ _ _ _ _ _ _ =>
      split at found
      · next star =>
          obtain ⟨rfl, alone⟩ := star
          exact beginsWith_of_found found rfl (.anySignal alone)
      · split at found
        · next starts =>
            refine beginsWith_of_scanWord starts ?_ found
            exact fun others isC quote => notQuoted others isC quote
        · exact absurd found faulty_ne_found

/-- What a scan uses up stands at the head of the text. -/
theorem exists_append_of_scan (found : scan text = .found lexeme length) :
    ∃ word behind, text = word ++ behind ∧ word.length = length := by
  cases text with
  | nil =>
      obtain ⟨_, rfl⟩ := found_inj found
      exact ⟨[], [], rfl, rfl⟩
  | cons c tail =>
      obtain ⟨source, rest, whole, counted, _⟩ :=
        beginsWith_of_scan (List.cons_ne_nil c tail) found
      exact ⟨source, rest, whole, counted⟩

end Found

/-! ## The tokens of a text -/

section Tokens

variable {source rest : List Char} {lexeme : Lexeme}

theorem exists_cons_of_named {name text : List Char} {key : PropertyKey}
    (named : PropertyKey.ofWord? (String.ofList name) = some key) :
    ∃ c tail, name ++ text = c :: tail ∧ Text.isBlank c = false := by
  have letters := isAsciiLetter_of_named named
  obtain ⟨c, others, rfl⟩ := List.exists_cons_of_ne_nil (ne_nil_of_named named)
  have part : isWordPart c = true := by
    simp [isWordPart, letters c List.mem_cons_self]
  exact ⟨c, _, rfl, not_isBlank_of_isWordPart part⟩

theorem IsSource.exists_cons (written : IsSource source lexeme rest) :
    ∃ c tail, source = c :: tail ∧ Text.isBlank c = false := by
  cases written with
  | mark asked => cases asked <;> exact ⟨_, _, rfl, by decide⟩
  | sign asked => cases asked <;> exact ⟨_, _, rfl, by decide⟩
  | sigil sigil => cases sigil <;> exact ⟨_, _, rfl, by decide⟩
  | property named => exact exists_cons_of_named named
  | quotedProperty named => exact exists_cons_of_named named
  | word bare =>
      obtain ⟨c, tail, begins, starts⟩ := bare.starts
      have part := isWordPart_of_isWordStart starts
      exact ⟨c, tail, begins, not_isBlank_of_isWordPart part⟩
  | _ => exact ⟨_, _, rfl, by decide⟩

/-- The scan finds a lexeme just if its source stands at the head of the text. -/
theorem scan_eq_found_iff (nonempty : source ≠ []) :
    scan (source ++ rest) = .found lexeme source.length ↔
      IsSource source lexeme rest := by
  constructor
  · intro found
    obtain ⟨other, behind, same, counted, written⟩ :=
      beginsWith_of_scan (List.append_ne_nil_of_left_ne_nil nonempty rest) found
    obtain ⟨rfl, rfl⟩ := List.append_inj same counted.symm
    exact written
  · exact IsSource.scan_eq

theorem isEnd_ofWord (word : String) : (ofWord word).isEnd = false := by
  unfold ofWord
  split <;> rfl

theorem IsSource.isEnd (written : IsSource source lexeme rest) :
    lexeme.isEnd = false := by
  cases written with
  | word => exact isEnd_ofWord _
  | _ => rfl

/-- The tokens of a text that begins with a source are that of the lexeme and those of the rest. -/
theorem IsSource.tokens_eq (written : IsSource source lexeme rest)
    (position : Nat) :
    (Cursor.mk position (source ++ rest)).tokens =
      (Cursor.mk (position + Text.byteLength source) rest).tokens.map
        fun others => ⟨lexeme, position⟩ :: others := by
  obtain ⟨c, tail, begins, notBlank⟩ := written.exists_cons
  exact Cursor.tokens_of_found begins notBlank written.scan_eq written.isEnd
    position

end Tokens

end RecordQuery.Lexeme
