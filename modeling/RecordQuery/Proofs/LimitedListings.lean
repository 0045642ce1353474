import RecordQuery.Proofs.ListingFaults

/-!
# Listings with a limit

A listing without faults shows the first of the records that match, as many as the limit allows. How many
match in all it always says as JSON. The table says it in a last line where records are left out, but a
table without records says that none match, and there is one also if some match and the limit is zero.
-/

namespace RecordQuery

open Text (Style)

/-! ## Ends of tables -/

namespace Report

section Ends

variable {line last : List Char} {rows : List (List Char)}

theorem joinLines_concat (rows : List (List Char)) (last : List Char) :
    (joinLines (rows ++ [last])).toList =
      (joinLines rows).toList ++ last ++ ['\n'] := by
  simp [toList_joinLines]

theorem joinLines_eq_nil_or_ended (rows : List (List Char)) :
    (joinLines rows).toList = [] ∨
      ∃ text, (joinLines rows).toList = text ++ ['\n'] := by
  rcases List.eq_nil_or_concat rows with rfl | ⟨above, row, rfl⟩
  · exact Or.inl (toList_joinLines [])
  · rw [List.concat_eq_append]
    exact Or.inr ⟨_, joinLines_concat above row⟩

/-- What stands at the end of some rows without a line feed is the end of the last row. -/
theorem ended_suffix_joinLines_iff (unbroken : '\n' ∉ line) :
    line ++ ['\n'] <:+ (joinLines (rows ++ [last])).toList ↔ line <:+ last := by
  rw [joinLines_concat, List.suffix_append_self_iff]
  constructor
  · rintro ⟨front, same⟩
    rcases List.append_eq_append_iff.mp same with
      ⟨others, above, whole⟩ | ⟨others, _, whole⟩
    · rcases List.eq_nil_or_concat others with rfl | ⟨begins, c, rfl⟩
      · exact whole ▸ List.suffix_rfl
      · -- The line would begin with the line feed of the row above.
        rw [List.concat_eq_append, ← List.append_assoc] at above
        rcases joinLines_eq_nil_or_ended rows with nothing | ⟨text, ended⟩
        · rw [nothing] at above
          simp at above
        · rw [ended] at above
          obtain ⟨_, isFeed⟩ := List.append_inj' above rfl
          obtain rfl := List.singleton_inj.mp isFeed
          simp [whole] at unbroken
    · exact ⟨others, whole.symm⟩
  · exact fun ends => ends.trans (List.suffix_append _ _)

end Ends

/-! ## Tables of records -/

section Tables

variable {records : List Record} {total : Nat} {colors : Bool}

/-- The notice that records are left out, as it is shown. -/
def shownNotice (shown total : Nat) (colors : Bool) : List Char :=
  Style.dimmed.applyIf colors (cutNotice shown total)

theorem cutNotice_eq (shown total : Nat) :
    cutNotice shown total =
      '(' :: (Nat.toDigits 10 shown ++ " of ".toList ++
        Nat.toDigits 10 total ++ " records shown".toList) ++ [')'] := by
  have spelled : cutNotice shown total =
      ("(" ++ toString shown ++ " of " ++ toString total ++
        " records shown)").toList := rfl
  rw [spelled]
  simp

theorem lineFeed_not_mem_shownNotice (shown total : Nat) (colors : Bool) :
    '\n' ∉ shownNotice shown total colors := by
  have digits (number : Nat) : '\n' ∉ Nat.toDigits 10 number :=
    Text.lineFeed_not_mem_toDigits (by decide) number
  have notice : '\n' ∉ cutNotice shown total := by
    simp [cutNotice_eq, digits]
  cases colors with
  | false => exact notice
  | true =>
      simp [shownNotice, Style.applyIf, Style.apply, Style.sequence,
        Style.onCode, Style.offCode, notice]

theorem exists_shownNotice_eq_concat (shown total : Nat) (colors : Bool) :
    ∃ front c, shownNotice shown total colors = front ++ [c] ∧ c ≠ '.' := by
  cases colors with
  | false => exact ⟨_, ')', cutNotice_eq shown total, by decide⟩
  | true =>
      have ending : Style.sequence Style.dimmed.offCode =
          ['\x1b', '[', '0'] ++ ['m'] := rfl
      refine ⟨Style.sequence Style.dimmed.onCode ++ cutNotice shown total ++
        ['\x1b', '[', '0'], 'm', ?_, by decide⟩
      rw [shownNotice, Style.applyIf, if_pos rfl, Style.apply, ending,
        ← List.append_assoc]

/-- A table of some records has a header, the rows of the records, and the notice if some are left out. -/
theorem recordsTable_of_ne_nil (nonempty : records ≠ []) :
    recordsTable records total colors =
      joinLines (Style.dimmed.applyIf colors recordsHeader ::
        records.map (recordRow colors) ++
          if records.length < total then
            [shownNotice records.length total colors] else []) := by
  have notEmpty : ¬ records.isEmpty = true := by
    simpa using nonempty
  rw [recordsTable, if_neg notEmpty]
  rfl

theorem recordsTable_eq_iff :
    recordsTable records total colors = "No matching records.\n" ↔
      records = [] := by
  constructor
  · intro none
    by_cases nonempty : records = []
    · exact nonempty
    · rw [recordsTable_of_ne_nil nonempty, ← String.toList_inj,
        toList_joinLines, List.cons_append, List.flatMap_cons] at none
      have second := congrArg (·[1]?) none
      cases colors <;> cases second
  · rintro rfl
    rfl

/-- A table ends with the notice if records are left out, or if the row of the last record ends so. -/
theorem notice_suffix_recordsTable_iff :
    shownNotice records.length total colors ++ ['\n'] <:+
        (recordsTable records total colors).toList ↔
      records ≠ [] ∧
        (records.length < total ∨ ∃ record ∈ records.getLast?,
          shownNotice records.length total colors <:+
            recordRow colors record) := by
  rcases List.eq_nil_or_concat records with rfl | ⟨others, record, rfl⟩
  · obtain ⟨front, c, ends, notPoint⟩ :=
      exists_shownNotice_eq_concat ([] : List Record).length total colors
    have text : (recordsTable [] total colors).toList =
        "No matching records".toList ++ ['.'] ++ ['\n'] := by
      change "No matching records.\n".toList = _
      decide
    have sameLength : [c].length = ['.'].length := rfl
    rw [ends, text, List.suffix_append_self_iff,
      List.suffix_append_inj_of_length_eq sameLength, List.singleton_inj]
    exact ⟨fun both => absurd both.2 notPoint,
      fun nonempty => absurd rfl nonempty.1⟩
  · rw [List.concat_eq_append]
    have nonempty : others ++ [record] ≠ [] := by simp
    have isLast : (others ++ [record]).getLast? = some record :=
      List.getLast?_concat
    have unbroken :=
      lineFeed_not_mem_shownNotice (others ++ [record]).length total colors
    rw [recordsTable_of_ne_nil nonempty, isLast]
    by_cases cut : (others ++ [record]).length < total
    · rw [if_pos cut, ended_suffix_joinLines_iff unbroken]
      exact ⟨fun _ => ⟨nonempty, Or.inl cut⟩, fun _ => List.suffix_rfl⟩
    · rw [if_neg cut, List.append_nil, List.map_append, List.map_singleton,
        ← List.cons_append, ended_suffix_joinLines_iff unbroken]
      constructor
      · exact fun ends => ⟨nonempty, Or.inr ⟨record, rfl, ends⟩⟩
      · rintro ⟨_, less | ⟨other, ⟨⟩, ends⟩⟩
        · exact absurd less cut
        · exact ends

end Tables

end Report

namespace Command.Listing

/-! ## What is listed -/

section Listed

variable {σ : Type} [Files (StateM σ)] (listing : Listing σ)

/-- The records that are read, if they can be had. -/
def records : List Record :=
  (listing.recordsPath?.bind fun path =>
    (readIn listing.state path).toOption.bind Record.listOfText?).getD []

/-- What the records are to fulfil, if there is a query. -/
def expr? : Option Expr :=
  listing.query?.bind fun text => (Expr.ofText text).toOption

/-- All records that match, in the order in which they are read. -/
def found : List Record :=
  listing.records.filter fun record =>
    listing.expr?.all fun expr =>
      expr.holds (some (.ofRecords listing.records)) record

/-- The first records that match, as many as the limit allows. -/
def shown : List Record :=
  listing.found.take (listing.limit.getD listing.found.length)

def colors : Bool :=
  wantsColors listing.environment listing.invocation listing.settings

/-- What is reported about what is read. -/
def text : String :=
  Command.listing listing.invocation listing.query? listing.expr?
    listing.limit listing.records listing.colors

theorem matching_records :
    matching listing.expr? listing.records = listing.found := by
  rw [found]
  cases listing.expr? with
  | none => exact (List.filter_eq_self.mpr fun _ _ => rfl).symm
  | some expr => rfl

theorem limited_found :
    limited listing.limit listing.found = listing.shown := by
  rw [shown]
  cases listing.limit with
  | none => simp [limited]
  | some limit => rfl

theorem length_shown :
    listing.shown.length =
      min (listing.limit.getD listing.found.length) listing.found.length :=
  List.length_take

theorem shown_eq_nil_iff :
    listing.shown = [] ↔ listing.found = [] ∨ listing.limit = some 0 := by
  rw [shown, List.take_eq_nil_iff]
  cases listing.limit with
  | none => simp
  | some limit => simp [or_comm]

variable {listing}

theorem text_of_json (json : listing.invocation.json = true) :
    listing.text =
      printed (Report.recordsObject listing.query?
        (listing.expr?.map Expr.canonical) listing.shown
        listing.found.length) := by
  rw [text, Command.listing, if_pos json, matching_records, limited_found]

theorem text_of_plain (plain : listing.invocation.json = false)
    (loud : listing.invocation.quiet = false) :
    listing.text =
      Report.recordsTable listing.shown listing.found.length
        listing.colors := by
  rw [text, Command.listing, matching_records, limited_found, plain, loud]
  rfl

end Listed

/-! ## Listings without faults -/

section Faultless

variable {σ : Type} [Files (StateM σ)] {listing : Listing σ}

theorem occurs_eq_false (faultless : listing.firstFault? = none)
    (fault : ListingFault) : listing.occurs fault = false := by
  have member : fault ∈ ListingFault.all := by cases fault <;> decide
  have absent := List.find?_eq_none.mp faultless fault member
  exact eq_false_of_ne_true absent

theorem gives_settings (place : listing.occurs .noSettingsPlace = false)
    (usable : listing.occurs .unusableSettings = false)
    [LawfulFiles σ] :
    Gives listing.state (loadSettings listing.environment)
      (.ok listing.settings) := by
  have loaded := gives_loadSettings listing.state listing.environment
  rw [settings, settingsIn]
  cases known : settingsPath listing.environment with
  | error error =>
      rw [occurs, known] at place
      cases place
  | ok path =>
      rw [occurs_unusableSettings known] at usable
      cases read : settingsRead listing.state listing.environment with
      | error error =>
          rw [read] at usable
          cases usable
      | ok settings =>
          rw [read] at loaded
          exact loaded

theorem gives_recordsPath (present : listing.occurs .noRecordsPath = false) :
    ∃ path, listing.recordsPath? = some path ∧
      Gives listing.state
        (Action.ofExcept (recordsPath listing.invocation listing.settings))
        (.ok path) := by
  cases known : listing.recordsPath? with
  | none =>
      rw [occurs, known] at present
      cases present
  | some path =>
      have located : recordsPath listing.invocation listing.settings =
          .ok path := by
        rw [recordsPath?] at known
        rw [recordsPath, known]
      rw [located]
      exact ⟨path, rfl, gives_ofExcept _⟩

theorem gives_chosenQuery (known : listing.occurs .unknownQuery = false) :
    Gives listing.state
      (Action.ofExcept
        (chosenQuery listing.settings listing.query listing.saved))
      (.ok listing.query?) := by
  have chosen : chosenQuery listing.settings listing.query listing.saved =
      .ok listing.query? := by
    rw [occurs] at known
    rw [query?] at known ⊢
    cases named : listing.saved with
    | none => rfl
    | some name =>
        simp only [named] at known ⊢
        rw [chosenQuery, Settings.savedQuery]
        cases saved : listing.settings.queries.lookup name with
        | none =>
            rw [saved] at known
            cases known
        | some text => rfl
  rw [chosen]
  exact gives_ofExcept _

theorem gives_readQuery (accepted : listing.occurs .rejectedQuery = false) :
    Gives listing.state (Action.ofExcept (listing.query?.mapM readQuery))
      (.ok listing.expr?) := by
  have read : listing.query?.mapM readQuery = .ok listing.expr? := by
    rw [occurs] at accepted
    rw [expr?]
    cases chosen : listing.query? with
    | none => rfl
    | some text =>
        rw [chosen, Option.any_some] at accepted
        rw [Option.mapM_some, readQuery, Option.bind_some]
        cases taken : Expr.ofText text with
        | error error =>
            rw [taken] at accepted
            cases accepted
        | ok expr => rfl
  rw [read]
  exact gives_ofExcept _

theorem gives_records {path : String} [LawfulFiles σ]
    (known : listing.recordsPath? = some path)
    (present : listing.occurs .missingRecords = false)
    (readable : listing.occurs .unreadableRecords = false)
    (wellFormed : listing.occurs .malformedRecords = false) :
    Gives listing.state (loadRecords path) (.ok listing.records) := by
  have look := gives_isPresent listing.state path
  have taken := gives_read listing.state .file path
  rw [occurs, known, Option.any_some] at present
  rw [occurs, known, Option.any_some] at readable
  rw [occurs, known, Option.any_some] at wellFormed
  rw [records, known, Option.bind_some]
  cases isThere : presentIn listing.state path with
  | false =>
      rw [isThere] at present
      cases present
  | true =>
      rw [isThere] at look
      cases read : readIn listing.state path with
      | error error =>
          rw [read] at readable
          cases readable
      | ok text =>
          rw [read] at taken wellFormed
          refine look.bind (taken.bind ?_)
          change Gives listing.state _
            (.ok ((Record.listOfText? text).getD []))
          cases parsed : Record.listOfText? text with
          | none =>
              simp [parsed, Except.toOption] at wellFormed
          | some records => exact gives_pure records

/-- A listing without faults gives the report of what it reads. -/
theorem gives_showRecords [LawfulFiles σ]
    (faultless : listing.firstFault? = none) :
    Gives listing.state
      (showRecords listing.environment listing.invocation listing.query
        listing.saved listing.limit)
      (.ok listing.text) := by
  have absent := occurs_eq_false faultless
  obtain ⟨path, known, located⟩ := gives_recordsPath (absent .noRecordsPath)
  have loaded :=
    gives_settings (absent .noSettingsPlace) (absent .unusableSettings)
  have chosen := gives_chosenQuery (absent .unknownQuery)
  have accepted := gives_readQuery (absent .rejectedQuery)
  have read := gives_records known (absent .missingRecords)
    (absent .unreadableRecords) (absent .malformedRecords)
  exact loaded.bind (located.bind (chosen.bind (accepted.bind
    (read.bind (gives_pure _)))))

end Faultless

/-! ## Runs of listings -/

section Runs

open Report

variable {σ : Type} [Files (StateM σ)] [LawfulFiles σ] (state : σ)
  {environment : Environment} {arguments : List String}
  {invocation : Invocation} {query saved : Option String}
  {limit : Option Nat}

theorem run_of_faultless
    (accepted : Invocation.of environment arguments = .ok invocation)
    (asked : invocation.task = .list query saved limit) :
    let listing : Listing σ :=
      ⟨state, environment, invocation, query, saved, limit⟩
    listing.firstFault? = none →
      (run environment arguments : StateM σ Outcome).run state =
        (⟨0, listing.text, ""⟩, state) := by
  intro listing faultless
  have task : runTask environment invocation =
      (showRecords environment invocation query saved limit :
        Action (StateM σ) String) := by
    rw [runTask, asked]
  exact run_of_gives accepted (task ▸ gives_showRecords faultless)

/-- A listing without faults shows the first records that match, as many as the limit allows. As JSON it
has those, and the number of all that match. The table says that none match just if there are none or the
limit is zero; the notice stands below the records just if some are left out. -/
theorem report_of_faultless
    (accepted : Invocation.of environment arguments = .ok invocation)
    (asked : invocation.task = .list query saved limit) :
    let listing : Listing σ :=
      ⟨state, environment, invocation, query, saved, limit⟩
    let result := ((run environment arguments : StateM σ Outcome).run state).1
    let total := listing.found.length
    let notice := shownNotice listing.shown.length total listing.colors
    listing.firstFault? = none →
      result.exitCode = 0 ∧
      listing.shown <+: listing.found ∧
      listing.shown.length = min (limit.getD total) total ∧
      (invocation.json = true →
        ∃ fields, result.stdout = printed (.object fields) ∧
          fields.lookup "total" = some (.natural total) ∧
          fields.lookup "records" =
            some (.array (listing.shown.map recordObject))) ∧
      (invocation.json = false → invocation.quiet = false →
        (result.stdout = "No matching records.\n" ↔
          listing.found = [] ∨ limit = some 0) ∧
        (listing.shown ≠ [] →
          result.stdout =
            joinLines (Style.dimmed.applyIf listing.colors recordsHeader ::
              listing.shown.map (recordRow listing.colors) ++
                if listing.shown.length < total then [notice] else [])) ∧
        (notice ++ ['\n'] <:+ result.stdout.toList ↔
          listing.shown ≠ [] ∧
            (listing.shown.length < total ∨
              ∃ record ∈ listing.shown.getLast?,
                notice <:+ recordRow listing.colors record))) := by
  intro listing result total notice faultless
  have ran := run_of_faultless state accepted asked faultless
  have same : result = ⟨0, listing.text, ""⟩ := congrArg Prod.fst ran
  rw [same]
  refine ⟨rfl, List.take_prefix _ _, listing.length_shown, ?_, ?_⟩
  · intro json
    refine ⟨_, text_of_json json, ?_, ?_⟩
    · cases listing.expr? <;> rfl
    · cases listing.expr? <;> rfl
  · intro plain loud
    have table : listing.text = recordsTable listing.shown total listing.colors :=
      text_of_plain plain loud
    simp only [table]
    exact ⟨recordsTable_eq_iff.trans listing.shown_eq_nil_iff,
      recordsTable_of_ne_nil, notice_suffix_recordsTable_iff⟩

/-- A file of two records. -/
def linkFiles : FileTree :=
  .ofFiles [("records.json",
    "[\x7b\"name\": \"link\", \"status\": \"Drafted\", \"file_path\": \"/p/a.gp\"\x7d, " ++
    "\x7b\"name\": \"link_tests\", \"status\": \"Mailed\", \"file_path\": \"/p/a.gp\"\x7d]")]

/-- A listing of both records, as many as the limit allows. -/
def linkListing (limit : Nat) : Listing FileTree where
  state := linkFiles
  environment := { configFile := some "config.toml" }
  invocation := {
    task := .list (some "link") none (some limit)
    noColor := true
    records := some "records.json" }
  query := some "link"
  saved := none
  limit := some limit

theorem firstFault?_linkListing (limit : Nat) :
    (linkListing limit).firstFault? = none := by
  have faultless : (linkListing 0).firstFault? = none := by decide +kernel
  exact faultless

theorem length_found_linkListing (limit : Nat) :
    (linkListing limit).found.length = 2 := by
  have both : (linkListing 0).found.length = 2 := by decide +kernel
  exact both

theorem report_of_faultless_cut :
    Invocation.of (linkListing 1).environment
        ["list", "link", "--no-color", "--records=records.json", "-n1"] =
      .ok (linkListing 1).invocation ∧
    (linkListing 1).firstFault? = none ∧
    ((run (linkListing 1).environment
        ["list", "link", "--no-color", "--records=records.json", "-n1"] :
      StateM FileTree Outcome).run linkFiles).1.exitCode = 0 ∧
    "(1 of 2 records shown)\n".toList <:+
      ((run (linkListing 1).environment
          ["list", "link", "--no-color", "--records=records.json", "-n1"] :
        StateM FileTree Outcome).run linkFiles).1.stdout.toList := by
  have accepted : Invocation.of (linkListing 1).environment
        ["list", "link", "--no-color", "--records=records.json", "-n1"] =
      .ok (linkListing 1).invocation := rfl
  have faultless := firstFault?_linkListing 1
  have both := length_found_linkListing 1
  have first : (linkListing 1).shown.length = 1 := by
    rw [length_shown, both]
    rfl
  obtain ⟨code, _, _, _, table⟩ :=
    report_of_faultless linkFiles accepted rfl faultless
  obtain ⟨_, _, ends⟩ := table rfl rfl
  refine ⟨accepted, faultless, code, ?_⟩
  have nonempty : (linkListing 1).shown ≠ [] :=
    List.ne_nil_of_length_pos (by omega)
  have cut : (linkListing 1).shown.length < (linkListing 1).found.length := by
    omega
  have spelled : "(1 of 2 records shown)\n".toList =
      shownNotice (linkListing 1).shown.length
        (linkListing 1).found.length (linkListing 1).colors ++ ['\n'] := by
    rw [both, first]
    decide
  rw [spelled]
  exact ends.mpr ⟨nonempty, Or.inl cut⟩

/-- If the limit is zero, the table says that no records match, and not that two of them are left out. -/
theorem not_notice_of_limit_zero :
    Invocation.of (linkListing 0).environment
        ["list", "link", "--no-color", "--records=records.json", "-n0"] =
      .ok (linkListing 0).invocation ∧
    (linkListing 0).firstFault? = none ∧
    (linkListing 0).found.length = 2 ∧
    (linkListing 0).shown.length = 0 ∧
    ((run (linkListing 0).environment
        ["list", "link", "--no-color", "--records=records.json", "-n0"] :
      StateM FileTree Outcome).run linkFiles).1.stdout =
        "No matching records.\n" := by
  have accepted : Invocation.of (linkListing 0).environment
        ["list", "link", "--no-color", "--records=records.json", "-n0"] =
      .ok (linkListing 0).invocation := rfl
  have faultless := firstFault?_linkListing 0
  have none : (linkListing 0).shown = [] :=
    (linkListing 0).shown_eq_nil_iff.mpr (Or.inr rfl)
  have ran := run_of_faultless linkFiles accepted rfl faultless
  have table : (linkListing 0).text =
      recordsTable (linkListing 0).shown (linkListing 0).found.length
        (linkListing 0).colors :=
    text_of_plain rfl rfl
  refine ⟨accepted, faultless, length_found_linkListing 0,
    congrArg List.length none, ?_⟩
  rw [congrArg (fun finished => finished.1.stdout) ran]
  exact table.trans (recordsTable_eq_iff.mpr none)

end Runs

end Command.Listing

end RecordQuery
