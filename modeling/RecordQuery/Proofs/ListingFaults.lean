import RecordQuery.Proofs.Looking

/-!
# Faults of a listing

Several things can be wrong with a listing of records at once. They are noticed in a fixed order, and
the first one decides the exit code; a listing that fails prints nothing but a report of what is wrong.
-/

namespace RecordQuery.Command

/-- What can be wrong with a listing, in the order in which it is noticed. -/
inductive ListingFault where
  /-- No place is known where settings could be kept. -/
  | noSettingsPlace
  /-- There is a settings file, and it cannot be read as settings. -/
  | unusableSettings
  /-- Neither the arguments nor the environment nor the settings name a file of records. -/
  | noRecordsPath
  | unknownQuery
  | rejectedQuery
  | missingRecords
  | unreadableRecords
  | malformedRecords
  deriving DecidableEq, Repr

namespace ListingFault

def all : List ListingFault :=
  [noSettingsPlace, unusableSettings, noRecordsPath, unknownQuery,
    rejectedQuery, missingRecords, unreadableRecords, malformedRecords]

def exitCode : ListingFault → Nat
  | noSettingsPlace => 5
  | unusableSettings => 5
  | noRecordsPath => 4
  | unknownQuery => 5
  | rejectedQuery => 1
  | missingRecords => 4
  | unreadableRecords => 3
  | malformedRecords => 4

end ListingFault

/-- A listing that is asked for in some state of the files. -/
structure Listing (σ : Type) where
  state : σ
  environment : Environment
  invocation : Invocation
  query : Option String
  saved : Option String
  limit : Option Nat

namespace Listing

/-! ## The first fault -/

section FirstFault

variable {σ : Type} [Files (StateM σ)] (listing : Listing σ)

/-- The settings, if they can be had. -/
def settings : Settings :=
  settingsIn listing.state listing.environment

def recordsPath? : Option String :=
  listing.invocation.records.or listing.settings.records

/-- The query that selects records, if there is one. -/
def query? : Option String :=
  match listing.saved with
  | some name => listing.settings.queries.lookup name
  | none => listing.query

/-- Whether a fault is there. Where a question is about settings, a path or a query that cannot be had,
an earlier fault is there. -/
def occurs : ListingFault → Bool
  | .noSettingsPlace => (settingsPath listing.environment).toOption.isNone
  | .unusableSettings =>
      (settingsPath listing.environment).toOption.any fun path =>
        presentIn listing.state path &&
          ((readIn listing.state path).toOption.bind Settings.ofText?).isNone
  | .noRecordsPath => listing.recordsPath?.isNone
  | .unknownQuery => listing.saved.isSome && listing.query?.isNone
  | .rejectedQuery =>
      listing.query?.any fun text => (Expr.ofText text).toOption.isNone
  | .missingRecords =>
      listing.recordsPath?.any fun path => !presentIn listing.state path
  | .unreadableRecords =>
      listing.recordsPath?.any fun path =>
        (readIn listing.state path).toOption.isNone
  | .malformedRecords =>
      listing.recordsPath?.any fun path =>
        (readIn listing.state path).toOption.any fun text =>
          (Record.listOfText? text).isNone

def firstFault? : Option ListingFault :=
  ListingFault.all.find? listing.occurs

/-- Of some faults, the first one that is there decides how an action fails; it succeeds if there is
none. -/
def Decides {α : Type} (faults : List ListingFault)
    (action : Action (StateM σ) α) : Prop :=
  match faults.find? listing.occurs with
  | some fault => ∃ error, Gives listing.state action (.error error) ∧
      error.exitCode = fault.exitCode
  | none => ∃ value, Gives listing.state action (.ok value)

variable {listing} {α β : Type} {action : Action (StateM σ) α}
  {fault : ListingFault} {faults : List ListingFault}

theorem decides_nil {value : α}
    (gives : Gives listing.state action (.ok value)) :
    listing.Decides [] action :=
  ⟨value, gives⟩

theorem decides_of_occurs {error : CommandError}
    (here : listing.occurs fault = true)
    (gives : Gives listing.state action (.error error))
    (code : error.exitCode = fault.exitCode) :
    listing.Decides (fault :: faults) action := by
  rw [Decides, List.find?_cons_of_pos here]
  exact ⟨error, gives, code⟩

theorem decides_of_not_occurs (absent : listing.occurs fault = false)
    (others : listing.Decides faults action) :
    listing.Decides (fault :: faults) action := by
  rw [Decides, List.find?_cons_of_neg (by simp [absent])]
  exact others

theorem Decides.bind {first : Action (StateM σ) β} {value : β}
    {next : β → Action (StateM σ) α}
    (gives : Gives listing.state first (.ok value))
    (decides : listing.Decides faults (next value)) :
    listing.Decides faults (first >>= next) := by
  unfold Decides at decides ⊢
  split at decides
  · obtain ⟨error, fails, code⟩ := decides
    exact ⟨error, gives.bind fails, code⟩
  · obtain ⟨result, succeeds⟩ := decides
    exact ⟨result, gives.bind succeeds⟩

end FirstFault

/-! ## The steps of a listing -/

section Steps

variable {σ : Type} [Files (StateM σ)] {listing : Listing σ} {α : Type}
  {faults : List ListingFault}

theorem decides_recordsPath {next : String → Action (StateM σ) α}
    (others : ∀ path, listing.recordsPath? = some path →
      listing.Decides faults (next path)) :
    listing.Decides (.noRecordsPath :: faults)
      (Action.ofExcept (recordsPath listing.invocation listing.settings) >>=
        next) := by
  have answers : Gives listing.state
      (Action.ofExcept (recordsPath listing.invocation listing.settings)) _ :=
    gives_ofExcept _
  have same : recordsPath listing.invocation listing.settings =
      match listing.recordsPath? with
      | some path => .ok path
      | none => .error (.records .noFile) := rfl
  rw [same] at answers ⊢
  cases known : listing.recordsPath? with
  | none =>
      rw [known] at answers
      have here : listing.occurs .noRecordsPath = true := by
        rw [occurs, known]
        rfl
      exact decides_of_occurs here (answers.bind_error next) rfl
  | some path =>
      rw [known] at answers
      have absent : listing.occurs .noRecordsPath = false := by
        rw [occurs, known]
        rfl
      exact decides_of_not_occurs absent (.bind answers (others path known))

theorem decides_chosenQuery {next : Option String → Action (StateM σ) α}
    (others : listing.Decides faults (next listing.query?)) :
    listing.Decides (.unknownQuery :: faults)
      (Action.ofExcept
        (chosenQuery listing.settings listing.query listing.saved) >>=
          next) := by
  have answers : Gives listing.state
      (Action.ofExcept
        (chosenQuery listing.settings listing.query listing.saved)) _ :=
    gives_ofExcept _
  cases named : listing.saved with
  | none =>
      have chosen : listing.query? = listing.query := by
        rw [query?, named]
      have absent : listing.occurs .unknownQuery = false := by
        rw [occurs, named]
        rfl
      rw [chosen] at others
      rw [named] at answers
      exact decides_of_not_occurs absent (.bind answers others)
  | some name =>
      have chosen : listing.query? = listing.settings.queries.lookup name := by
        rw [query?, named]
      rw [chosen] at others
      rw [named, chosenQuery, Settings.savedQuery] at answers
      rw [chosenQuery, Settings.savedQuery]
      cases found : listing.settings.queries.lookup name with
      | none =>
          rw [found] at answers
          have here : listing.occurs .unknownQuery = true := by
            rw [occurs, named, chosen, found]
            rfl
          exact decides_of_occurs here (answers.bind_error next) rfl
      | some text =>
          rw [found] at answers others
          have absent : listing.occurs .unknownQuery = false := by
            rw [occurs, named, chosen, found]
            rfl
          exact decides_of_not_occurs absent (.bind answers others)

theorem decides_readQuery {next : Option Expr → Action (StateM σ) α}
    (others : ∀ expr, listing.Decides faults (next expr)) :
    listing.Decides (.rejectedQuery :: faults)
      (Action.ofExcept (listing.query?.mapM readQuery) >>= next) := by
  have answers : Gives listing.state
      (Action.ofExcept (listing.query?.mapM readQuery)) _ :=
    gives_ofExcept _
  cases chosen : listing.query? with
  | none =>
      rw [chosen] at answers
      have absent : listing.occurs .rejectedQuery = false := by
        rw [occurs, chosen]
        rfl
      exact decides_of_not_occurs absent (.bind answers (others none))
  | some text =>
      rw [chosen, Option.mapM_some, readQuery] at answers
      rw [Option.mapM_some, readQuery]
      cases read : Expr.ofText text with
      | error error =>
          rw [read] at answers
          have here : listing.occurs .rejectedQuery = true := by
            rw [occurs, chosen, Option.any_some, read]
            rfl
          exact decides_of_occurs here (answers.bind_error next) rfl
      | ok expr =>
          rw [read] at answers
          have absent : listing.occurs .rejectedQuery = false := by
            rw [occurs, chosen, Option.any_some, read]
            rfl
          exact decides_of_not_occurs absent
            (.bind answers (others (some expr)))

/-- Where a place is known for the settings, they are unusable just if looking for them fails. -/
theorem occurs_unusableSettings {path : String}
    (place : settingsPath listing.environment = .ok path) :
    listing.occurs .unusableSettings =
      (settingsRead listing.state listing.environment).toOption.isNone := by
  rw [occurs, settingsRead, place]
  simp only [Except.toOption, Option.any_some]
  cases presentIn listing.state path with
  | false => rfl
  | true =>
      cases readIn listing.state path with
      | error error => rfl
      | ok text =>
          simp only [Option.bind_some]
          cases Settings.ofText? text <;> rfl

variable [LawfulFiles σ]

theorem decides_loadRecords {path : String}
    (known : listing.recordsPath? = some path)
    {next : List Record → Action (StateM σ) α}
    (succeeds : ∀ records, ∃ value,
      Gives listing.state (next records) (.ok value)) :
    listing.Decides [.missingRecords, .unreadableRecords, .malformedRecords]
      (loadRecords path >>= next) := by
  have look := gives_isPresent listing.state path
  have taken := gives_read listing.state .file path
  cases present : presentIn listing.state path with
  | false =>
      rw [present] at look
      have here : listing.occurs .missingRecords = true := by
        rw [occurs, known, Option.any_some, present]
        rfl
      have fails : Gives listing.state (loadRecords path)
          (.error (.records (.notFound path))) := look.bind (gives_throw _)
      exact decides_of_occurs here (fails.bind_error next) rfl
  | true =>
      rw [present] at look
      have absent : listing.occurs .missingRecords = false := by
        rw [occurs, known, Option.any_some, present]
        rfl
      refine decides_of_not_occurs absent ?_
      cases read : readIn listing.state path with
      | error error =>
          rw [read] at taken
          have here : listing.occurs .unreadableRecords = true := by
            rw [occurs, known, Option.any_some, read]
            rfl
          have fails : Gives listing.state (loadRecords path)
              (.error (.file error)) := look.bind (taken.bind_error _)
          exact decides_of_occurs here (fails.bind_error next) rfl
      | ok text =>
          rw [read] at taken
          have absent : listing.occurs .unreadableRecords = false := by
            rw [occurs, known, Option.any_some, read]
            rfl
          have asks : listing.occurs .malformedRecords =
              (Record.listOfText? text).isNone := by
            rw [occurs, known, Option.any_some, read]
            rfl
          refine decides_of_not_occurs absent ?_
          cases parsed : Record.listOfText? text with
          | none =>
              rw [parsed] at asks
              have fails : Gives listing.state (loadRecords path)
                  (.error (.records (.malformed path))) := by
                refine look.bind (taken.bind ?_)
                rw [parsed]
                exact gives_throw _
              exact decides_of_occurs asks (fails.bind_error next) rfl
          | some records =>
              rw [parsed] at asks
              have loads : Gives listing.state (loadRecords path)
                  (.ok records) := by
                refine look.bind (taken.bind ?_)
                rw [parsed]
                exact gives_pure _
              obtain ⟨value, gives⟩ := succeeds records
              exact decides_of_not_occurs asks (decides_nil (loads.bind gives))

theorem decides_loadSettings {next : Settings → Action (StateM σ) α}
    (others : listing.Decides faults (next listing.settings)) :
    listing.Decides (.noSettingsPlace :: .unusableSettings :: faults)
      (loadSettings listing.environment >>= next) := by
  have loaded := gives_loadSettings listing.state listing.environment
  rw [settings, settingsIn] at others
  cases place : settingsPath listing.environment with
  | error error =>
      have here : listing.occurs .noSettingsPlace = true := by
        rw [occurs, place]
        rfl
      rw [settingsRead, place] at loaded
      exact decides_of_occurs here (loaded.bind_error next) rfl
  | ok path =>
      have absent : listing.occurs .noSettingsPlace = false := by
        rw [occurs, place]
        rfl
      refine decides_of_not_occurs absent ?_
      have asks := occurs_unusableSettings place
      cases read : settingsRead listing.state listing.environment with
      | error error =>
          rw [read] at loaded asks
          exact decides_of_occurs asks (loaded.bind_error next) rfl
      | ok settings =>
          rw [read] at loaded asks others
          exact decides_of_not_occurs asks (.bind loaded others)

/-- A listing fails over the first fault that is there, and succeeds if there is none. -/
theorem decides_showRecords (listing : Listing σ) :
    listing.Decides ListingFault.all
      (showRecords listing.environment listing.invocation listing.query
        listing.saved listing.limit) := by
  refine decides_loadSettings (decides_recordsPath fun path known => ?_)
  refine decides_chosenQuery (decides_readQuery fun expr => ?_)
  exact decides_loadRecords known fun records => ⟨_, gives_pure _⟩

end Steps

/-! ## Runs of a listing -/

section Runs

variable {σ : Type} [Files (StateM σ)] [LawfulFiles σ] (state : σ)
  {environment : Environment} {arguments : List String}
  {invocation : Invocation} {query saved : Option String}
  {limit : Option Nat}

/-- The exit code of a listing is that of the first fault that is there, or zero if there is none, and
nothing is printed if it is not zero. -/
theorem exitCode_of_listing
    (accepted : Invocation.of environment arguments = .ok invocation)
    (asked : invocation.task = .list query saved limit) :
    let listing : Listing σ :=
      ⟨state, environment, invocation, query, saved, limit⟩
    let result := ((run environment arguments : StateM σ Outcome).run state).1
    result.exitCode = (listing.firstFault?.map ListingFault.exitCode).getD 0 ∧
      (result.exitCode ≠ 0 → result.stdout = "") := by
  intro listing result
  have decides := decides_showRecords listing
  have task : runTask environment invocation =
      (showRecords environment invocation query saved limit :
        Action (StateM σ) String) := by
    rw [runTask, asked]
  unfold Decides at decides
  rw [firstFault?]
  split at decides
  · next fault found =>
      obtain ⟨error, gives, code⟩ := decides
      have ran := run_of_gives accepted (task ▸ gives)
      have same : result = outcome invocation (.error error) :=
        congrArg Prod.fst ran
      rw [same, found]
      exact ⟨code, fun _ => rfl⟩
  · next none =>
      obtain ⟨text, gives⟩ := decides
      have ran := run_of_gives accepted (task ▸ gives)
      have same : result = outcome invocation (.ok text) :=
        congrArg Prod.fst ran
      rw [same, none]
      exact ⟨rfl, fun notZero => absurd rfl notZero⟩

/-- A settings file with one saved query, and a file of records that ends too early. -/
def cutFiles : FileTree :=
  .ofFiles [("config.toml", "[queries]\ndrafts = \"(\"\n"), ("records.json", "[")]

theorem exitCode_of_listing_unknown :
    Invocation.of { configFile := some "config.toml" }
        ["list", "--json", "-s", "draft", "--records=records.json"] =
      .ok {
        task := .list none (some "draft") none
        json := true
        records := some "records.json" } ∧
    ((run { configFile := some "config.toml" }
        ["list", "--json", "-s", "draft", "--records=records.json"] :
      StateM FileTree Outcome).run cutFiles).1.exitCode = 5 ∧
    ((run { configFile := some "config.toml" }
        ["list", "--json", "-s", "draft", "--records=records.json"] :
      StateM FileTree Outcome).run cutFiles).1.stdout = "" := by
  have accepted : Invocation.of { configFile := some "config.toml" }
        ["list", "--json", "-s", "draft", "--records=records.json"] =
      .ok {
        task := .list none (some "draft") none
        json := true
        records := some "records.json" } := rfl
  obtain ⟨code, silent⟩ :=
    exitCode_of_listing cutFiles accepted rfl
  have unknown : (Listing.mk cutFiles { configFile := some "config.toml" }
      {
        task := .list none (some "draft") none
        json := true
        records := some "records.json" }
      none (some "draft") none).firstFault? = some .unknownQuery := by
    decide +kernel
  rw [unknown] at code
  exact ⟨accepted, code, silent (by rw [code]; decide)⟩

/-- A listing of a file without records, for a user who has no place for settings. -/
def unplacedListing : Listing FileTree where
  state := .ofFiles [("records.json", "[]")]
  environment := {}
  invocation := {
    task := .list none none none
    records := some "records.json" }
  query := none
  saved := none
  limit := none

/-- Without a place for settings a listing fails, even if none are needed: the records are named by the
arguments and can be read, and no other fault is there. -/
theorem exitCode_of_no_settingsPlace :
    Invocation.of unplacedListing.environment
        ["list", "--records=records.json"] =
      .ok unplacedListing.invocation ∧
    ListingFault.all.filter unplacedListing.occurs = [.noSettingsPlace] ∧
    ((run unplacedListing.environment ["list", "--records=records.json"] :
      StateM FileTree Outcome).run unplacedListing.state).1.exitCode = 5 := by
  have accepted : Invocation.of unplacedListing.environment
        ["list", "--records=records.json"] =
      .ok unplacedListing.invocation := rfl
  have alone : ListingFault.all.filter unplacedListing.occurs =
      [.noSettingsPlace] := by
    decide +kernel
  -- The settings are looked for first, and the rest of the task is not reached.
  have fails : Gives unplacedListing.state
      (runTask unplacedListing.environment unplacedListing.invocation)
      (.error (.settings .noPlace)) := rfl
  have ran := run_of_gives accepted fails
  exact ⟨accepted, alone,
    congrArg (fun finished => finished.1.exitCode) ran⟩

end Runs

end Listing

end RecordQuery.Command
