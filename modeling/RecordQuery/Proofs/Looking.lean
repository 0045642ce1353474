import RecordQuery.Command.Run
import RecordQuery.Files.Tree

/-!
# Commands that only look at files

Most of what the program does with files is to ask whether they are there and to read them. Where that
leaves the files as they are, such an action changes nothing, and what it gives is a function of what it
sees. The settings that a command works with are described here in these terms.
-/

namespace RecordQuery

/-- Files whose state is not changed by looking at them. -/
class LawfulFiles (σ : Type) [Files (StateM σ)] : Prop where
  isPresent_state (path : String) (state : σ) :
    ((Files.isPresent path : StateM σ Bool).run state).2 = state
  read_state (path : String) (state : σ) :
    ((Files.read path : StateM σ (Except FileError String)).run state).2 = state

instance : LawfulFiles FileTree where
  isPresent_state _ _ := rfl
  read_state _ _ := rfl

namespace Command

/-! ## Actions -/

section Actions

variable {σ α β : Type} {state : σ}

/-- In a state of the files an action gives a result and leaves the files as they are. -/
def Gives (state : σ) (action : Action (StateM σ) α)
    (result : Except CommandError α) : Prop :=
  action.run.run state = (result, state)

theorem gives_pure (value : α) :
    Gives state (pure value : Action (StateM σ) α) (.ok value) :=
  rfl

theorem gives_throw (error : CommandError) :
    Gives state (throw error : Action (StateM σ) α) (.error error) :=
  rfl

theorem gives_ofExcept (result : Except CommandError α) :
    Gives state (Action.ofExcept result) result := by
  cases result <;> rfl

theorem run_bind (action : Action (StateM σ) α)
    (next : α → Action (StateM σ) β) (state : σ) :
    (action >>= next).run.run state =
      match action.run.run state with
      | (.ok value, between) => (next value).run.run between
      | (.error error, between) => (.error error, between) := by
  change (ExceptT.bindCont next (action.run.run state).1).run
    (action.run.run state).2 = _
  rcases action.run.run state with ⟨_ | _, between⟩ <;> rfl

theorem Gives.bind {action : Action (StateM σ) α} {value : α}
    {next : α → Action (StateM σ) β} {result : Except CommandError β}
    (first : Gives state action (.ok value))
    (second : Gives state (next value) result) :
    Gives state (action >>= next) result := by
  rw [Gives, run_bind, first]
  exact second

theorem Gives.bind_error {action : Action (StateM σ) α} {error : CommandError}
    (first : Gives state action (.error error))
    (next : α → Action (StateM σ) β) :
    Gives state (action >>= next) (.error error) := by
  rw [Gives, run_bind, first]

theorem run_tryCatch (action : Action (StateM σ) α)
    (handle : CommandError → Action (StateM σ) α) (state : σ) :
    (tryCatch action handle).run.run state =
      match action.run.run state with
      | (.ok value, between) => (.ok value, between)
      | (.error error, between) => (handle error).run.run between := by
  change (ExceptT.tryCatch action handle).run.run state = _
  unfold ExceptT.tryCatch ExceptT.run ExceptT.mk
  rw [StateT.run_bind]
  rcases StateT.run action state with ⟨_ | _, between⟩ <;> rfl

theorem run_ofFile (wrap : FileError → CommandError)
    (operation : StateM σ (Except FileError α)) (state : σ) :
    (Action.ofFile wrap operation).run.run state =
      ((operation.run state).1.mapError wrap, (operation.run state).2) := by
  have runs : (Action.ofFile wrap operation).run.run state =
      (Action.ofExcept ((operation.run state).1.mapError wrap) :
        Action (StateM σ) α).run.run (operation.run state).2 := rfl
  rw [runs, gives_ofExcept]

/-- Whatever the files are, an action leaves them as they are. -/
def Looks (action : Action (StateM σ) α) : Prop :=
  ∀ state, ∃ result, Gives state action result

theorem looks_ofExcept (result : Except CommandError α) :
    Looks (Action.ofExcept result : Action (StateM σ) α) :=
  fun _ => ⟨result, gives_ofExcept result⟩

theorem looks_pure (value : α) :
    Looks (pure value : Action (StateM σ) α) :=
  looks_ofExcept (.ok value)

theorem looks_throw (error : CommandError) :
    Looks (throw error : Action (StateM σ) α) :=
  looks_ofExcept (.error error)

theorem Looks.bind {action : Action (StateM σ) α}
    {next : α → Action (StateM σ) β} (first : Looks action)
    (second : ∀ value, Looks (next value)) : Looks (action >>= next) := by
  intro state
  obtain ⟨result, gives⟩ := first state
  cases result with
  | error error => exact ⟨_, gives.bind_error next⟩
  | ok value =>
      obtain ⟨result, givesNext⟩ := second value state
      exact ⟨result, gives.bind givesNext⟩

end Actions

/-! ## Looking at files -/

section Looking

variable {σ : Type} [Files (StateM σ)] [LawfulFiles σ] (state : σ)

/-- Whether a path leads anywhere in a state of the files. -/
def presentIn (state : σ) (path : String) : Bool :=
  ((Files.isPresent path : StateM σ Bool).run state).1

/-- What reading a file gives in a state of the files. -/
def readIn (state : σ) (path : String) : Except FileError String :=
  ((Files.read path : StateM σ (Except FileError String)).run state).1

theorem gives_isPresent (path : String) :
    Gives state (isPresent path) (.ok (presentIn state path)) := by
  have runs : (isPresent path : Action (StateM σ) Bool).run.run state =
      (.ok (presentIn state path),
        ((Files.isPresent path : StateM σ Bool).run state).2) := rfl
  rw [Gives, runs, LawfulFiles.isPresent_state]

theorem gives_read (wrap : FileError → CommandError) (path : String) :
    Gives state (Action.ofFile wrap (Files.read path))
      ((readIn state path).mapError wrap) := by
  rw [Gives, run_ofFile, LawfulFiles.read_state]
  rfl

end Looking

/-! ## Settings -/

section Settings

variable {σ : Type} [Files (StateM σ)] (state : σ) (environment : Environment)

/-- What looking for settings gives. -/
def settingsRead : Except SettingsError Settings :=
  match settingsPath environment with
  | .error error => .error error
  | .ok path =>
      if presentIn state path then
        match readIn state path with
        | .error error => .error (.unreadable error)
        | .ok text =>
            match Settings.ofText? text with
            | some settings => .ok settings
            | none => .error .malformed
      else .ok {}

/-- The settings that are in force where unusable ones count as absent. -/
def settingsIn : Settings :=
  (settingsRead state environment).toOption.getD {}

variable [LawfulFiles σ]

theorem gives_loadSettings :
    Gives state (loadSettings environment)
      ((settingsRead state environment).mapError .settings) := by
  have place : Gives state (settingsFile environment)
      ((settingsPath environment).mapError .settings) := gives_ofExcept _
  unfold settingsRead
  cases known : settingsPath environment with
  | error error =>
      rw [known] at place
      exact place.bind_error _
  | ok path =>
      rw [known] at place
      refine place.bind ((gives_isPresent state path).bind ?_)
      dsimp only
      cases present : presentIn state path with
      | false => exact gives_pure _
      | true =>
          have taken := gives_read state
            (fun error => .settings (.unreadable error)) path
          cases read : readIn state path with
          | error error =>
              rw [read] at taken
              exact taken.bind_error _
          | ok text =>
              rw [read] at taken
              refine taken.bind ?_
              dsimp only
              cases Settings.ofText? text with
              | none => exact gives_throw _
              | some settings => exact gives_pure _

theorem gives_loadSettings_or_none :
    Gives state
      (tryCatch (loadSettings environment) fun _ => return {})
      (.ok (settingsIn state environment)) := by
  have loaded := gives_loadSettings state environment
  rw [Gives] at loaded
  rw [Gives, run_tryCatch, loaded, settingsIn]
  cases settingsRead state environment <;> rfl

end Settings

/-! ## Tasks that only look -/

section Tasks

variable {σ : Type} [Files (StateM σ)] [LawfulFiles σ]
  {environment : Environment} {invocation : Invocation}

theorem looks_isPresent (path : String) :
    Looks (isPresent path : Action (StateM σ) Bool) :=
  fun state => ⟨_, gives_isPresent state path⟩

theorem looks_read (wrap : FileError → CommandError) (path : String) :
    Looks (Action.ofFile wrap (Files.read path) : Action (StateM σ) String) :=
  fun state => ⟨_, gives_read state wrap path⟩

theorem looks_loadSettings :
    Looks (loadSettings environment : Action (StateM σ) Settings) :=
  fun state => ⟨_, gives_loadSettings state environment⟩

theorem looks_showSettings (colors : Bool) :
    Looks (showSettings environment invocation colors :
      Action (StateM σ) String) := by
  refine looks_loadSettings.bind fun settings => ?_
  refine (looks_ofExcept _).bind fun path => ?_
  refine (looks_isPresent path).bind fun present => ?_
  split
  · exact looks_pure _
  · split <;> exact looks_pure _

theorem looks_showSettingsPath :
    Looks (showSettingsPath environment invocation :
      Action (StateM σ) String) := by
  refine (looks_ofExcept _).bind fun path => ?_
  refine (looks_isPresent path).bind fun present => ?_
  split <;> exact looks_pure _

theorem looks_loadRecords (path : String) :
    Looks (loadRecords path : Action (StateM σ) (List Record)) := by
  refine (looks_isPresent path).bind fun present => ?_
  split
  · refine (looks_read _ path).bind fun text => ?_
    split
    · exact looks_pure _
    · exact looks_throw _
  · exact looks_throw _

theorem looks_showRecords (query saved : Option String) (limit : Option Nat) :
    Looks (showRecords environment invocation query saved limit :
      Action (StateM σ) String) := by
  refine looks_loadSettings.bind fun settings => ?_
  refine (looks_ofExcept _).bind fun path => ?_
  refine (looks_ofExcept _).bind fun query => ?_
  refine (looks_ofExcept _).bind fun expr => ?_
  exact (looks_loadRecords path).bind fun records => looks_pure _

theorem looks_runPlain {task : PlainTask} (colors : Bool)
    (reads : ∀ force, task ≠ .writeSettings force) :
    Looks (runPlain environment invocation colors task :
      Action (StateM σ) String) := by
  cases task with
  | overview => exact looks_pure _
  | canonical query => exact looks_ofExcept _
  | tokens query => exact looks_ofExcept _
  | check query => exact looks_ofExcept _
  | showSettings => exact looks_showSettings colors
  | showSettingsPath => exact looks_showSettingsPath
  | writeSettings force => exact absurd rfl (reads force)
  | completions shell => exact looks_pure _

/-- Every task but one leaves the files as they are. -/
theorem looks_runTask
    (reads : ∀ force, invocation.task ≠ .plain (.writeSettings force)) :
    Looks (runTask environment invocation : Action (StateM σ) String) := by
  rw [runTask]
  cases asked : invocation.task with
  | list query saved limit => exact looks_showRecords query saved limit
  | plain task =>
      have settings : Looks (tryCatch (loadSettings environment)
          fun _ => return {} : Action (StateM σ) Settings) :=
        fun state => ⟨_, gives_loadSettings_or_none state environment⟩
      refine settings.bind fun settings => looks_runPlain _ fun force same => ?_
      rw [asked, same] at reads
      exact reads force rfl

end Tasks

/-! ## Runs -/

section Runs

variable {σ : Type} [Files (StateM σ)] {state : σ} {environment : Environment}
  {arguments : List String} {invocation : Invocation}

theorem run_of_accepted
    (accepted : Invocation.of environment arguments = .ok invocation)
    (state : σ) :
    (run environment arguments : StateM σ Outcome).run state =
      (outcome invocation
          ((runTask environment invocation :
            Action (StateM σ) String).run.run state).1,
        ((runTask environment invocation :
          Action (StateM σ) String).run.run state).2) := by
  unfold run
  rw [accepted]
  rfl

/-- A run whose task gives a result has the outcome of that result, and leaves the files as they are. -/
theorem run_of_gives {result : Except CommandError String}
    (accepted : Invocation.of environment arguments = .ok invocation)
    (gives : Gives state (runTask environment invocation) result) :
    (run environment arguments : StateM σ Outcome).run state =
      (outcome invocation result, state) := by
  rw [run_of_accepted accepted, gives]

end Runs

end Command

end RecordQuery
