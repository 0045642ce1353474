import RecordQuery.Proofs.FileTrees
import RecordQuery.Proofs.Looking

/-!
# The settings file

The program writes one file, that of the settings, and only when it is asked to make one. A file that is
there already is meant to be replaced only if that is forced. This holds for every path without dots that
lead upward; behind a missing directory such dots hide a file until the directory is made.
-/

namespace RecordQuery.Command

open FileTree

/-- A call of the program whose settings are kept at a path. -/
structure Call (path : String) where
  environment : Environment
  arguments : List String
  place : settingsPath environment = .ok path

namespace Call

variable {path : String}

/-- Whether a call asks for a settings file, and whether the file may replace one. -/
def Initializes (call : Call path) (force : Bool) : Prop :=
  ∃ invocation,
    Invocation.of call.environment call.arguments = .ok invocation ∧
      invocation.task = .plain (.writeSettings force)

def run (call : Call path) (before : FileTree) : Outcome × FileTree :=
  (Command.run call.environment call.arguments :
    StateM FileTree Outcome).run before

def exitCode (call : Call path) (before : FileTree) : Nat :=
  (call.run before).1.exitCode

/-- The files after a call. -/
def after (call : Call path) (before : FileTree) : FileTree :=
  (call.run before).2

/-- The files after some calls. -/
def afterAll (calls : List (Call path)) (before : FileTree) : FileTree :=
  calls.foldl (fun tree call => call.after tree) before

end Call

/-! ## Making a settings file -/

/-- How the making of a settings file ends, with the exit code and the files afterwards. -/
inductive Initialization (path : String) (force : Bool) (before : FileTree) :
    Nat → FileTree → Prop
  | refused (present : before.isPresent path = true) (unforced : force = false) :
      Initialization path force before 5 before
  | failed (allowed : before.isPresent path = true → force = true) :
      Initialization path force before 5 (before.makeParents path).2
  | written {after : FileTree}
      (allowed : before.isPresent path = true → force = true)
      (written : (before.makeParents path).2.write path Settings.template =
        .ok after) :
      Initialization path force before 0 after

section Initialization

variable {path : String} {environment : Environment} {invocation : Invocation}
  {force : Bool}

theorem run_makeParents (path : String) (tree : FileTree) :
    (Files.makeParents path : StateM FileTree _).run tree =
      tree.makeParents path :=
  rfl

theorem run_write (path text : String) (tree : FileTree) :
    (Files.write path text : StateM FileTree _).run tree =
      match tree.write path text with
      | .ok changed => (.ok (), changed)
      | .error error => (.error error, tree) :=
  rfl

theorem initialization_of_writeSettings
    (place : settingsPath environment = .ok path) (before : FileTree) :
    let ended := (writeSettings environment invocation force :
      Action (StateM FileTree) String).run.run before
    Initialization path force before (outcome invocation ended.1).exitCode
      ended.2 := by
  have known : Gives before (settingsFile environment) (.ok path) := by
    rw [settingsFile, place]
    exact gives_pure path
  have look : Gives before (isPresent path) (.ok (before.isPresent path)) :=
    gives_isPresent before path
  rw [writeSettings, run_bind, known]
  dsimp only
  rw [run_bind, look]
  dsimp only
  by_cases refused : (before.isPresent path && !force) = true
  · rw [if_pos refused, (gives_throw _).bind_error _]
    simp only [Bool.and_eq_true, Bool.not_eq_true'] at refused
    exact .refused refused.1 refused.2
  rw [if_neg refused]
  have allowed : before.isPresent path = true → force = true := by
    simpa using refused
  rw [run_bind, run_ofFile, run_makeParents]
  cases made : (before.makeParents path).1 with
  | error error => exact .failed allowed
  | ok =>
      have goesOn (wrap : FileError → CommandError) :
          Except.mapError wrap (.ok ()) = .ok () := rfl
      simp only [goesOn]
      rw [run_bind, run_ofFile, run_write]
      cases written : (before.makeParents path).2.write path
          Settings.template with
      | error error => exact .failed allowed
      | ok after =>
          cases invocation.json <;> cases invocation.quiet <;>
            exact .written allowed written

variable {before after later : FileTree} {code : Nat}

theorem Initialization.changesOnly
    (ended : Initialization path force before code after) :
    ChangesOnly (before.target path) Settings.template before after := by
  cases ended with
  | refused present unforced => exact .refl before
  | failed allowed => exact changesOnly_makeParents before path
  | written allowed written =>
      obtain ⟨rfl, _⟩ := write_eq_ok written
      rw [target_makeParents]
      exact (changesOnly_makeParents before path).trans changesOnly_put

/-- Where a settings file is there and can be seen, it is replaced only if that is forced. -/
theorem Initialization.eq_of_unforced
    (ended : Initialization path false before code after)
    (there : before.isPresent path = true ∨
      upward ∉ steps path ∧ before.fileAt? (before.target path) ≠ none) :
    code = 5 ∧ after = before := by
  rcases there with present | ⟨names, held⟩
  · cases ended with
    | refused _ _ => exact ⟨rfl, rfl⟩
    | failed allowed => exact absurd (allowed present) (by simp)
    | written allowed _ => exact absurd (allowed present) (by simp)
  · -- No directory is missing on the way to the file, so none is made and nothing more is seen.
    obtain ⟨content, there⟩ := Option.ne_none_iff_exists'.mp held
    have unmade : (before.makeParents path).2 = before :=
      makeParents_of_fileAt? names there
    cases ended with
    | refused _ _ => exact ⟨rfl, rfl⟩
    | failed _ => exact ⟨rfl, unmade⟩
    | written allowed written =>
        have absent : before.isPresent path = false := by
          simpa using allowed
        rw [unmade] at written
        exact absurd written (write_ne_ok there absent)

theorem Initialization.fileAt?_target
    (ended : Initialization path force before 0 after) :
    after.fileAt? (before.target path) = some (.text Settings.template) := by
  cases ended with
  | written allowed written =>
      obtain ⟨rfl, _⟩ := write_eq_ok written
      rw [target_makeParents, fileAt?_put_self]

/-- The file that was made can be seen as long as no other file is changed. -/
theorem Initialization.isPresent_later
    (ended : Initialization path force before 0 after)
    (changes : ChangesOnly (before.target path) Settings.template after later) :
    later.isPresent path = true := by
  cases ended with
  | written allowed written =>
      rw [← target_makeParents] at changes
      exact isPresent_of_write written changes

end Initialization

/-! ## Calls -/

namespace Call

section Calls

variable {path : String} (call : Call path) (before : FileTree)

theorem initialization {force : Bool} (asks : call.Initializes force) :
    Initialization path force before (call.exitCode before)
      (call.after before) := by
  obtain ⟨invocation, accepted, asked⟩ := asks
  have settings := gives_loadSettings_or_none before call.environment
  have runs : (runTask call.environment invocation :
        Action (StateM FileTree) String).run.run before =
      (writeSettings call.environment invocation force :
        Action (StateM FileTree) String).run.run before := by
    rw [runTask, asked]
    dsimp only
    rw [run_bind, settings]
    rfl
  rw [exitCode, after, run, run_of_accepted accepted, runs]
  exact initialization_of_writeSettings call.place before

theorem after_of_not_initializes (reads : ∀ force, ¬ call.Initializes force) :
    call.after before = before := by
  rw [after, run]
  cases accepted : Invocation.of call.environment call.arguments with
  | error stop =>
      rw [Command.run, accepted]
      rfl
  | ok invocation =>
      have looks : Looks (runTask call.environment invocation :
          Action (StateM FileTree) String) :=
        looks_runTask fun force asked => reads force ⟨_, accepted, asked⟩
      obtain ⟨result, gives⟩ := looks before
      rw [run_of_gives accepted gives]

theorem changesOnly :
    ChangesOnly (before.target path) Settings.template before
      (call.after before) := by
  by_cases asks : ∃ force, call.Initializes force
  · obtain ⟨force, asks⟩ := asks
    exact (call.initialization before asks).changesOnly
  · rw [call.after_of_not_initializes before (not_exists.mp asks)]
    exact .refl before

theorem changesOnly_afterAll (calls : List (Call path)) :
    ChangesOnly (before.target path) Settings.template before
      (afterAll calls before) := by
  induction calls generalizing before with
  | nil => exact .refl before
  | cons call rest inductionHypothesis =>
      have first := call.changesOnly before
      have others := inductionHypothesis (call.after before)
      rw [first.target_eq] at others
      exact first.trans others

end Calls

/-- What a call does to the files when the settings file is at a place: it changes nothing unless it asks
for a settings file, and then at most this file, which becomes the template. A file that is there is
replaced only if that is forced, unless the path goes upward from a missing directory. -/
structure Keeps {path : String} (place : Location) (call : Call path)
    (before : FileTree) : Prop where
  untouched : (∀ force, ¬ call.Initializes force) → call.after before = before
  elsewhere (location : Location) : location ≠ place →
    (call.after before).fileAt? location = before.fileAt? location
  there : (call.after before).fileAt? place = before.fileAt? place ∨
    (call.after before).fileAt? place = some (.text Settings.template)
  made (force : Bool) : call.Initializes force → call.exitCode before = 0 →
    (call.after before).fileAt? place = some (.text Settings.template)
  replaced : before.fileAt? place ≠ none →
    (call.after before).fileAt? place ≠ before.fileAt? place →
      call.Initializes true ∨
        call.Initializes false ∧ upward ∈ steps path ∧
          before.isPresent path = false
  refused : call.Initializes false →
    before.isPresent path = true ∨
        upward ∉ steps path ∧ before.fileAt? place ≠ none →
      call.exitCode before = 5 ∧ call.after before = before

theorem keeps {path : String} (call : Call path) (before : FileTree) :
    call.Keeps (before.target path) before := by
  have changes := call.changesOnly before
  have refused (asks : call.Initializes false)
      (there : before.isPresent path = true ∨
        upward ∉ steps path ∧ before.fileAt? (before.target path) ≠ none) :
      call.exitCode before = 5 ∧ call.after before = before :=
    (call.initialization before asks).eq_of_unforced there
  have made (force : Bool) (asks : call.Initializes force)
      (succeeds : call.exitCode before = 0) :
      (call.after before).fileAt? (before.target path) =
        some (.text Settings.template) := by
    have ended := call.initialization before asks
    rw [succeeds] at ended
    exact ended.fileAt?_target
  refine ⟨call.after_of_not_initializes before, changes.elsewhere,
    changes.there, made, fun held replaced => ?_, refused⟩
  have changed : call.after before ≠ before := by
    intro kept
    rw [kept] at replaced
    exact replaced rfl
  by_cases forced : call.Initializes true
  · exact Or.inl forced
  by_cases asks : call.Initializes false
  · have hidden : ¬(before.isPresent path = true ∨
        upward ∉ steps path ∧ before.fileAt? (before.target path) ≠ none) :=
      fun there => changed (refused asks there).2
    simp only [not_or, not_and, Bool.not_eq_true] at hidden
    refine Or.inr ⟨asks, ?_, hidden.1⟩
    by_cases leads : upward ∈ steps path
    · exact leads
    · exact absurd held (hidden.2 leads)
  · have reads (force : Bool) : ¬call.Initializes force := by
      cases force <;> assumption
    exact absurd (call.after_of_not_initializes before reads) changed

/-- What any sequence of calls with the settings file at one path does to the files. Once a call has made
the file, no later call replaces it unless that is forced. -/
theorem keeps_files {path : String} (tree : FileTree) (earlier : List (Call path))
    (call : Call path) :
    let place := tree.target path
    let before := afterAll earlier tree
    call.Keeps place before ∧
      (∀ location, location ≠ place →
        before.fileAt? location = tree.fileAt? location) ∧
      (before.fileAt? place = tree.fileAt? place ∨
        before.fileAt? place = some (.text Settings.template)) ∧
      ∀ (force : Bool) (between : List (Call path)) (again : Call path),
        call.Initializes force → call.exitCode before = 0 →
          again.Initializes false →
            let later := afterAll between (call.after before)
            again.exitCode later = 5 ∧ again.after later = later := by
  intro place before
  have run := changesOnly_afterAll tree earlier
  have samePlace : before.target path = place := run.target_eq path
  refine ⟨?_, run.elsewhere, run.there, ?_⟩
  · rw [← samePlace]
    exact call.keeps before
  · intro force between again asks succeeded unforced later
    have ended := call.initialization before asks
    rw [succeeded] at ended
    have changes : ChangesOnly (before.target path) Settings.template
        (call.after before) later := by
      rw [← ended.changesOnly.target_eq]
      exact changesOnly_afterAll _ between
    have present := ended.isPresent_later changes
    exact (again.keeps later).refused unforced (Or.inl present)

/-- Asks for a settings file at a path. -/
def making (path : String) (options : List String) : Call path :=
  ⟨{ configFile := some path }, "config" :: "init" :: options, rfl⟩

theorem keeps_files_made :
    let path := "csq/config.toml"
    let first := making path []
    let later := afterAll [making path ["--force"]] (first.after {})
    first.Initializes false ∧ first.exitCode {} = 0 ∧
      first.exitCode later = 5 ∧ first.after later = later := by
  intro path first later
  have asks : first.Initializes false :=
    ⟨{ task := .plain (.writeSettings false) }, rfl, rfl⟩
  have succeeds : first.exitCode {} = 0 := by
    decide +kernel
  obtain ⟨_, _, _, refuses⟩ := keeps_files {} [] first
  exact ⟨asks, succeeds,
    refuses false [making path ["--force"]] first asks succeeds asks⟩

/-- A settings file can be lost without force where its path goes upward from a missing directory. -/
theorem replaced_behind_missing_directory :
    let path := "a/../config.toml"
    let call := making path []
    let before : FileTree := .ofFiles [("config.toml", "records = \"r.json\"\n")]
    let place := before.target path
    call.Initializes false ∧ call.exitCode before = 0 ∧
      before.fileAt? place = some (.text "records = \"r.json\"\n") ∧
      (call.after before).fileAt? place = some (.text Settings.template) ∧
      Settings.template ≠ "records = \"r.json\"\n" := by
  intro path call before place
  refine ⟨⟨{ task := .plain (.writeSettings false) }, rfl, rfl⟩, ?_, ?_, ?_, ?_⟩
  · decide +kernel
  · decide +kernel
  · decide +kernel
  · decide +kernel

end Call

end RecordQuery.Command
