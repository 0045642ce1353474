import RecordQuery.Proofs.Looking
import RecordQuery.Proofs.Scanning

/-!
# Runs on a query alone

Three tasks need a query and nothing else. What they do depends on no records; all that the settings
have a say in is whether colours are used, and settings that cannot be read say as much as none.
-/

namespace RecordQuery.Command

/-- What can be done with a query alone. -/
inductive QueryTask where
  | canonical
  | tokens
  | check
  deriving DecidableEq, Repr

namespace QueryTask

section Answers

/-- The task, applied to a query. -/
def on (query : String) : QueryTask → PlainTask
  | canonical => .canonical query
  | tokens => .tokens query
  | check => .check query

/-- Whether a query is understood: as tokens, or as an expression. -/
def understands (query : String) : QueryTask → Bool
  | tokens => (Token.ofText query).toOption.isSome
  | _ => (Expr.ofText query).toOption.isSome

/-- What is shown of a query, with or without colours. -/
def answer (invocation : Invocation) (query : String) (colors : Bool) :
    QueryTask → Except CommandError String
  | canonical => showCanonical invocation query
  | tokens => showTokens invocation query colors
  | check => showCheck invocation query colors

variable (task : QueryTask) (invocation : Invocation) (query : String)
  (colors : Bool)

/-- Canonical text and JSON have no colours. -/
theorem answer_congr (plain : task = .canonical ∨ invocation.json = true)
    (others : Bool) :
    task.answer invocation query colors =
      task.answer invocation query others := by
  cases task with
  | canonical => rfl
  | tokens =>
      have json : invocation.json = true := plain.resolve_left nofun
      simp only [answer, showTokens, json, if_true]
  | check =>
      have json : invocation.json = true := plain.resolve_left nofun
      simp only [answer, showCheck, json, if_true]

/-- A query that is understood is shown, and one that is not is reported. -/
theorem answer_cases :
    (task.understands query = true ∧
        ∃ text, task.answer invocation query colors = .ok text) ∨
      (task.understands query = false ∧
        ∃ diagnosis, task.answer invocation query colors =
          .error (.query query diagnosis)) := by
  cases task with
  | canonical =>
      simp only [understands, answer, showCanonical, readQuery]
      cases Expr.ofText query with
      | error error => exact Or.inr ⟨rfl, _, rfl⟩
      | ok expr =>
          refine Or.inl ⟨rfl, ?_⟩
          cases invocation.json <;> exact ⟨_, rfl⟩
  | tokens =>
      simp only [understands, answer, showTokens]
      cases Token.ofText query with
      | error error => exact Or.inr ⟨rfl, _, rfl⟩
      | ok tokens =>
          refine Or.inl ⟨rfl, ?_⟩
          cases invocation.json <;> cases invocation.quiet <;> exact ⟨_, rfl⟩
  | check =>
      simp only [understands, answer, showCheck, readQuery]
      cases Expr.ofText query with
      | error error => exact Or.inr ⟨rfl, _, rfl⟩
      | ok expr =>
          refine Or.inl ⟨rfl, ?_⟩
          cases invocation.json <;> cases invocation.quiet <;> exact ⟨_, rfl⟩

end Answers

/-! ## Runs -/

section Runs

variable {σ : Type} [Files (StateM σ)] [LawfulFiles σ] (state : σ)
  {environment : Environment} {arguments : List String}
  {invocation : Invocation} {task : QueryTask} {query : String}

/-- A run on a query shows the answer to it, with colours if the settings in force want them. -/
theorem run_of_query
    (accepted : Invocation.of environment arguments = .ok invocation)
    (asked : invocation.task = .plain (task.on query)) :
    (run environment arguments : StateM σ Outcome).run state =
      (outcome invocation (task.answer invocation query
        (wantsColors environment invocation (settingsIn state environment))),
        state) := by
  refine run_of_gives accepted ?_
  rw [runTask, asked]
  refine (gives_loadSettings_or_none state environment).bind ?_
  cases task <;> exact gives_ofExcept _

theorem exitCode_of_query
    (accepted : Invocation.of environment arguments = .ok invocation)
    (asked : invocation.task = .plain (task.on query)) :
    ((run environment arguments : StateM σ Outcome).run state).1.exitCode =
      if task.understands query then 0 else 1 := by
  rw [run_of_query state accepted asked]
  rcases answer_cases task invocation query
      (wantsColors environment invocation (settingsIn state environment)) with
    ⟨understood, text, shown⟩ | ⟨refused, diagnosis, reported⟩
  · rw [shown, understood]
    rfl
  · rw [reported, refused]
    rfl

theorem wantsColors_congr {invocation' : Invocation}
    {environment' : Environment} {settings settings' : Settings}
    (sameFlag : invocation'.noColor = invocation.noColor)
    (sameVariable : environment'.noColor = environment.noColor)
    (agree : invocation.noColor = true ∨
      (∃ value, environment.noColor = some value ∧ value ≠ "") ∨
      settings.color.getD true = settings'.color.getD true) :
    wantsColors environment' invocation' settings' =
      wantsColors environment invocation settings := by
  simp only [wantsColors, sameFlag, sameVariable]
  rcases agree with flag | ⟨value, set, nonempty⟩ | same
  · rw [flag]
    rfl
  · have notEmpty : value.isEmpty = false := by
      simpa using nonempty
    simp [set, notEmpty]
  · rw [same]

/-- Two runs on the same query, with files of any kinds in any states: the exit code is settled by the
query, canonical text is all the same, and tokens and checks are, unless colours could be used and the
settings in force disagree about them. -/
theorem runs_agree {σ' : Type} [Files (StateM σ')] [LawfulFiles σ']
    (state' : σ') {environment' : Environment} {arguments' : List String}
    {invocation' : Invocation}
    (accepted : Invocation.of environment arguments = .ok invocation)
    (accepted' : Invocation.of environment' arguments' = .ok invocation')
    (sameRequest : invocation' =
      { invocation with records := invocation'.records })
    (sameVariable : environment'.noColor = environment.noColor)
    (asked : invocation.task = .plain (task.on query)) :
    let result := ((run environment arguments : StateM σ Outcome).run state).1
    let result' :=
      ((run environment' arguments' : StateM σ' Outcome).run state').1
    (task = .canonical ∨ invocation.json = true ∨
        invocation.noColor = true ∨
        (∃ value, environment.noColor = some value ∧ value ≠ "") ∨
        (settingsIn state environment).color.getD true =
          (settingsIn state' environment').color.getD true →
      result' = result) ∧
    result.exitCode = (if task.understands query then 0 else 1) ∧
    result'.exitCode = (if task.understands query then 0 else 1) := by
  have asked' : invocation'.task = .plain (task.on query) := by
    rw [sameRequest]
    exact asked
  refine ⟨fun agree => ?_, exitCode_of_query state accepted asked,
    exitCode_of_query state' accepted' asked'⟩
  have sameOutcome : outcome invocation' = outcome invocation := by
    rw [sameRequest]
    rfl
  have sameAnswer (colors : Bool) :
      task.answer invocation' query colors =
        task.answer invocation query colors := by
    rw [sameRequest]
    cases task <;> rfl
  have sameFlag : invocation'.noColor = invocation.noColor := by
    rw [sameRequest]
  rw [run_of_query state accepted asked,
    run_of_query state' accepted' asked', sameOutcome, sameAnswer]
  rcases agree with canonical | json | colors
  · rw [answer_congr task invocation query _ (Or.inl canonical)]
  · rw [answer_congr task invocation query _ (Or.inr json)]
  · rw [wantsColors_congr sameFlag sameVariable colors]

theorem runs_agree_unusable :
    Invocation.of { configFile := some "config.toml" } ["tokens", "%"] =
      .ok { task := .plain (tokens.on "%") } ∧
    Invocation.of { home := some "home" } ["--records", "r", "tokens", "%"] =
      .ok { task := .plain (tokens.on "%"), records := some "r" } ∧
    (settingsIn (.ofFiles [("config.toml", "output = 0")] : FileTree)
      { configFile := some "config.toml" }).color.getD true =
        (settingsIn ({} : FileTree) { home := some "home" }).color.getD true ∧
    ((run { home := some "home" } ["--records", "r", "tokens", "%"] :
        StateM FileTree Outcome).run {}).1 =
      ((run { configFile := some "config.toml" } ["tokens", "%"] :
        StateM FileTree Outcome).run
          (.ofFiles [("config.toml", "output = 0")])).1 ∧
    ((run { configFile := some "config.toml" } ["tokens", "%"] :
        StateM FileTree Outcome).run
          (.ofFiles [("config.toml", "output = 0")])).1.exitCode = 1 := by
  have accepted : Invocation.of { configFile := some "config.toml" }
      ["tokens", "%"] = .ok { task := .plain (tokens.on "%") } := rfl
  have accepted' : Invocation.of { home := some "home" }
      ["--records", "r", "tokens", "%"] =
    .ok { task := .plain (tokens.on "%"), records := some "r" } := rfl
  have sameColors :
      (settingsIn (.ofFiles [("config.toml", "output = 0")] : FileTree)
        { configFile := some "config.toml" }).color.getD true =
          (settingsIn ({} : FileTree) { home := some "home" }).color.getD true := by
    decide +kernel
  have letter : (Cursor.start "%".toList).next =
      (.error ⟨.invalidStatusLetter none, 0⟩, ⟨1, []⟩) := rfl
  have refused : tokens.understands "%" = false := by
    rw [understands, Token.ofText, Cursor.tokens_of_next_error letter]
    rfl
  obtain ⟨same, code, _⟩ := runs_agree
    (.ofFiles [("config.toml", "output = 0")] : FileTree) ({} : FileTree)
    accepted accepted' rfl rfl rfl
  rw [refused] at code
  refine ⟨accepted, accepted', sameColors, same ?_, code⟩
  exact Or.inr (Or.inr (Or.inr (Or.inr sameColors)))

end Runs

end QueryTask

end RecordQuery.Command
