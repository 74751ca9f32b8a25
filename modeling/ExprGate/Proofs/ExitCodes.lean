import ExprGate.CommandLine.Run
import ExprGate.Proofs.ErrorReports
import ExprGate.Proofs.Reports
import ExprGate.Proofs.UsableConfig
import ExprGate.Proofs.Utf8Decoding

/-!
# Exit codes

The program breaks off with code 3 only before it has a configuration and an input: those of its
arguments, of its file and of its standard input. After that the code tells what became of the
request, whatever the form of output: the three requests share their codes, and a calculation fails
exactly as the check of its expression does, or as its evaluator does on the one expression that the
report of the check shows.
-/

namespace ExprGate

namespace RunResult

variable {α : Type} {format : Format} {report : Format → α → Text} {x : Except RequestError α}

/-- The exit code of an answer is zero and that of an error depends on who is to blame, whatever is
printed. -/
theorem code_ofAnswer : (ofAnswer format report x).code =
    match x with
    | .ok _ => 0
    | .error e => if e.isRejection then 2 else 1 := by
  cases x <;> rfl

/-- A run that comes to an answer does not break off. -/
theorem code_ofAnswer_ne_three : (ofAnswer format report x).code ≠ 3 := by
  rw [code_ofAnswer]
  split
  · decide
  · split <;> decide

/-- The exit code of an answer is zero. -/
theorem code_ofAnswer_eq_zero_iff :
    (ofAnswer format report x).code = 0 ↔ ∃ answer, x = .ok answer := by
  rw [code_ofAnswer]
  cases x with
  | ok answer => simp
  | error e => cases hrejection : e.isRejection <;> simp [hrejection]

/-- The exit code of a rejection is two. -/
theorem code_ofAnswer_eq_two_iff :
    (ofAnswer format report x).code = 2 ↔ ∃ e, x = .error e ∧ e.isRejection = true := by
  rw [code_ofAnswer]
  cases x with
  | ok answer => simp
  | error e => cases hrejection : e.isRejection <;> simp [hrejection]

/-- The exit code of a failed evaluation is one. -/
theorem code_ofAnswer_eq_one_iff :
    (ofAnswer format report x).code = 1 ↔ ∃ e, x = .error e ∧ e.isRejection = false := by
  rw [code_ofAnswer]
  cases x with
  | ok answer => simp
  | error e => cases hrejection : e.isRejection <;> simp [hrejection]

end RunResult

namespace Calculator

variable {σ : Type} {c : Calculator σ}

/-- A calculation fails like the admission of its expression, or is what the evaluator answers to
the expression that is admitted. -/
theorem calculate_cases (c : Calculator σ) (request : CalculateRequest) (s : σ) :
    (∃ e, c.admission request = .error e ∧ (c.calculate request s).1 = .error e) ∨
    ∃ a, c.admission request = .ok a ∧
      (c.calculate request s).1 = respond (c.evaluator a.expression s).1 := by
  unfold calculate
  cases c.admission request with
  | error e => exact .inl ⟨e, rfl, rfl⟩
  | ok a => exact .inr ⟨a, rfl, rfl⟩

/-- A phrase is translated by the service exactly when it has a translation. -/
theorem exists_parse_eq_ok_iff {request : ParseRequest} :
    (∃ answer, c.parse request = .ok answer) ↔
      ∃ t, parsePhrase c.policy request.input = .ok t := by
  unfold parse
  cases parsePhrase c.policy request.input <;> simp

/-- A phrase is rejected by the service exactly when it is rejected. -/
theorem exists_parse_rejected_iff {request : ParseRequest} :
    (∃ e, c.parse request = .error e ∧ e.isRejection = true) ↔
      ∃ cause, parsePhrase c.policy request.input = .error cause := by
  unfold parse
  cases parsePhrase c.policy request.input <;> simp [RequestError.isRejection]

/-- An expression is rejected by the service exactly when it is rejected. -/
theorem exists_admission_rejected_iff {request : CalculateRequest} :
    (∃ e, c.admission request = .error e ∧ e.isRejection = true) ↔
      ∃ cause, admitExpression c.policy request.allowNaturalLanguage request.expression =
        .error cause := by
  unfold admission
  cases admitExpression c.policy request.allowNaturalLanguage request.expression <;>
    simp [RequestError.isRejection]

/-- The service responds when the evaluator succeeds. -/
theorem exists_respond_eq_ok_iff {x : Except EvaluatorError Value} :
    (∃ answer, respond x = .ok answer) ↔ ∃ value, x = .ok value := by
  cases x <;> simp [respond]

/-- When the evaluator fails, so does the service, and that is no rejection. -/
theorem isRejection_of_respond {x : Except EvaluatorError Value} {e : RequestError}
    (h : respond x = .error e) : e.isRejection = false := by
  cases x with
  | ok value => cases h
  | error failure =>
    obtain ⟨message, hmessage, -⟩ := RequestError.exists_message_of_ofEvaluator failure
    rw [respond, hmessage] at h
    exact Except.error.inj h ▸ rfl

/-- The service fails for the evaluator exactly when the evaluator fails. -/
theorem exists_respond_failed_iff {x : Except EvaluatorError Value} :
    (∃ e, respond x = .error e ∧ e.isRejection = false) ↔ ∃ failure, x = .error failure := by
  constructor
  · rintro ⟨e, he, -⟩
    cases x with
    | ok value => cases he
    | error failure => exact ⟨failure, rfl⟩
  · rintro ⟨failure, rfl⟩
    have hrespond : respond (.error failure) = .error (.ofEvaluator failure) := rfl
    exact ⟨_, hrespond, isRejection_of_respond hrespond⟩

end Calculator

namespace CommandLine

/-- The three requests for one input. -/
def requests (input : Option Text) (natural : Bool) : List Action :=
  [.parse input, .check input natural, .calculate input natural]

variable {env : Environment} {path input : Option Text} {natural : Bool} {config : Config}
  {text : Text}

/-- The configuration of a run: the one that the file at the path has in the format of its name, and
the standard one without a path. -/
def HasConfig (env : Environment) : Option Text → Config → Prop
  | none, config => config = .standard
  | some path, config => ∃ source, env.file path = .ok source ∧
      if PathName.hasExtension "json".toList path then Config.fromJson source = .ok config
      else Config.fromYaml source = .ok config

/-- The input of a run: the argument, and without an argument the text in UTF-8 that comes in, short
of the line breaks at its end. -/
def HasInput (env : Environment) : Option Text → Text → Prop
  | some given, text => text = given
  | none, text => ∃ breaks, env.stdin = Utf8.encode (text ++ breaks) ∧
      (∀ c ∈ breaks, c = '\n' ∨ c = '\r') ∧ ∀ c ∈ text.getLast?, c ≠ '\n' ∧ c ≠ '\r'

/-- A run has a configuration and an input. -/
structure Ready (env : Environment) (path input : Option Text) (config : Config) (text : Text) :
    Prop where
  /-- The configuration is that of the run. -/
  config : HasConfig env path config
  /-- The text is the input of the run. -/
  input : HasInput env input text

/-- With a path, the configuration that is loaded is the one in the file there. -/
theorem loadConfig_some_eq_ok_iff {path : Text} : loadConfig env (some path) = .ok config ↔
    Config.ofFile path (env.file path) = .ok config := by
  rw [loadConfig]
  cases Config.ofFile path (env.file path) <;> simp

/-- A configuration is loaded exactly when it is that of the run. -/
theorem loadConfig_eq_ok_iff : loadConfig env path = .ok config ↔ HasConfig env path config := by
  cases path with
  | none => exact ⟨fun h => (Except.ok.inj h).symm, fun h => congrArg Except.ok h.symm⟩
  | some path =>
    rw [loadConfig_some_eq_ok_iff, HasConfig]
    cases env.file path with
    | error cause => simp [Config.ofFile]
    | ok source =>
      rw [Config.ofFile]
      split <;> simp

/-- The line breaks at the end of a text are trimmed off, and nothing else is. -/
theorem trimLineEnds_eq_iff {raw : Text} : trimLineEnds raw = text ↔ ∃ breaks,
    raw = text ++ breaks ∧ (∀ c ∈ breaks, c = '\n' ∨ c = '\r') ∧
      ∀ c ∈ text.getLast?, c ≠ '\n' ∧ c ≠ '\r' := by
  constructor
  · rintro rfl
    refine ⟨raw.rtakeWhile fun c => c == '\n' || c == '\r',
      List.rdropWhile_append_rtakeWhile.symm, fun c hc => ?_, fun c hc => ?_⟩
    · simpa using List.mem_rtakeWhile_imp hc
    · have hne : trimLineEnds raw ≠ [] := by
        rintro hnil
        rw [hnil] at hc
        cases hc
      have hlast : ¬((trimLineEnds raw).getLast hne == '\n' ||
          (trimLineEnds raw).getLast hne == '\r') = true := List.rdropWhile_last_not _ raw hne
      rw [List.getLast?_eq_some_getLast hne] at hc
      obtain rfl := Option.some.inj hc
      simpa using hlast
  · rintro ⟨breaks, rfl, hbreaks, hlast⟩
    have hall : ∀ c ∈ breaks.reverse, (c == '\n' || c == '\r') = true := by simpa using hbreaks
    rw [trimLineEnds, List.reverse_append, List.dropWhile_append_of_pos hall]
    refine List.rdropWhile_eq_self_iff.mpr fun hne => ?_
    simpa using hlast _ (List.getLast?_eq_some_getLast hne)

/-- A text is read exactly when it is the input of the run. -/
theorem readInput_eq_ok_iff : readInput env input = .ok text ↔ HasInput env input text := by
  cases input with
  | some given => exact ⟨fun h => (Except.ok.inj h).symm, fun h => congrArg Except.ok h.symm⟩
  | none =>
    have hread : readInput env none = .ok text ↔
        ∃ raw, Utf8.decode? env.stdin = some raw ∧ trimLineEnds raw = text := by
      rw [readInput]
      cases Utf8.decode? env.stdin <;> simp
    simp only [hread, Utf8.decode?_eq_some_iff, trimLineEnds_eq_iff, HasInput]
    constructor
    · rintro ⟨_, hraw, breaks, rfl, hbreaks⟩
      exact ⟨breaks, hraw, hbreaks⟩
    · rintro ⟨breaks, hraw, hbreaks⟩
      exact ⟨_, hraw, breaks, rfl, hbreaks⟩

/-- A configuration that was loaded has no fault. -/
theorem validate_of_loadConfig (h : loadConfig env path = .ok config) :
    config.validate = .ok () := by
  cases path with
  | none => exact Except.ok.inj h ▸ Config.validate_standard
  | some path => exact (Config.written_of_ofFile (loadConfig_some_eq_ok_iff.mp h)).2

/-- With a configuration and an input, the requests are put to the calculator of the
configuration. -/
theorem run_of_ready (h : Ready env path input config text) (natural : Bool) : ∃ evaluator,
      config.RunsAs evaluator ∧
      let c : Calculator Unit := ⟨evaluator.toEvaluator env.host, config.admission⟩
      ∀ format,
        run env ⟨path, format, .parse input⟩ =
          .ofAnswer format Format.parsed (c.parse ⟨text⟩) ∧
        run env ⟨path, format, .check input natural⟩ =
          .ofAnswer format Format.admitted (c.admission ⟨text, natural⟩) ∧
        run env ⟨path, format, .calculate input natural⟩ =
          .ofAnswer format Format.calculated (c.calculate ⟨text, natural⟩ ()).1 := by
  have hconfig := loadConfig_eq_ok_iff.mpr h.config
  have hinput := readInput_eq_ok_iff.mpr h.input
  obtain ⟨evaluator, hruns⟩ :=
    Config.exists_runsAs_of_validate (validate_of_loadConfig hconfig)
  refine ⟨evaluator, hruns, fun format => ⟨?_, ?_, ?_⟩⟩
  all_goals
    simp only [run, hconfig, perform, perform.calculatorOf, hruns.ofConfig, hinput]
    rfl

/-- Without a configuration or without an input every request breaks off. -/
theorem code_of_not_ready {action : Action} (haction : action ∈ requests input natural)
    (h : ¬∃ config text, Ready env path input config text) (format : Format) :
    (run env ⟨path, format, action⟩).code = 3 := by
  rw [run]
  cases hconfig : loadConfig env path with
  | error message => rfl
  | ok config =>
    obtain ⟨message, hinput⟩ : ∃ message, readInput env input = .error message := by
      cases hread : readInput env input with
      | error message => exact ⟨message, rfl⟩
      | ok text =>
        exact absurd ⟨config, text, loadConfig_eq_ok_iff.mp hconfig, readInput_eq_ok_iff.mp hread⟩ h
    obtain ⟨_, hruns⟩ := Config.exists_runsAs_of_validate (validate_of_loadConfig hconfig)
    simp only [requests, List.mem_cons, List.not_mem_nil, or_false] at haction
    rcases haction with rfl | rfl | rfl
    all_goals
      simp only [perform, perform.calculatorOf, hruns.ofConfig, hinput]
      rfl

/-- Whether a run comes to an answer does not depend on the form of output. -/
theorem code_eq_three_iff {action : Action} (haction : action ∈ requests input natural)
    (format : Format) : (run env ⟨path, format, action⟩).code = 3 ↔
      ¬∃ config text, Ready env path input config text := by
  refine ⟨?_, fun h => code_of_not_ready haction h format⟩
  rintro hcode ⟨config, text, hready⟩
  obtain ⟨_, _, hrun⟩ := run_of_ready hready natural
  obtain ⟨hparse, hcheck, hcalculate⟩ := hrun format
  simp only [requests, List.mem_cons, List.not_mem_nil, or_false] at haction
  rcases haction with rfl | rfl | rfl
  · exact RunResult.code_ofAnswer_ne_three (hparse ▸ hcode)
  · exact RunResult.code_ofAnswer_ne_three (hcheck ▸ hcode)
  · exact RunResult.code_ofAnswer_ne_three (hcalculate ▸ hcode)

/-- The form of output has no part in the exit code. -/
theorem code_eq_of_mem_requests {action : Action} (haction : action ∈ requests input natural)
    (format format' : Format) :
    (run env ⟨path, format, action⟩).code = (run env ⟨path, format', action⟩).code := by
  by_cases h : ∃ config text, Ready env path input config text
  · obtain ⟨config, text, hready⟩ := h
    obtain ⟨_, _, hrun⟩ := run_of_ready hready natural
    obtain ⟨hparse, hcheck, hcalculate⟩ := hrun format
    obtain ⟨hparse', hcheck', hcalculate'⟩ := hrun format'
    simp only [requests, List.mem_cons, List.not_mem_nil, or_false] at haction
    rcases haction with rfl | rfl | rfl
    · rw [hparse, hparse', RunResult.code_ofAnswer, RunResult.code_ofAnswer]
    · rw [hcheck, hcheck', RunResult.code_ofAnswer, RunResult.code_ofAnswer]
    · rw [hcalculate, hcalculate', RunResult.code_ofAnswer, RunResult.code_ofAnswer]
  · rw [code_of_not_ready haction h, code_of_not_ready haction h]

/-- A calculation is rejected exactly when the check is, and then the two runs are the same. -/
theorem calculate_rejected_iff (env : Environment) (path input : Option Text) (natural : Bool)
    (format : Format) :
    ((run env ⟨path, format, .calculate input natural⟩).code = 2 ↔
      (run env ⟨path, format, .check input natural⟩).code = 2) ∧
    ((run env ⟨path, format, .check input natural⟩).code = 2 →
      run env ⟨path, format, .calculate input natural⟩ =
        run env ⟨path, format, .check input natural⟩) := by
  have hcheck : Action.check input natural ∈ requests input natural := by simp [requests]
  have hcalculate : Action.calculate input natural ∈ requests input natural := by simp [requests]
  by_cases h : ∃ config text, Ready env path input config text
  · obtain ⟨config, text, hready⟩ := h
    obtain ⟨_, _, hrun⟩ := run_of_ready hready natural
    obtain ⟨-, hcheck, hcalculate⟩ := hrun format
    rw [hcheck, hcalculate]
    rcases Calculator.calculate_cases _ ⟨text, natural⟩ () with
      ⟨e, hadmission, hvalue⟩ | ⟨a, hadmission, hvalue⟩
    · rw [hadmission, hvalue]
      exact ⟨Iff.rfl, fun _ => rfl⟩
    · rw [hadmission, hvalue, RunResult.code_ofAnswer_eq_two_iff,
        RunResult.code_ofAnswer_eq_two_iff]
      refine ⟨⟨?_, ?_⟩, ?_⟩
      · rintro ⟨e, he, hrejection⟩
        rw [Calculator.isRejection_of_respond he] at hrejection
        cases hrejection
      all_goals
        rintro ⟨e, he, -⟩
        cases he
  · rw [code_of_not_ready hcheck h, code_of_not_ready hcalculate h]
    exact ⟨Iff.rfl, fun habsurd => absurd habsurd (by decide)⟩

/-- A translation ends with 0 when the phrase has one and with 2 when it is rejected. -/
theorem code_parse_of_ready (h : Ready env path input config text) (format : Format) :
    ((run env ⟨path, format, .parse input⟩).code = 0 ↔
      ∃ t, parsePhrase config.admission text = .ok t) ∧
    ((run env ⟨path, format, .parse input⟩).code = 2 ↔
      ∃ cause, parsePhrase config.admission text = .error cause) := by
  obtain ⟨_, _, hrun⟩ := run_of_ready h true
  rw [(hrun format).1, RunResult.code_ofAnswer_eq_zero_iff, RunResult.code_ofAnswer_eq_two_iff]
  exact ⟨Calculator.exists_parse_eq_ok_iff, Calculator.exists_parse_rejected_iff⟩

/-- A check ends with 0 when the expression is admitted and with 2 when it is rejected. -/
theorem code_check_of_ready (h : Ready env path input config text) (natural : Bool)
    (format : Format) :
    ((run env ⟨path, format, .check input natural⟩).code = 0 ↔
      ∃ a, admitExpression config.admission natural text = .ok a) ∧
    ((run env ⟨path, format, .check input natural⟩).code = 2 ↔
      ∃ cause, admitExpression config.admission natural text = .error cause) := by
  obtain ⟨_, _, hrun⟩ := run_of_ready h natural
  rw [(hrun format).2.1, RunResult.code_ofAnswer_eq_zero_iff, RunResult.code_ofAnswer_eq_two_iff]
  simp only [Calculator.admission_eq_ok_iff]
  exact ⟨trivial, Calculator.exists_admission_rejected_iff⟩

/-- The check of an expression that is admitted prints the report of the admission. -/
theorem check_of_admitted (h : Ready env path input config text) {a : Admission}
    (ha : admitExpression config.admission natural text = .ok a) (format : Format) :
    run env ⟨path, format, .check input natural⟩ = .printed (format.admitted a) := by
  obtain ⟨_, _, hrun⟩ := run_of_ready h natural
  rw [(hrun format).2.1, Calculator.admission_eq_ok_iff.mpr ha]
  rfl

/-- The report of a check shows the expression that was admitted, and no other. -/
theorem shows_check_iff (h : Ready env path input config text) {a : Admission}
    (ha : admitExpression config.admission natural text = .ok a) {format : Format}
    {expression : Text} :
    format.Shows (run env ⟨path, format, .check input natural⟩).stdout expression ↔
      expression = a.expression := by
  have hclean : isClean a.expression = true :=
    (clear_eq_ok_iff.mp (admitExpression_eq_ok_iff.mp ha).2.2.2).2.2
  rw [check_of_admitted h ha]
  exact Format.shows_admitted_iff hclean

/-- A calculation of an admitted expression ends with 0 or 1, as the evaluator of the configuration
does or does not succeed on it. -/
theorem code_calculate_of_ready (h : Ready env path input config text) (natural : Bool) :
    ∃ evaluator, config.RunsAs evaluator ∧
      ∀ a, admitExpression config.admission natural text = .ok a → ∀ format,
        ((run env ⟨path, format, .calculate input natural⟩).code = 0 ↔
          ∃ value, evaluator.evaluate env.host a.expression = .ok value) ∧
        ((run env ⟨path, format, .calculate input natural⟩).code = 1 ↔
          ∃ e, evaluator.evaluate env.host a.expression = .error e) := by
  obtain ⟨evaluator, hruns, hrun⟩ := run_of_ready h natural
  refine ⟨evaluator, hruns, fun a ha format => ?_⟩
  have hvalue : (Calculator.calculate ⟨evaluator.toEvaluator env.host, config.admission⟩
      ⟨text, natural⟩ ()).1 = Calculator.respond (evaluator.evaluate env.host a.expression) := by
    rw [Calculator.calculate, Calculator.admission_eq_ok_iff.mpr ha]
    rfl
  rw [(hrun format).2.2, hvalue, RunResult.code_ofAnswer_eq_zero_iff,
    RunResult.code_ofAnswer_eq_one_iff]
  exact ⟨Calculator.exists_respond_eq_ok_iff, Calculator.exists_respond_failed_iff⟩

/-- What the exit codes of the requests for one input say, under one configuration. -/
structure ConsistentOutcomes (env : Environment) (path input : Option Text) (natural : Bool) :
    Prop where
  /-- The form of output has no part in the exit code. -/
  format_free : ∀ action ∈ requests input natural, ∀ format format',
    (run env ⟨path, format, action⟩).code = (run env ⟨path, format', action⟩).code
  /-- Code 3 says that there is no configuration or no input. -/
  broken_iff : ∀ action ∈ requests input natural, ∀ format,
    (run env ⟨path, format, action⟩).code = 3 ↔
      ¬∃ config text, Ready env path input config text
  /-- A translation ends with 0 when the phrase has one and with 2 when it is rejected. -/
  parsed : ∀ config text, Ready env path input config text → ∀ format,
    ((run env ⟨path, format, .parse input⟩).code = 0 ↔
      ∃ t, parsePhrase config.admission text = .ok t) ∧
    ((run env ⟨path, format, .parse input⟩).code = 2 ↔
      ∃ cause, parsePhrase config.admission text = .error cause)
  /-- A check ends with 0 when the expression is admitted and with 2 when it is rejected. -/
  checked : ∀ config text, Ready env path input config text → ∀ format,
    ((run env ⟨path, format, .check input natural⟩).code = 0 ↔
      ∃ a, admitExpression config.admission natural text = .ok a) ∧
    ((run env ⟨path, format, .check input natural⟩).code = 2 ↔
      ∃ cause, admitExpression config.admission natural text = .error cause)
  /-- The report of a check shows the expression that was admitted, and no other. -/
  reported : ∀ config text, Ready env path input config text →
    ∀ a, admitExpression config.admission natural text = .ok a → ∀ format : Format, ∀ expression,
      format.Shows (run env ⟨path, format, .check input natural⟩).stdout expression ↔
        expression = a.expression
  /-- A calculation is rejected when the check is, and with the same report. -/
  rejected : ∀ format,
    ((run env ⟨path, format, .calculate input natural⟩).code = 2 ↔
      (run env ⟨path, format, .check input natural⟩).code = 2) ∧
    ((run env ⟨path, format, .check input natural⟩).code = 2 →
      (run env ⟨path, format, .calculate input natural⟩).stdout =
        (run env ⟨path, format, .check input natural⟩).stdout)
  /-- Where a check succeeds, the calculation ends with 0 or 1, as the evaluator of the
  configuration does or does not succeed on the expression that the check reports. -/
  evaluated : ∀ config text, Ready env path input config text →
    ∃ evaluator, config.RunsAs evaluator ∧ ∀ format : Format, ∀ expression,
      (run env ⟨path, format, .check input natural⟩).code = 0 →
      format.Shows (run env ⟨path, format, .check input natural⟩).stdout expression →
        ((run env ⟨path, format, .calculate input natural⟩).code = 0 ↔
          ∃ value, evaluator.evaluate env.host expression = .ok value) ∧
        ((run env ⟨path, format, .calculate input natural⟩).code = 1 ↔
          ∃ e, evaluator.evaluate env.host expression = .error e)

/-- The exit codes of the requests for an input are consistent, whatever the file of the
configuration holds and whatever the input is. -/
theorem outcomes_are_consistent (env : Environment) (path input : Option Text) (natural : Bool) :
    ConsistentOutcomes env path input natural := by
  constructor
  · exact fun action haction => code_eq_of_mem_requests haction
  · exact fun action haction => code_eq_three_iff haction
  · exact fun config text hready => code_parse_of_ready hready
  · exact fun config text hready => code_check_of_ready hready natural
  · exact fun config text hready a ha format expression => shows_check_iff hready ha
  · intro format
    obtain ⟨hcode, hrun⟩ := calculate_rejected_iff env path input natural format
    exact ⟨hcode, fun hrejected => congrArg RunResult.stdout (hrun hrejected)⟩
  · intro config text hready
    obtain ⟨evaluator, hruns, hcalculate⟩ := code_calculate_of_ready hready natural
    refine ⟨evaluator, hruns, fun format expression hcode hshows => ?_⟩
    obtain ⟨a, ha⟩ := (code_check_of_ready hready natural format).1.mp hcode
    obtain rfl := (shows_check_iff hready ha).mp hshows
    exact hcalculate a ha format

/-- A phrase is piped in with a line break behind it. A file allows for just as many characters as
the phrase has and names a program, and that program knows one answer. -/
def pipedPhrase : Environment where
  file path :=
    if path = "gate.json".toList then
      .ok ("\x7b\"admission\": \x7b\"natural_language_max_len\": 15\x7d, " ++
        "\"evaluator\": \x7b\"command\": [\"calc\"], \"timeout\": \"2s\"\x7d\x7d").toList
    else .error "No such file or directory (os error 2)".toList
  stdin := Utf8.encode "cube root of 27\r\n".toList
  host invocation :=
    if invocation = ⟨"calc".toList, [], "cbrt(27)\n".toList, .ofSeconds 2⟩ then
      .ended ⟨Utf8.encode "3\n".toList, [], .exited 0⟩
    else .overran

/-- The configuration in the file. -/
def pipedPhraseConfig : Config :=
  { admission := ⟨15, 500⟩, evaluator := ⟨["calc".toList], .ofSeconds 2, none⟩ }

/-- As a phrase the input is translated, and the translation is what the check shows and what the
calculation succeeds on. As an expression it is rejected by both alike. With another file there is
no configuration. -/
theorem pipedPhrase_outcomes :
    Ready pipedPhrase (some "gate.json".toList) none pipedPhraseConfig "cube root of 27".toList ∧
      (run pipedPhrase ⟨some "gate.json".toList, .text, .check none true⟩).stdout =
        "ADMITTED\n\nRoute: natural language\nRule: N9\nExpression: cbrt(27)\n".toList ∧
      (∀ expression, Format.json.Shows
        (run pipedPhrase ⟨some "gate.json".toList, .json, .check none true⟩).stdout expression ↔
          expression = "cbrt(27)".toList) ∧
      (run pipedPhrase ⟨some "gate.json".toList, .json, .calculate none true⟩).code = 0 ∧
      (run pipedPhrase ⟨some "gate.json".toList, .text, .calculate none false⟩).code = 2 ∧
      (run pipedPhrase ⟨some "gate.json".toList, .text, .calculate none false⟩).stdout =
        (run pipedPhrase ⟨some "gate.json".toList, .text, .check none false⟩).stdout ∧
      (run pipedPhrase ⟨some "gate.yaml".toList, .text, .parse none⟩).code = 3 := by
  have hready : Ready pipedPhrase (some "gate.json".toList) none pipedPhraseConfig
      "cube root of 27".toList :=
    ⟨⟨_, by rfl, by decide +kernel⟩, ['\r', '\n'], by rfl, by simp, by simp⟩
  have hadmitted : admitExpression pipedPhraseConfig.admission true "cube root of 27".toList =
      .ok ⟨"cbrt(27)".toList, .naturalLanguage, some "N9"⟩ := by decide +kernel
  have hrejected : admitExpression pipedPhraseConfig.admission false "cube root of 27".toList =
      .error .unrecognizedTokens := by decide +kernel
  have hphrase := outcomes_are_consistent pipedPhrase (some "gate.json".toList) none true
  have hstrict := outcomes_are_consistent pipedPhrase (some "gate.json".toList) none false
  have hother := outcomes_are_consistent pipedPhrase (some "gate.yaml".toList) none true
  have hshown := hphrase.reported _ _ hready _ hadmitted
  have htwo := (hstrict.checked _ _ hready .text).2.mpr ⟨_, hrejected⟩
  refine ⟨hready, ?_, hshown .json, ?_, (hstrict.rejected .text).1.mpr htwo,
    (hstrict.rejected .text).2 htwo, ?_⟩
  · rw [check_of_admitted hready hadmitted]
    rfl
  · obtain ⟨evaluator, hruns, hcalculate⟩ := hphrase.evaluated _ _ hready
    have hzero := (hphrase.checked _ _ hready .json).1.mpr ⟨_, hadmitted⟩
    obtain rfl : evaluator = pipedPhraseConfig.evaluator.evaluatorFor "calc".toList :=
      Except.ok.inj (hruns.ofSettings.symm.trans
        (EvaluatorSettings.ofSettings_of_program (by rfl)))
    obtain ⟨hvalue, -⟩ := hcalculate .json _ hzero ((hshown .json _).mpr rfl)
    exact hvalue.mpr ⟨.number (.integer 3), by rfl⟩
  · refine (hother.broken_iff _ (by simp [requests]) .text).mpr ?_
    rintro ⟨_, _, ⟨_, hfile, -⟩, -⟩
    cases hfile

end CommandLine

end ExprGate
