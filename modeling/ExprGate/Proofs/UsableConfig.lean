import ExprGate.Calculator
import ExprGate.Config.File
import ExprGate.Proofs.Stages
import ExprGate.Proofs.Trimming

/-!
# Configurations of use

A configuration without fault names a program, so an evaluator and a calculator can be made of it.
Whatever is loaded was checked, and the standard configuration has no fault; hence nothing that is
loaded fails later on.
-/

namespace ExprGate

namespace Config

variable {c : Config}

/-- A demand is met exactly when its condition holds. -/
theorem demand_eq_ok_iff {condition : Bool} {fault : ConfigFault} :
    demand condition fault = .ok () ↔ condition = true := by
  cases condition <;> simp [demand]

/-- A configuration has no fault when its bounds and its time limit are positive and its command
names a program. -/
theorem validate_eq_ok_iff : c.validate = .ok () ↔
    c.admission.naturalLanguageMaxLen ≠ 0 ∧ c.admission.expressionMaxLen ≠ 0 ∧
      c.evaluator.program?.isSome ∧ c.evaluator.timeout.nanos ≠ 0 := by
  simp [validate, check_bind_eq_ok_iff, demand_eq_ok_iff]

/-- Where a demand is not met, its fault is what the check fails with. -/
theorem demand_cases (condition : Bool) (fault : ConfigFault) :
    demand condition fault = .ok () ∨ demand condition fault = .error (.invalid fault) := by
  cases condition
  · exact .inr rfl
  · exact .inl rfl

/-- A configuration has no fault, or the check fails with a fault of it. -/
theorem validate_eq_ok_or_invalid (c : Config) :
    c.validate = .ok () ∨ ∃ fault, c.validate = .error (.invalid fault) := by
  have hcheck {condition : Bool} {fault : ConfigFault} {rest : Except ConfigError Unit}
      (hrest : rest = .ok () ∨ ∃ found, rest = .error (.invalid found)) :
      (do demand condition fault; rest) = .ok () ∨
        ∃ found, (do demand condition fault; rest) = .error (.invalid found) := by
    rcases demand_cases condition fault with h | h
    · rw [h]
      exact hrest
    · rw [h]
      exact .inr ⟨fault, rfl⟩
  refine hcheck (hcheck (hcheck ?_))
  rcases demand_cases (c.evaluator.timeout.nanos != 0) .timeout with h | h
  · exact .inl h
  · exact .inr ⟨_, h⟩

/-- The check fails with a fault only. -/
theorem exists_fault_of_validate {error : ConfigError} (h : c.validate = .error error) :
    ∃ fault, error = .invalid fault := by
  rcases c.validate_eq_ok_or_invalid with hvalid | ⟨fault, hfault⟩
  · rw [hvalid] at h
    cases h
  · exact ⟨fault, Except.error.inj (h.symm.trans hfault)⟩

/-- Checking lets exactly the configurations without fault pass, as they are. -/
theorem checked_eq_ok_iff {checked : Config} :
    c.checked = .ok checked ↔ c.validate = .ok () ∧ c = checked := by
  simp [Config.checked, check_bind_eq_ok_iff, pure, Except.pure]

/-- The standard configuration has no fault. -/
theorem validate_standard : standard.validate = .ok () := by decide

/-- What is read and then checked is what was read, if that has no fault. -/
private theorem match_checked_eq_ok_iff {read : Option Config} {failure : ConfigError} :
    (match read with
      | some written => written.checked
      | none => .error failure) = .ok c ↔ read = some c ∧ c.validate = .ok () := by
  cases read with
  | none => simp
  | some written =>
    rw [checked_eq_ok_iff, Option.some.injEq, and_comm]
    exact and_congr_right fun h => by rw [h]

/-- What is loaded from a JSON text is what the text writes, if that has no fault. -/
theorem fromJson_eq_ok_iff {source : Text} :
    fromJson source = .ok c ↔ parseJson? source = some c ∧ c.validate = .ok () :=
  match_checked_eq_ok_iff

/-- What is loaded from a YAML text is what the text writes, if that has no fault. -/
theorem fromYaml_eq_ok_iff {source : Text} :
    fromYaml source = .ok c ↔ parseYaml? source = some c ∧ c.validate = .ok () :=
  match_checked_eq_ok_iff

/-- A configuration from a file is written there in one of the formats, and it has no fault. -/
theorem written_of_ofFile {path : Text} {contents : Except Text Text}
    (h : ofFile path contents = .ok c) :
    (∃ source, parseJson? source = some c ∨ parseYaml? source = some c) ∧ c.validate = .ok () := by
  cases contents with
  | error cause => cases h
  | ok source =>
    rw [ofFile] at h
    split at h
    · obtain ⟨hread, hvalid⟩ := fromJson_eq_ok_iff.mp h
      exact ⟨⟨source, .inl hread⟩, hvalid⟩
    · obtain ⟨hread, hvalid⟩ := fromYaml_eq_ok_iff.mp h
      exact ⟨⟨source, .inr hread⟩, hvalid⟩

end Config

/-- The definitions for `bc` are not blank. -/
theorem isBlank_bcPrelude : Text.isBlank bcPrelude = false := by
  -- There are eleven lines, and the first one is not blank.
  iterate 10 refine Text.isBlank_toList_append ?_ _
  exact Text.isBlank_toList (by decide)

namespace EvaluatorSettings

variable {s : EvaluatorSettings}

/-- Definitions that are sent are not blank, wherever they come from. -/
theorem isBlank_of_effectivePrelude {prelude : Text} (h : s.effectivePrelude = some prelude) :
    Text.isBlank prelude = false := by
  rw [effectivePrelude] at h
  split at h
  · split at h
    · cases h
    · next hblank => exact Option.some.inj h ▸ Bool.eq_false_iff.mpr hblank
  · split at h
    · exact Option.some.inj h ▸ isBlank_bcPrelude
    · cases h

/-- The evaluator that runs a program as the settings say. -/
def evaluatorFor (s : EvaluatorSettings) (program : Text) : CommandEvaluator :=
  { program, args := s.args, timeout := s.timeout, prelude := s.effectivePrelude,
    lowercaseInput := s.isBc }

/-- Settings that name a program describe the evaluator that runs it as they say. -/
theorem ofSettings_of_program {program : Text} (h : s.program? = some program) :
    CommandEvaluator.ofSettings s = .ok (s.evaluatorFor program) := by
  rw [CommandEvaluator.ofSettings, h, evaluatorFor]
  cases hprelude : s.effectivePrelude with
  | none => rfl
  | some prelude =>
    simp [CommandEvaluator.withPrelude, CommandEvaluator.plain,
      isBlank_of_effectivePrelude hprelude]

end EvaluatorSettings

/-- The configuration is run by the evaluator as it says, and nothing of it is lost. -/
structure Config.RunsAs (c : Config) (evaluator : CommandEvaluator) : Prop where
  /-- The settings describe the evaluator. -/
  ofSettings : CommandEvaluator.ofSettings c.evaluator = .ok evaluator
  /-- The configuration describes the calculator with the evaluator and the configured bounds. -/
  ofConfig : ∀ host, Calculator.ofConfig host c =
    .ok { evaluator := evaluator.toEvaluator host, policy := c.admission }
  /-- The program is the one that the command names. -/
  program : c.evaluator.program? = some evaluator.program
  /-- Its arguments are the rest of the command. -/
  args : evaluator.args = c.evaluator.args
  /-- Its time limit is the configured one, which is not zero. -/
  timeout : evaluator.timeout = c.evaluator.timeout ∧ evaluator.timeout.nanos ≠ 0
  /-- The definitions sent ahead are those in effect, whether they are set, blank or missing. -/
  prelude : evaluator.prelude = c.evaluator.effectivePrelude
  /-- Expressions are sent in lower case exactly when the program is `bc`. -/
  lowercaseInput : evaluator.lowercaseInput = c.evaluator.isBc

/-- A configuration without fault is run by some evaluator. -/
theorem Config.exists_runsAs_of_validate {c : Config} (h : c.validate = .ok ()) :
    ∃ evaluator, c.RunsAs evaluator := by
  obtain ⟨-, -, hprogram, htimeout⟩ := validate_eq_ok_iff.mp h
  obtain ⟨program, hprogram⟩ := Option.isSome_iff_exists.mp hprogram
  have hevaluator := EvaluatorSettings.ofSettings_of_program hprogram
  refine ⟨_, hevaluator, fun host => ?_, hprogram, rfl, ⟨rfl, htimeout⟩, rfl, rfl⟩
  rw [Calculator.ofConfig, h, hevaluator]
  rfl

end ExprGate
