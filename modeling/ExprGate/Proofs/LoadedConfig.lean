import ExprGate.Proofs.ConfigYaml

/-!
# Loaded configurations

Whether a configuration is of use is decided when it is checked, and never again later. The program
and the definitions that its settings name are those that the evaluator runs and sends, although
both are looked at a second time when the evaluator is made.
-/

namespace ExprGate

namespace Config

variable {c : Config}

/-- Whatever is loaded, or stands for what is not given, has no fault. -/
theorem validate_of_loaded (h : c = standard ∨ ∃ source, fromJson source = .ok c ∨
    fromYaml source = .ok c) : c.validate = .ok () := by
  rcases h with rfl | ⟨source, hjson | hyaml⟩
  · exact validate_standard
  · exact (fromJson_eq_ok_iff.mp hjson).2
  · exact (fromYaml_eq_ok_iff.mp hyaml).2

/-- No calculator is made of a configuration exactly for the faults that checking it finds. -/
theorem ofConfig_eq_error_iff {host : Host} {error : ConfigError} :
    Calculator.ofConfig host c = .error error ↔ c.validate = .error error := by
  cases hvalidate : c.validate with
  | ok =>
    obtain ⟨evaluator, hruns⟩ := exists_runsAs_of_validate hvalidate
    rw [hruns.ofConfig]
    simp
  | error found =>
    have hrefused : Calculator.ofConfig host c = .error found := by
      rw [Calculator.ofConfig, hvalidate]
      rfl
    rw [hrefused, Except.error.injEq, Except.error.injEq]

/-- A loaded configuration can always be used. Whatever text it was loaded from, and also when it is
the standard one, it describes an evaluator with its program, its positive time limit and the
definitions in effect, and a calculator with that evaluator and its bounds. Of any configuration at
all a calculator is made unless checking it fails, and then with the same fault. -/
theorem loaded_configs_are_usable :
    (∀ c : Config, (c = standard ∨ ∃ source, fromJson source = .ok c ∨ fromYaml source = .ok c) →
      ∃ evaluator, c.RunsAs evaluator) ∧
    ∀ (host : Host) (c : Config) (error : ConfigError), Calculator.ofConfig host c = .error error ↔
      c.validate = .error error ∧ ∃ fault, error = .invalid fault := by
  refine ⟨fun c h => exists_runsAs_of_validate (validate_of_loaded h), fun host c error => ?_⟩
  rw [ofConfig_eq_error_iff]
  exact ⟨fun h => ⟨h, exists_fault_of_validate h⟩, And.left⟩

/-- A path to `bc` that ends in a slash is loaded from YAML and run with the definitions for `bc`,
for at most a nanosecond. -/
theorem path_to_bc_is_usable :
    let c : Config :=
      { admission := ⟨1, 500⟩, evaluator := ⟨["/usr/bin/bc/".toList, "-l".toList], ⟨1⟩, none⟩ }
    fromYaml c.toYaml = .ok c ∧ ∃ evaluator, c.RunsAs evaluator ∧
      evaluator.program = "/usr/bin/bc/".toList ∧ evaluator.prelude = some bcPrelude := by
  intro c
  have hrange : c.InRange :=
    ⟨⟨by decide, by decide⟩, show c.evaluator.timeout.seconds < wordBound by decide⟩
  have hloaded : fromYaml c.toYaml = .ok c := fromYaml_toYaml hrange (by rfl)
  obtain ⟨evaluator, hruns⟩ := loaded_configs_are_usable.1 c (.inr ⟨_, .inr hloaded⟩)
  have hprogram : c.evaluator.program? = some "/usr/bin/bc/".toList := by rfl
  have hprelude : c.evaluator.effectivePrelude = some bcPrelude := by rfl
  exact ⟨hloaded, evaluator, hruns, Option.some.inj (hruns.program.symm.trans hprogram),
    hruns.prelude.trans hprelude⟩

end Config

end ExprGate
