import ExprGate.Proofs.ConfigYaml
import ExprGate.Proofs.ExitCodes

/-!
# Showing a configuration

Whatever is loaded fits into the 64 bits that its numbers are read in, so what the program shows of
its configuration is a document that is loaded as the same configuration, from any file that is
read as YAML.
-/

namespace ExprGate

/-! ## What is loaded fits into 64 bits -/

namespace Duration

/-- A sum is refused unless it is in range. -/
private theorem inRange_of_add? {d sum : Duration} {count : Count} {n : Nat}
    (h : d.add? count n = some sum) : sum.InRange := by
  obtain ⟨hfits, hsum⟩ := Option.ite_none_right_eq_some.mp h
  exact Option.some.inj hsum ▸ hfits.2

/-- A sum with an amount is in range. -/
private theorem inRange_of_addAmount? {d sum : Duration} {amount : Amount}
    (h : d.addAmount? amount = some sum) : sum.InRange := by
  simp only [addAmount?, Option.bind_eq_bind, Option.bind_eq_some_iff] at h
  obtain ⟨unit, -, n, -, m, -, whole, hwhole, hfraction⟩ := h
  split at hfraction
  · exact Option.some.inj hfraction ▸ inRange_of_add? hwhole
  · simp only [Option.bind_eq_some_iff] at hfraction
    obtain ⟨worth, -, part, -, hsum⟩ := hfraction
    exact inRange_of_add? hsum

/-- A duration that is read is in range. -/
theorem inRange_of_parse? {t : Text} {d : Duration} (h : parse? t = some d) : d.InRange := by
  have hsum (amounts : List Amount) {start : Duration} (hstart : start.InRange)
      (h : amounts.foldlM addAmount? start = some d) : d.InRange := by
    induction amounts generalizing start with
    | nil => exact Option.some.inj h ▸ hstart
    | cons amount amounts ih =>
      rw [List.foldlM_cons, Option.bind_eq_bind, Option.bind_eq_some_iff] at h
      obtain ⟨next, hnext, hrest⟩ := h
      exact ih (inRange_of_addAmount? hnext) hrest
  rw [parse?] at h
  split at h
  · cases h
  · cases h
  · exact hsum _ (show (⟨0⟩ : Duration).seconds < wordBound by decide) h

end Duration

namespace Yaml.Node

/-- A number that is read has at most 64 bits. -/
theorem lt_of_nat64? {node : Node} {n : Nat} (h : node.nat64? = some n) : n < wordBound := by
  cases node with
  | scalar tag style text =>
    rw [nat64?] at h
    split at h
    · split at h
      · split at h
        · next hn => exact Option.some.inj h ▸ hn
        · cases h
      · cases h
    · cases h
  | _ => cases h

end Yaml.Node

/-- What holds of the default of a field and of whatever is read for it holds of the field. -/
private theorem of_field {α β : Type} {P : α → Prop} {read? : Option β → Option α} {default v : α}
    {field : Option β} (h : read? field = some v) (hnone : read? none = some default)
    (hdefault : P default) (hread : ∀ b v, read? (some b) = some v → P v) : P v := by
  cases field with
  | none =>
    obtain rfl : default = v := Option.some.inj (hnone.symm.trans h)
    exact hdefault
  | some b => exact hread b v h

/-- A policy that is read from a node is in range. -/
theorem Policy.inRange_of_ofYaml? {node : Yaml.Node} {p : Policy} (h : ofYaml? node = some p) :
    p.InRange := by
  rw [ofYaml?] at h
  split at h
  · simp only [Option.bind_eq_bind, Option.bind_eq_some_iff] at h
    obtain ⟨_, hnatural, _, hexpression, hp⟩ := h
    obtain rfl := Option.some.inj hp
    exact ⟨of_field (P := (· < wordBound)) hnatural rfl (by decide)
        fun _ _ => Yaml.Node.lt_of_nat64?,
      of_field (P := (· < wordBound)) hexpression rfl (by decide)
        fun _ _ => Yaml.Node.lt_of_nat64?⟩
  · cases h

namespace EvaluatorSettings

/-- The standard time limit is in range. -/
theorem inRange_timeout_standard : standard.timeout.InRange :=
  show standard.timeout.seconds < wordBound by decide

/-- A time limit that is read from a JSON value is in range. -/
theorem inRange_of_ofJson? {j : Json} {s : EvaluatorSettings} (h : ofJson? j = some s) :
    s.timeout.InRange := by
  have hread (j : Json) (d : Duration) (h : Duration.ofJson? j = some d) : d.InRange := by
    obtain ⟨t, -, ht⟩ := Option.bind_eq_some_iff.mp h
    exact Duration.inRange_of_parse? ht
  rw [ofJson?] at h
  split at h
  · simp only [Option.bind_eq_bind, Option.bind_eq_some_iff] at h
    obtain ⟨_, _, timeout, htimeout, _, _, hs⟩ := h
    obtain rfl := Option.some.inj hs
    exact of_field (P := Duration.InRange) htimeout rfl inRange_timeout_standard hread
  · cases h

/-- A time limit that is read from a node is in range. -/
theorem inRange_of_ofYaml? {node : Yaml.Node} {s : EvaluatorSettings}
    (h : ofYaml? node = some s) : s.timeout.InRange := by
  have hread (node : Yaml.Node) (d : Duration) (h : Duration.ofYaml? node = some d) :
      d.InRange := by
    obtain ⟨t, -, ht⟩ := Option.bind_eq_some_iff.mp h
    exact Duration.inRange_of_parse? ht
  rw [ofYaml?] at h
  split at h
  · simp only [Option.bind_eq_bind, Option.bind_eq_some_iff] at h
    obtain ⟨_, _, timeout, htimeout, _, _, hs⟩ := h
    obtain rfl := Option.some.inj hs
    exact of_field (P := Duration.InRange) htimeout rfl inRange_timeout_standard hread
  · cases h

end EvaluatorSettings

namespace Config

/-- The standard configuration is in range. -/
theorem inRange_standard : standard.InRange :=
  ⟨⟨by decide, by decide⟩, EvaluatorSettings.inRange_timeout_standard⟩

/-- A configuration that is read from JSON is in range. -/
theorem inRange_of_parseJson? {source : Text} {c : Config} (h : parseJson? source = some c) :
    c.InRange := by
  obtain ⟨j, -, hj⟩ := Option.bind_eq_some_iff.mp h
  rw [ofJson?] at hj
  split at hj
  · simp only [Option.bind_eq_bind, Option.bind_eq_some_iff] at hj
    obtain ⟨_, hadmission, _, hevaluator, hc⟩ := hj
    obtain rfl := Option.some.inj hc
    exact ⟨of_field (P := Policy.InRange) hadmission rfl inRange_standard.admission
        fun _ _ => Policy.inRange_of_ofJson?,
      of_field (P := fun s : EvaluatorSettings => s.timeout.InRange) hevaluator rfl
        inRange_standard.timeout fun _ _ => EvaluatorSettings.inRange_of_ofJson?⟩
  · cases hj

/-- A configuration that is read from YAML is in range. -/
theorem inRange_of_parseYaml? {source : Text} {c : Config} (h : parseYaml? source = some c) :
    c.InRange := by
  obtain ⟨node, -, hnode⟩ := Option.bind_eq_some_iff.mp h
  rw [ofYaml?] at hnode
  split at hnode
  · simp only [Option.bind_eq_bind, Option.bind_eq_some_iff] at hnode
    obtain ⟨_, hadmission, _, hevaluator, hc⟩ := hnode
    obtain rfl := Option.some.inj hc
    exact ⟨of_field (P := Policy.InRange) hadmission rfl inRange_standard.admission
        fun _ _ => Policy.inRange_of_ofYaml?,
      of_field (P := fun s : EvaluatorSettings => s.timeout.InRange) hevaluator rfl
        inRange_standard.timeout fun _ _ => EvaluatorSettings.inRange_of_ofYaml?⟩
  · cases hnode

/-- A configuration from a file is in range. -/
theorem inRange_of_ofFile {path : Text} {contents : Except Text Text} {c : Config}
    (h : ofFile path contents = .ok c) : c.InRange := by
  obtain ⟨⟨source, hjson | hyaml⟩, -⟩ := written_of_ofFile h
  · exact inRange_of_parseJson? hjson
  · exact inRange_of_parseYaml? hyaml

end Config

/-! ## What is shown -/

namespace CommandLine

/-- A configuration that was loaded is in range. -/
theorem inRange_of_loadConfig {env : Environment} {path : Option Text} {c : Config}
    (h : loadConfig env path = .ok c) : c.InRange := by
  cases path with
  | none => exact Except.ok.inj h ▸ Config.inRange_standard
  | some path => exact Config.inRange_of_ofFile (loadConfig_some_eq_ok_iff.mp h)

/-- The configuration in a file that is read as YAML is the one that the text of the file is
loaded as. -/
private theorem loadConfig_of_fromYaml {env : Environment} {path source : Text} {c : Config}
    (hfile : env.file path = .ok source)
    (hyaml : PathName.hasExtension "json".toList path = false)
    (h : Config.fromYaml source = .ok c) : loadConfig env (some path) = .ok c := by
  rw [loadConfig_some_eq_ok_iff, hfile, Config.ofFile, hyaml]
  exact h

/-- Every configuration without fault is loaded from the YAML that is written for it, whatever texts
its command and its prelude are. So what the program shows of any configuration that it has loaded
can be kept in a file, and the program loads the same configuration from there. -/
theorem loads_shown_config :
    (∀ c : Config, c.InRange → c.validate = .ok () → Config.fromYaml c.toYaml = .ok c) ∧
    ∀ (env : Environment) (path : Option Text) (c : Config), loadConfig env path = .ok c →
      ∃ shown, run env ⟨path, .text, .showConfig⟩ = .printed shown ∧
        Config.fromYaml shown = .ok c ∧
        ∀ (later : Environment) (copy : Text), later.file copy = .ok shown →
          PathName.hasExtension "json".toList copy = false →
          loadConfig later (some copy) = .ok c := by
  refine ⟨fun c => Config.fromYaml_toYaml, fun env path c hloaded => ⟨c.toYaml, ?_, ?_⟩⟩
  · rw [run, hloaded]
    rfl
  · have hyaml : Config.fromYaml c.toYaml = .ok c :=
      Config.fromYaml_toYaml (inRange_of_loadConfig hloaded) (validate_of_loadConfig hloaded)
    exact ⟨hyaml, fun later copy hfile hname => loadConfig_of_fromYaml hfile hname hyaml⟩

/-- Words that look like other values, have characters that are escaped or start with marks, and a
prelude that starts with a blank line and ends in several, are loaded as they are; so are they from
a file in which they were shown. -/
theorem loads_shown_config_of_misleading_texts :
    let c : Config :=
      { admission := ⟨1, wordBound - 1⟩,
        evaluator :=
          { command := ["bc", "- a: #", "null", "0x1F", "", "\t'\"", "\u2028"].map String.toList,
            timeout := ⟨wordBound * Duration.second - 1⟩,
            prelude := some "\n  a: |\n\n b \n\n\n".toList } }
    let env (source : Text) : Environment :=
      { file := fun _ => .ok source, stdin := [], host := fun _ => .overran }
    Config.fromYaml c.toYaml = .ok c ∧ ∃ shown,
      run (env c.toYaml) ⟨some "gate.yaml".toList, .text, .showConfig⟩ = .printed shown ∧
        loadConfig (env shown) (some "copy.yml".toList) = .ok c := by
  intro c env
  have hrange : c.InRange :=
    ⟨⟨by decide, by decide⟩, show c.evaluator.timeout.seconds < wordBound by decide⟩
  have hyaml := loads_shown_config.1 c hrange rfl
  have hloaded : loadConfig (env c.toYaml) (some "gate.yaml".toList) = .ok c :=
    loadConfig_of_fromYaml rfl (by decide) hyaml
  obtain ⟨shown, hshown, -, hlater⟩ := loads_shown_config.2 _ _ c hloaded
  exact ⟨hyaml, shown, hshown, hlater (env shown) "copy.yml".toList rfl (by decide)⟩

end CommandLine

end ExprGate
