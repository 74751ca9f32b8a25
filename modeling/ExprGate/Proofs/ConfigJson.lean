import ExprGate.CommandLine.Report
import ExprGate.Config.Json
import ExprGate.Proofs.DurationText
import ExprGate.Proofs.UsableConfig
import ExprGate.Proofs.WireRoundTrip

/-!
# Configurations in JSON and back

A configuration is read back from the JSON that is written for it, useful or not. Only then is it
checked, so what stands between a configuration and its reading back is its own first fault.
-/

namespace ExprGate

open Wire

/-- The numbers of a configuration fit into words of 64 bits. -/
structure Config.InRange (c : Config) : Prop where
  /-- The bounds on the length of input do. -/
  admission : c.admission.InRange
  /-- The seconds of the time limit do. -/
  timeout : c.evaluator.timeout.InRange

/-- A policy can be written in JSON. -/
theorem Policy.wellFormed_toJson (p : Policy) : p.toJson.WellFormed :=
  .record (by simp [Json.WellFormed.nat])

namespace EvaluatorSettings

/-- Settings can be written in JSON. -/
theorem wellFormed_toJson (s : EvaluatorSettings) : s.toJson.WellFormed := by
  have hcommand : (Json.array (s.command.map .text)).WellFormed :=
    .array fun item hitem => by
      obtain ⟨t, -, rfl⟩ := List.mem_map.mp hitem
      exact .text t
  refine .record fun member hmember => ?_
  cases hprelude : s.prelude with
  | none =>
    simp only [hprelude, List.append_nil, List.mem_cons, List.not_mem_nil, or_false] at hmember
    rcases hmember with rfl | rfl
    · exact hcommand
    · exact .text _
  | some prelude =>
    simp only [hprelude, List.cons_append, List.nil_append, List.mem_cons, List.not_mem_nil,
      or_false] at hmember
    rcases hmember with rfl | rfl | rfl
    · exact hcommand
    · exact .text _
    · exact .text _

/-- A list of texts is read as it was written. -/
private theorem list?_text (ts : List Text) : list? text? (.array (ts.map .text)) = some ts := by
  rw [list?, List.mapM_map]
  induction ts with
  | nil => rfl
  | cons t ts ih =>
    rw [List.mapM_cons, ih]
    rfl

/-- Settings are read as they were written; the prelude is missing exactly when none is set. -/
theorem ofJson?_toJson {s : EvaluatorSettings} (h : s.timeout.InRange) :
    ofJson? s.toJson = some s := by
  obtain ⟨command, timeout, prelude⟩ := s
  have hfields : fields? ["command", "timeout", "prelude"]
      (toJson ⟨command, timeout, prelude⟩) =
        some [some (.array (command.map .text)), some (.text timeout.text),
          prelude.map .text] := by
    cases prelude <;> rfl
  have htimeout : Duration.ofJson? (.text timeout.text) = some timeout := Duration.ofJson?_text h
  have hprelude : optional text? (prelude.map .text) = some prelude := by
    cases prelude <;> rfl
  rw [ofJson?, hfields]
  simp only [withDefault, list?_text, htimeout, hprelude]
  rfl

end EvaluatorSettings

namespace Config

/-- A configuration can be written in JSON. -/
theorem wellFormed_toJson (c : Config) : c.toJson.WellFormed := by
  refine .record fun member hmember => ?_
  simp only [List.mem_cons, List.not_mem_nil, or_false] at hmember
  rcases hmember with rfl | rfl
  · exact c.admission.wellFormed_toJson
  · exact c.evaluator.wellFormed_toJson

/-- A configuration is read as it was written. -/
theorem ofJson?_toJson {c : Config} (h : c.InRange) : ofJson? c.toJson = some c := by
  have hfields : fields? ["admission", "evaluator"] c.toJson =
      some [some c.admission.toJson, some c.evaluator.toJson] := rfl
  have hadmission : Policy.ofJson? c.admission.toJson = some c.admission := by
    have hread := Policy.roundTrips.decode_write c.admission h.admission
    rwa [decode?, write, Json.parse?_compact c.admission.wellFormed_toJson] at hread
  rw [ofJson?, hfields]
  simp only [withDefault, hadmission, EvaluatorSettings.ofJson?_toJson h.timeout]
  rfl

/-- The JSON that is written for a configuration, compact or in a report, is read as that
configuration. It is loaded from there exactly when it has no fault, and otherwise its first fault
is what loading fails with. -/
theorem reads_written_json (c : Config) (h : c.InRange) :
    ∀ written ∈ [c.toJson.compact, c.toJson.report],
      parseJson? written = some c ∧ (fromJson written = .ok c ↔ c.validate = .ok ()) ∧
        (c.validate ≠ .ok () → ∃ fault, c.validate = .error (.invalid fault) ∧
          fromJson written = .error (.invalid fault)) := by
  intro written hwritten
  have hparse : Json.parse? written = some c.toJson := by
    simp only [List.mem_cons, List.not_mem_nil, or_false] at hwritten
    rcases hwritten with rfl | rfl
    · exact Json.parse?_compact c.wellFormed_toJson
    · rw [Json.report, unlines, List.flatMap_singleton]
      exact Json.parse?_pretty c.wellFormed_toJson (by simp [Json.isSpace])
  have hread : parseJson? written = some c := by
    rw [parseJson?, hparse]
    exact ofJson?_toJson h
  have hloaded : fromJson written = c.checked := by rw [fromJson, hread]
  refine ⟨hread, ?_, fun hfault => ?_⟩
  · rw [hloaded, checked_eq_ok_iff]
    simp
  · obtain ⟨fault, hvalidate⟩ := c.validate_eq_ok_or_invalid.resolve_left hfault
    refine ⟨fault, hvalidate, ?_⟩
    rw [hloaded, checked, hvalidate]
    rfl

/-- The longest time limit, the largest bound and a prelude of characters that are escaped are read
back in a configuration that has no program. -/
theorem reads_written_json_of_extremes :
    let c : Config :=
      { admission := ⟨1, wordBound - 1⟩,
        evaluator := ⟨[], ⟨wordBound * Duration.second - 1⟩, some ['"', '\\', '\n', '\x00']⟩ }
    c.InRange ∧ parseJson? c.toJson.compact = some c ∧
      fromJson c.toJson.report = .error (.invalid .program) := by
  intro c
  have hrange : c.InRange :=
    ⟨⟨by decide, by decide⟩, show c.evaluator.timeout.seconds < wordBound by decide⟩
  have hfault : c.validate = .error (.invalid .program) := rfl
  obtain ⟨hread, -⟩ := reads_written_json c hrange _ (List.mem_cons_self)
  obtain ⟨fault, hvalidate, hloaded⟩ :=
    (reads_written_json c hrange _ (List.mem_cons_of_mem _ List.mem_cons_self)).2.2
      (by rw [hfault]; exact fun h => nomatch h)
  rw [hfault] at hvalidate
  cases hvalidate
  exact ⟨hrange, hread, hloaded⟩

end Config

end ExprGate
