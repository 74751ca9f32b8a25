import ExprGate.Proofs.Canonical

/-!
# Phrases at the two entry points

A phrase can be handed to the translation directly, or to the admission of expressions, which trims
it first and then puts the translation through the last checks. The two paths give the same outcome:
trimming changes nothing about what sanitizing leaves, and the last checks never turn a translation
away.
-/

namespace ExprGate

/-- The last checks let pass whatever a phrase is translated to. -/
theorem clear_of_parsePhrase {policy : Policy} {input : Text} {t : Translation}
    (h : parsePhrase policy input = .ok t) : clear t.expression = .ok () := by
  obtain ⟨_, _, _, _, _, ht, _⟩ := parsePhrase_eq_ok_iff.mp h
  exact (canonical_of_translate ht).clear_eq_ok

/-- A phrase within its bound is treated as the trimmed phrase is. -/
theorem parsePhrase_trim {policy : Policy} {input : Text}
    (hlength : input.length ≤ policy.naturalLanguageMaxLen) :
    parsePhrase policy (Text.trim input) = parsePhrase policy input := by
  have htrimmed : (Text.trim input).length ≤ policy.naturalLanguageMaxLen := by
    have hshorter := Text.length_trim_le input
    omega
  exact parsePhrase_congr htrimmed hlength (sanitize_trim input)

/-- A text that reads like a phrase is not empty. -/
theorem ne_nil_of_looksLikeNaturalLanguage {t : Text} (h : looksLikeNaturalLanguage t = true) :
    t ≠ [] := by
  rintro rfl
  have hempty : looksLikeNaturalLanguage [] = false := by rfl
  rw [hempty] at h
  exact Bool.false_ne_true h

/-- Where phrases are allowed, an input that reads like one is admitted as the translation of the
trimmed input, or turned away for the cause that this is turned away for. -/
theorem admitExpression_of_phrase {policy : Policy} {input : Text}
    (hlength : input.length ≤ policy.expressionMaxLen)
    (hphrase : looksLikeNaturalLanguage (Text.trim input) = true) :
    admitExpression policy true input =
      (parsePhrase policy (Text.trim input)).map Translation.admission := by
  have hne := ne_nil_of_looksLikeNaturalLanguage hphrase
  have htaken : interpretInput policy true (Text.trim input) =
      (parsePhrase policy (Text.trim input)).map Translation.admission :=
    interpretInput_of_phrase hphrase
  cases hparse : parsePhrase policy (Text.trim input) with
  | ok t =>
    rw [hparse] at htaken
    have hclear : clear t.admission.expression = .ok () := clear_of_parsePhrase hparse
    exact admitExpression_eq_ok_iff.mpr ⟨hlength, hne, htaken, hclear⟩
  | error cause =>
    rw [hparse] at htaken
    exact admitExpression_of_interpretInput_error hlength hne htaken

/-- A share of a number between blanks is translated as it is without them. -/
theorem parsePhrase_share : parsePhrase .standard " 12.5% of 80 ".toList =
    .ok ⟨"N1", "percent of", "(12.5 / 100) * 80".toList⟩ := by
  have hsanitize : sanitize " 12.5% of 80 ".toList = "12.5% of 80".toList := by rfl
  rw [parsePhrase_eq_ok_iff, hsanitize]
  exact ⟨by decide, by decide, by rfl, by rfl, by rfl, translate_share, by rfl⟩

/-- The two entry points agree on an input that reads like a phrase and is within the bound for
expressions: it is admitted exactly as the trimmed input is translated, or turned away with the very
same rejection, since the last checks turn no translation away. Within the bound for phrases it
makes no difference whether the input is trimmed before it is translated. -/
theorem entry_points_agree_on_phrases {policy : Policy} {input : Text}
    (hlength : input.length ≤ policy.expressionMaxLen)
    (hphrase : looksLikeNaturalLanguage (Text.trim input) = true) :
    (∀ t, parsePhrase policy (Text.trim input) = .ok t → admitExpression policy true input =
      .ok ⟨t.expression, .naturalLanguage, some t.ruleId⟩) ∧
    (∀ cause, parsePhrase policy (Text.trim input) = .error cause →
      admitExpression policy true input = .error cause) ∧
    (∀ phrase t, translate phrase = some t → clear t.expression = .ok ()) ∧
    (input.length ≤ policy.naturalLanguageMaxLen →
      (∀ t, parsePhrase policy input = .ok t → admitExpression policy true input =
        .ok ⟨t.expression, .naturalLanguage, some t.ruleId⟩) ∧
      ∀ cause, parsePhrase policy input = .error cause →
        admitExpression policy true input = .error cause) := by
  have hadmission := admitExpression_of_phrase hlength hphrase
  have hok (t : Translation) (ht : parsePhrase policy (Text.trim input) = .ok t) :
      admitExpression policy true input = .ok ⟨t.expression, .naturalLanguage, some t.ruleId⟩ := by
    rw [hadmission, ht]
    rfl
  have herror (cause : Rejection) (hcause : parsePhrase policy (Text.trim input) = .error cause) :
      admitExpression policy true input = .error cause := by
    rw [hadmission, hcause]
    rfl
  refine ⟨hok, herror, fun _ _ ht => (canonical_of_translate ht).clear_eq_ok, fun hbound => ?_⟩
  rw [← parsePhrase_trim hbound]
  exact ⟨hok, herror⟩

/-- A share between blanks is admitted as it is translated, and a phrase with a signature is turned
away at the same offsets. -/
theorem share_and_run_treated_alike :
    looksLikeNaturalLanguage (Text.trim " 12.5% of 80 ".toList) = true ∧
      admitExpression .standard true " 12.5% of 80 ".toList =
        .ok ⟨"(12.5 / 100) * 80".toList, .naturalLanguage, some "N1"⟩ ∧
      admitExpression .standard true "\trun 5 plus 5".toList =
        .error (.blocked ⟨"S4".toList, .commandExecution, .input, 0, 3, "run".toList⟩) := by
  have hshare : looksLikeNaturalLanguage (Text.trim " 12.5% of 80 ".toList) = true := by rfl
  refine ⟨hshare, ?_, ?_⟩
  · have hbound : " 12.5% of 80 ".toList.length ≤ Policy.standard.expressionMaxLen := by decide
    exact ((entry_points_agree_on_phrases hbound hshare).2.2.2 (by decide)).1 _ parsePhrase_share
  · exact (entry_points_agree_on_phrases (by decide) (by rfl)).2.1 _ (by rfl)

end ExprGate
