import ExprGate.CommandEvaluator
import ExprGate.Proofs.CaseBlindness
import ExprGate.Proofs.EntryPoints

/-!
# Admitting what was admitted

Whatever its route, an admitted expression is canonical: trimmed, and accepted by every check there
is. So it can be stored, shown or sent on and then be admitted again as it stands. Some evaluator
programs are sent their expressions in lower case, after the last check. The only capitals in a
clean text are those of ASCII, whose case no check sees, so what the program reads is canonical as
well.
-/

namespace ExprGate

/-- An admitted expression has no blank at either end. -/
theorem trim_of_admitted {policy : Policy} {allowPhrases : Bool} {input : Text}
    {admission : Admission} (h : admitExpression policy allowPhrases input = .ok admission) :
    Text.trim admission.expression = admission.expression := by
  obtain ⟨_, _, htaken, _⟩ := admitExpression_eq_ok_iff.mp h
  rcases interpretInput_eq_ok_iff.mp htaken with ⟨_, rfl⟩ | ⟨_, t, ht, rfl⟩
  · exact Text.trim_trim input
  · obtain ⟨_, _, _, _, _, htranslate, _⟩ := parsePhrase_eq_ok_iff.mp ht
    exact (canonical_of_translate htranslate).trimmed

/-- Every admitted expression is canonical. -/
theorem canonical_of_admitted {policy : Policy} {allowPhrases : Bool} {input : Text}
    {admission : Admission} (h : admitExpression policy allowPhrases input = .ok admission) :
    Canonical admission.expression := by
  obtain ⟨_, _, _, hclear⟩ := admitExpression_eq_ok_iff.mp h
  obtain ⟨_, hoperand, hclean⟩ := clear_eq_ok_iff.mp hclear
  exact ⟨validateExpression_eq_ok_iff.mpr hclean, hoperand, trim_of_admitted h,
    find_eq_none_of_isClean hclean⟩

namespace Canonical

variable {e : Text} (h : Canonical e)
include h

/-- Canonical notation is clean. -/
theorem isClean : ExprGate.isClean e = true := validateExpression_eq_ok_iff.mp h.valid

/-- Canonical notation is admitted as it stands exactly by the policies that have room for it. -/
theorem admitExpression_eq_iff {policy : Policy} :
    admitExpression policy false e = .ok ⟨e, .strictMath, none⟩ ↔
      e.length ≤ policy.expressionMaxLen := by
  have hne : e ≠ [] := by
    rintro rfl
    exact absurd h.valid (by decide)
  rw [ExprGate.admitExpression_eq_ok_iff, h.trimmed]
  exact ⟨fun haccepted => haccepted.1,
    fun hlength => ⟨hlength, hne, interpretInput_of_strict, h.clear_eq_ok⟩⟩

/-- The lower case of canonical notation is the text in small letters. -/
theorem lower_eq_uncased : Text.lower e = e.uncased := lower_of_isClean h.isClean

/-- The lower case of canonical notation is canonical. -/
theorem lower : Canonical (Text.lower e) := by
  have hvalid : validateExpression (Text.lower e) = .ok () := by
    rw [h.lower_eq_uncased, validateExpression_uncased]
    exact h.valid
  refine ⟨hvalid, ?_, ?_, find_eq_none_of_isClean (validateExpression_eq_ok_iff.mp hvalid)⟩
  · rw [h.lower_eq_uncased, hasNumericOperand_uncased]
    exact h.operand
  · rw [h.lower_eq_uncased, Text.trim_uncased, h.trimmed]

/-- Lower-casing a second time changes nothing. -/
theorem lower_lower : Text.lower (Text.lower e) = Text.lower e := by
  rw [h.lower.lower_eq_uncased, h.lower_eq_uncased, Text.uncased_uncased]

end Canonical

/-- Admission is stable: an admitted expression is admitted again, as notation and unchanged, by
exactly the policies that have room for it. If it was taken as notation in the first place, it is
the input without the blanks around it. -/
theorem readmission_is_identity {policy : Policy} {allowPhrases : Bool} {input : Text}
    {admission : Admission} (h : admitExpression policy allowPhrases input = .ok admission) :
    (admitExpression policy false admission.expression =
        .ok ⟨admission.expression, .strictMath, none⟩ ↔
      admission.expression.length ≤ policy.expressionMaxLen) ∧
    (admission.route = .strictMath → ∃ before after,
      input = before ++ admission.expression ++ after ∧
      (∀ c ∈ before, isBlank c = true) ∧ (∀ c ∈ after, isBlank c = true) ∧
      admission.expression.Solid) := by
  refine ⟨(canonical_of_admitted h).admitExpression_eq_iff, fun hroute => ?_⟩
  obtain ⟨_, _, htaken, _⟩ := admitExpression_eq_ok_iff.mp h
  rcases interpretInput_eq_ok_iff.mp htaken with ⟨_, rfl⟩ | ⟨_, t, _, rfl⟩
  · obtain ⟨before, after, hinput, hbefore, hafter⟩ := Text.exists_trim input
    exact ⟨before, after, hinput, hbefore, hafter, Text.solid_trim input⟩
  · exact Route.noConfusion hroute

/-- The notation of a share is admitted again, and so is a call that stood between blanks. -/
theorem share_and_call_readmitted :
    admitExpression .standard true " 12.5% of 80 ".toList =
        .ok ⟨"(12.5 / 100) * 80".toList, .naturalLanguage, some "N1"⟩ ∧
      admitExpression .standard false "(12.5 / 100) * 80".toList =
        .ok ⟨"(12.5 / 100) * 80".toList, .strictMath, none⟩ ∧
      admitExpression .standard false "\tSin(1)\u2003".toList =
        .ok ⟨"Sin(1)".toList, .strictMath, none⟩ ∧
      ∃ before after, "\tSin(1)\u2003".toList = before ++ "Sin(1)".toList ++ after ∧
        (∀ c ∈ before, isBlank c = true) ∧ (∀ c ∈ after, isBlank c = true) ∧
        Text.Solid "Sin(1)".toList := by
  have hphrase : looksLikeNaturalLanguage (Text.trim " 12.5% of 80 ".toList) = true := by rfl
  have hshare : admitExpression .standard true " 12.5% of 80 ".toList =
      .ok ⟨"(12.5 / 100) * 80".toList, .naturalLanguage, some "N1"⟩ := by
    rw [admitExpression_of_phrase (by decide) hphrase, parsePhrase_trim (by decide),
      parsePhrase_share]
    rfl
  have hcall : admitExpression .standard false "\tSin(1)\u2003".toList =
      .ok ⟨"Sin(1)".toList, .strictMath, none⟩ := by rfl
  exact ⟨hshare, (readmission_is_identity hshare).1.mpr (by decide), hcall,
    (readmission_is_identity hcall).2 rfl⟩

/-- The text is what canonical notation is sent as, with nothing of it lost. -/
structure LowerForm (e sent : Text) : Prop where
  /-- It has as many characters. -/
  length_eq : sent.length = e.length
  /-- It is canonical: valid, trimmed, with a numeric operand and without any signature. -/
  canonical : Canonical sent
  /-- It is erased to the same text. -/
  erased_eq : eraseNames sent = eraseNames e
  /-- Lower-casing it changes nothing. -/
  lower_eq : Text.lower sent = sent

/-- The lower case of canonical notation is as good as the notation. -/
theorem Canonical.lowerForm {e : Text} (h : Canonical e) : LowerForm e (Text.lower e) where
  length_eq := by rw [h.lower_eq_uncased, Text.length_uncased]
  canonical := h.lower
  erased_eq := by rw [eraseNames, eraseNames, h.lower_lower]
  lower_eq := h.lower_lower

/-- What an evaluator program reads is still admissible. Where expressions are sent in lower case,
the program is sent its definitions and then, on a line of its own, the lower case of the admitted
expression. That has as many characters, is canonical, is erased to the same text and stays as it is
when it is lower-cased again. -/
theorem sent_expression_is_canonical {policy : Policy} {allowPhrases : Bool} {input : Text}
    {admission : Admission} (h : admitExpression policy allowPhrases input = .ok admission)
    {evaluator : CommandEvaluator} (hlower : evaluator.lowercaseInput = true) :
    (evaluator.invocation admission.expression).input =
        evaluator.sentPrelude ++ Text.lower admission.expression ++ ['\n'] ∧
      LowerForm admission.expression (Text.lower admission.expression) := by
  refine ⟨?_, (canonical_of_admitted h).lowerForm⟩
  rw [CommandEvaluator.invocation, CommandEvaluator.sentExpression, if_pos hlower]

/-- A calculator that reads capitals as digits is sent a call in capitals, with a wide gap in it, in
small letters, behind the definition of the constant. -/
theorem call_in_capitals_sent_in_small_letters :
    admitExpression .standard false " SQRT(Pi)\u2003* 2E".toList =
        .ok ⟨"SQRT(Pi)\u2003* 2E".toList, .strictMath, none⟩ ∧
      (CommandEvaluator.invocation
          ⟨"bc".toList, ["-l".toList], .ofSeconds 5, some "pi=4*a(1)".toList, true⟩
          "SQRT(Pi)\u2003* 2E".toList).input = "pi=4*a(1)\nsqrt(pi)\u2003* 2e\n".toList ∧
      LowerForm "SQRT(Pi)\u2003* 2E".toList "sqrt(pi)\u2003* 2e".toList := by
  have haccepted : admitExpression .standard false " SQRT(Pi)\u2003* 2E".toList =
      .ok ⟨"SQRT(Pi)\u2003* 2E".toList, .strictMath, none⟩ := by decide +kernel
  have hlower : Text.lower "SQRT(Pi)\u2003* 2E".toList = "sqrt(pi)\u2003* 2e".toList := by rfl
  have hlowers : CommandEvaluator.lowercaseInput
      ⟨"bc".toList, ["-l".toList], .ofSeconds 5, some "pi=4*a(1)".toList, true⟩ = true := rfl
  obtain ⟨hinput, hform⟩ := sent_expression_is_canonical haccepted hlowers
  rw [hlower] at hinput hform
  exact ⟨haccepted, hinput.trans (by rfl), hform⟩

end ExprGate
