import ExprGate.Admission
import Mathlib.Control.Monad.Basic

/-!
# Outcomes of the stages

Every stage of admission either lets its input pass or turns it away. This file states, for each
stage, exactly when it lets an input pass. Later arguments about admitted expressions start from
these equivalences and never open a stage again.
-/

namespace ExprGate

/-- A sequence of two steps succeeds exactly when the first step succeeds and the second one
succeeds on its result. -/
theorem bind_eq_ok_iff {α β ε : Type} {x : Except ε α} {f : α → Except ε β} {b : β} :
    (x >>= f) = .ok b ↔ ∃ a, x = .ok a ∧ f a = .ok b := by
  cases x with
  | error e => simp [Bind.bind, Except.bind]
  | ok a => simp [Bind.bind, Except.bind]

/-- A check before a step adds its own condition to that of the step. -/
theorem check_bind_eq_ok_iff {β ε : Type} {x : Except ε Unit} {f : Unit → Except ε β} {b : β} :
    (x >>= f) = .ok b ↔ x = .ok () ∧ f () = .ok b := by
  rw [bind_eq_ok_iff]
  constructor
  · rintro ⟨⟨⟩, hx, hf⟩
    exact ⟨hx, hf⟩
  · rintro ⟨hx, hf⟩
    exact ⟨(), hx, hf⟩

/-- A sequence of two steps fails exactly when the first step fails, or the second one fails on its
result. -/
theorem bind_eq_error_iff {α β ε : Type} {x : Except ε α} {f : α → Except ε β} {e : ε} :
    (x >>= f) = .error e ↔ x = .error e ∨ ∃ a, x = .ok a ∧ f a = .error e := by
  cases x with
  | error e' => simp [Bind.bind, Except.bind]
  | ok a => simp [Bind.bind, Except.bind]

/-- A condition is let pass exactly when it holds. -/
@[simp] theorem ensure_eq_ok_iff {condition : Bool} {cause : Rejection} :
    ensure condition cause = .ok () ↔ condition = true := by
  cases condition <;> simp [ensure]

/-- A condition is turned away exactly when it does not hold, and with the given cause. -/
@[simp] theorem ensure_eq_error_iff {condition : Bool} {cause e : Rejection} :
    ensure condition cause = .error e ↔ condition = false ∧ cause = e := by
  cases condition <;> simp [ensure]

/-- A text passes a checkpoint exactly when no signature that is active there is found in it. -/
theorem screen_eq_ok_iff {text : Text} {checkpoint : Checkpoint} :
    screen text checkpoint = .ok () ↔ findBlocked text checkpoint = none := by
  unfold screen
  cases findBlocked text checkpoint <;> simp

/-- A text is turned away at a checkpoint exactly with the signature that is found in it. -/
theorem screen_eq_error_iff {text : Text} {checkpoint : Checkpoint} {cause : Rejection} :
    screen text checkpoint = .error cause ↔
      ∃ evidence, findBlocked text checkpoint = some evidence ∧ .blocked evidence = cause := by
  unfold screen
  cases findBlocked text checkpoint <;> simp

/-- The report on the first of the signatures that occurs in the text. -/
def firstFound (text : Text) (checkpoint : Checkpoint) (signatures : List Signature) :
    Option SignatureMatch :=
  signatures.findSome? fun s => (s.pattern.find text).map (s.report checkpoint)

/-- What is found first is reported as found by one of the signatures. -/
theorem exists_report_of_firstFound {text : Text} {checkpoint : Checkpoint}
    {signatures : List Signature} {evidence : SignatureMatch}
    (h : firstFound text checkpoint signatures = some evidence) :
    ∃ s ∈ signatures, ∃ m, s.report checkpoint m = evidence := by
  obtain ⟨s, hs, hfound⟩ := List.exists_of_findSome?_eq_some h
  obtain ⟨m, _, hreport⟩ := Option.map_eq_some_iff.mp hfound
  exact ⟨s, hs, m, hreport⟩

/-- What is found at a checkpoint is reported as found there. -/
theorem checkpoint_of_findBlocked {text : Text} {checkpoint : Checkpoint}
    {evidence : SignatureMatch} (h : findBlocked text checkpoint = some evidence) :
    evidence.checkpoint = checkpoint := by
  obtain ⟨s, _, m, rfl⟩ := exists_report_of_firstFound h
  rfl

/-- Validation accepts exactly the clean texts. -/
theorem validateExpression_eq_ok_iff {text : Text} :
    validateExpression text = .ok () ↔ isClean text = true := by
  simp [validateExpression, isClean, check_bind_eq_ok_iff]

/-- The last checks let pass exactly the clean expressions that have a numeric operand and none of
the signatures looked for at dispatch. -/
theorem clear_eq_ok_iff {expression : Text} :
    clear expression = .ok () ↔ findBlocked expression .dispatch = none ∧
      hasNumericOperand expression = true ∧ isClean expression = true := by
  simp [clear, check_bind_eq_ok_iff, screen_eq_ok_iff, validateExpression_eq_ok_iff]

/-- A phrase has the translation that the rules give it. -/
theorem translateOrReject_eq_ok_iff {phrase : Text} {t : Translation} :
    translateOrReject phrase = .ok t ↔ translate phrase = some t := by
  unfold translateOrReject
  cases translate phrase <;> simp

/-- A phrase without a translation is turned away for that. -/
theorem translateOrReject_eq_error_iff {phrase : Text} {cause : Rejection} :
    translateOrReject phrase = .error cause ↔ translate phrase = none ∧ .unparsable = cause := by
  unfold translateOrReject
  cases translate phrase <;> simp

/-- A raw input passes the length check exactly when it is within the bound. -/
@[simp] theorem checkLength_eq_ok_iff {raw : Text} {bound : Nat} :
    checkLength raw bound = .ok () ↔ raw.length ≤ bound := by
  rw [checkLength_eq, ensure_eq_ok_iff, decide_eq_true_iff]

/-- A raw input is turned away by the length check exactly when it has too many characters, and with
the bound. -/
@[simp] theorem checkLength_eq_error_iff {raw : Text} {bound : Nat} {cause : Rejection} :
    checkLength raw bound = .error cause ↔ bound < raw.length ∧ .tooLong bound = cause := by
  rw [checkLength_eq, ensure_eq_error_iff, decide_eq_false_iff_not, Nat.not_le]

/-- Bounding and sanitizing succeeds exactly when the raw input is within the bound and something is
left of it, and gives what is left. -/
theorem sanitizeBounded_eq_ok_iff {raw text : Text} {bound : Nat} :
    sanitizeBounded raw bound = .ok text ↔
      raw.length ≤ bound ∧ sanitize raw ≠ [] ∧ text = sanitize raw := by
  simp only [sanitizeBounded, check_bind_eq_ok_iff, checkLength_eq_ok_iff, ensure_eq_ok_iff,
    Bool.not_eq_true', List.isEmpty_eq_false_iff]
  constructor
  · rintro ⟨hlength, hne, heq⟩
    cases heq
    exact ⟨hlength, hne, rfl⟩
  · rintro ⟨hlength, hne, rfl⟩
    exact ⟨hlength, hne, rfl⟩

/-- Bounding and sanitizing never blames a signature. -/
theorem sanitizeBounded_ne_blocked {raw : Text} {bound : Nat} {evidence : SignatureMatch} :
    sanitizeBounded raw bound ≠ .error (.blocked evidence) := by
  simp [sanitizeBounded, bind_eq_error_iff, pure, Except.pure]

/-- A phrase is translated exactly when the raw input is within its bound, and what is left of it
passes every check, has a translation, and no signature is found in that. -/
theorem parsePhrase_eq_ok_iff {policy : Policy} {input : Text} {t : Translation} :
    parsePhrase policy input = .ok t ↔ input.length ≤ policy.naturalLanguageMaxLen ∧
      sanitize input ≠ [] ∧ findBlocked (sanitize input) .input = none ∧
      hasPhraseCharacters (sanitize input) = true ∧ hasNumericOperand (sanitize input) = true ∧
      translate (sanitize input) = some t ∧ findBlocked t.expression .converted = none := by
  rw [parsePhrase, bind_eq_ok_iff]
  simp only [check_bind_eq_ok_iff, sanitizeBounded_eq_ok_iff, screen_eq_ok_iff, ensure_eq_ok_iff]
  constructor
  · rintro ⟨_, ⟨hlength, hne, rfl⟩, hinput, hcharacters, hoperand, hrest⟩
    obtain ⟨t, ht, hlast⟩ := bind_eq_ok_iff.mp hrest
    obtain ⟨hconverted, heq⟩ := check_bind_eq_ok_iff.mp hlast
    cases heq
    exact ⟨hlength, hne, hinput, hcharacters, hoperand, translateOrReject_eq_ok_iff.mp ht,
      screen_eq_ok_iff.mp hconverted⟩
  · rintro ⟨hlength, hne, hinput, hcharacters, hoperand, ht, hconverted⟩
    refine ⟨_, ⟨hlength, hne, rfl⟩, hinput, hcharacters, hoperand, bind_eq_ok_iff.mpr
      ⟨t, translateOrReject_eq_ok_iff.mpr ht, check_bind_eq_ok_iff.mpr
        ⟨screen_eq_ok_iff.mpr hconverted, rfl⟩⟩⟩

/-- A phrase is blocked by a signature found in what is left of it, or in its translation. -/
theorem findBlocked_of_parsePhrase {policy : Policy} {input : Text} {evidence : SignatureMatch}
    (h : parsePhrase policy input = .error (.blocked evidence)) :
    findBlocked (sanitize input) .input = some evidence ∨
      ∃ t, translate (sanitize input) = some t ∧
        findBlocked t.expression .converted = some evidence := by
  rw [parsePhrase, bind_eq_error_iff] at h
  rcases h with hsanitize | ⟨text, htext, h⟩
  · exact absurd hsanitize sanitizeBounded_ne_blocked
  obtain ⟨_, _, rfl⟩ := sanitizeBounded_eq_ok_iff.mp htext
  simp only [bind_eq_error_iff, screen_eq_error_iff, ensure_eq_error_iff,
    translateOrReject_eq_error_iff, Rejection.blocked.injEq, reduceCtorEq, and_false, false_or,
    exists_eq_right] at h
  rcases h with hinput | ⟨_, _, _, _, _, _, t, ht, hconverted | ⟨_, _, hlast⟩⟩
  · exact Or.inl hinput
  · exact Or.inr ⟨t, translateOrReject_eq_ok_iff.mp ht, hconverted⟩
  · cases hlast

/-- A phrase with too many characters is turned away for that. -/
theorem parsePhrase_of_too_long {policy : Policy} {input : Text}
    (h : policy.naturalLanguageMaxLen < input.length) :
    parsePhrase policy input = .error (.tooLong policy.naturalLanguageMaxLen) := by
  have hlong := checkLength_eq_error_iff.mpr ⟨h, rfl⟩
  simp only [parsePhrase, sanitizeBounded, hlong, Bind.bind, Except.bind]

section WithinBound

variable {policy : Policy} {input : Text} (hlength : input.length ≤ policy.naturalLanguageMaxLen)
include hlength

/-- What becomes of a phrase within its bound depends on what sanitizing leaves of it only. -/
theorem parsePhrase_congr {other : Text} (hother : other.length ≤ policy.naturalLanguageMaxLen)
    (h : sanitize input = sanitize other) :
    parsePhrase policy input = parsePhrase policy other := by
  have hwithin := checkLength_eq_ok_iff.mpr hlength
  have hwithin' := checkLength_eq_ok_iff.mpr hother
  simp only [parsePhrase, sanitizeBounded, hwithin, hwithin', h]

/-- A phrase within its bound is turned away with the signature found in what is left of it. -/
theorem parsePhrase_of_findBlocked {evidence : SignatureMatch} (hne : sanitize input ≠ [])
    (h : findBlocked (sanitize input) .input = some evidence) :
    parsePhrase policy input = .error (.blocked evidence) := by
  have hsanitized := sanitizeBounded_eq_ok_iff.mpr ⟨hlength, hne, rfl⟩
  have hscreen := screen_eq_error_iff.mpr ⟨evidence, h, rfl⟩
  simp only [parsePhrase, hsanitized, hscreen, Bind.bind, Except.bind]

end WithinBound

/-- Admission succeeds exactly when the raw input is within its bound and not blank, and what it is
taken as passes the last checks. -/
theorem admitExpression_eq_ok_iff {policy : Policy} {allowPhrases : Bool} {input : Text}
    {admission : Admission} :
    admitExpression policy allowPhrases input = .ok admission ↔
      input.length ≤ policy.expressionMaxLen ∧ Text.trim input ≠ [] ∧
      interpretInput policy allowPhrases (Text.trim input) = .ok admission ∧
      clear admission.expression = .ok () := by
  rw [admitExpression, check_bind_eq_ok_iff, check_bind_eq_ok_iff, bind_eq_ok_iff]
  simp only [check_bind_eq_ok_iff, checkLength_eq_ok_iff, ensure_eq_ok_iff, Bool.not_eq_true',
    List.isEmpty_eq_false_iff]
  constructor
  · rintro ⟨hlength, hblank, taken, htaken, hclear, heq⟩
    cases heq
    exact ⟨hlength, hblank, htaken, hclear⟩
  · rintro ⟨hlength, hblank, htaken, hclear⟩
    exact ⟨hlength, hblank, admission, htaken, hclear, rfl⟩

/-- An expression with too many characters is turned away for that. -/
theorem admitExpression_of_too_long {policy : Policy} {allowPhrases : Bool} {input : Text}
    (h : policy.expressionMaxLen < input.length) :
    admitExpression policy allowPhrases input = .error (.tooLong policy.expressionMaxLen) := by
  have hlong := checkLength_eq_error_iff.mpr ⟨h, rfl⟩
  simp only [admitExpression, hlong, Bind.bind, Except.bind]

/-- Within the bound, an input that cannot be taken as anything is turned away for the same
cause. -/
theorem admitExpression_of_interpretInput_error {policy : Policy} {allowPhrases : Bool}
    {input : Text} {cause : Rejection} (hlength : input.length ≤ policy.expressionMaxLen)
    (hne : Text.trim input ≠ [])
    (h : interpretInput policy allowPhrases (Text.trim input) = .error cause) :
    admitExpression policy allowPhrases input = .error cause := by
  have hwithin := checkLength_eq_ok_iff.mpr hlength
  simp [admitExpression, hwithin, ensure, hne, h, Bind.bind, Except.bind]

/-- Without phrases the trimmed input is taken as it is. -/
@[simp] theorem interpretInput_of_strict {policy : Policy} {text : Text} :
    interpretInput policy false text = .ok ⟨text, .strictMath, none⟩ := rfl

/-- An input that does not read like a phrase is taken as it is, also where phrases are allowed. -/
theorem interpretInput_of_notation {policy : Policy} {allowPhrases : Bool} {text : Text}
    (h : looksLikeNaturalLanguage text = false) :
    interpretInput policy allowPhrases text = .ok ⟨text, .strictMath, none⟩ := by
  simp [interpretInput, h]

/-- The admission of an input that was translated. -/
def Translation.admission (t : Translation) : Admission :=
  ⟨t.expression, .naturalLanguage, some t.ruleId⟩

/-- Where phrases are allowed, an input that reads like one is taken as its translation. -/
theorem interpretInput_of_phrase {policy : Policy} {text : Text}
    (h : looksLikeNaturalLanguage text = true) :
    interpretInput policy true text = (parsePhrase policy text).map Translation.admission := by
  simp only [interpretInput, h, Bool.and_self, if_true]
  cases parsePhrase policy text <;> rfl

/-- Where phrases are allowed, an input that reads like one is never taken as notation. -/
theorem route_of_interpretInput_phrase {policy : Policy} {text : Text} {admission : Admission}
    (h : looksLikeNaturalLanguage text = true)
    (hok : interpretInput policy true text = .ok admission) :
    admission.route = .naturalLanguage := by
  simp only [interpretInput, h, Bool.and_self, if_true, bind_eq_ok_iff] at hok
  obtain ⟨translation, _, htaken⟩ := hok
  cases htaken
  rfl

/-- An input is taken as its translation exactly where phrases are allowed and it reads like one,
and as it is everywhere else. -/
theorem interpretInput_eq_ok_iff {policy : Policy} {allowPhrases : Bool} {text : Text}
    {admission : Admission} : interpretInput policy allowPhrases text = .ok admission ↔
      ((allowPhrases && looksLikeNaturalLanguage text) = false ∧
        admission = ⟨text, .strictMath, none⟩) ∨
      (allowPhrases && looksLikeNaturalLanguage text) = true ∧
        ∃ t, parsePhrase policy text = .ok t ∧ admission = t.admission := by
  cases hphrase : allowPhrases && looksLikeNaturalLanguage text with
  | false =>
    simp only [interpretInput, hphrase, Bool.false_eq_true, if_false, true_and, false_and, or_false]
    exact ⟨fun h => (Except.ok.inj h).symm, fun h => congrArg Except.ok h.symm⟩
  | true =>
    simp only [interpretInput, hphrase, if_true, bind_eq_ok_iff, Bool.true_eq_false, false_and,
      true_and, false_or]
    constructor
    · rintro ⟨t, ht, htaken⟩
      exact ⟨t, ht, (Except.ok.inj htaken).symm⟩
    · rintro ⟨t, ht, rfl⟩
      exact ⟨t, ht, rfl⟩

/-- Every admitted expression is clean. -/
theorem isClean_of_admitted {policy : Policy} {allowPhrases : Bool} {input : Text}
    {admission : Admission} (h : admitExpression policy allowPhrases input = .ok admission) :
    isClean admission.expression = true := by
  obtain ⟨_, _, _, hclear⟩ := admitExpression_eq_ok_iff.mp h
  exact (clear_eq_ok_iff.mp hclear).2.2

end ExprGate
