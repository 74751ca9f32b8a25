import ExprGate.Proofs.Dispatch
import ExprGate.Proofs.EntryPoints

/-!
# Reports on failed requests

A request fails for one of two reasons: admission turned the input away, or the evaluator gave no
value. The report on a failure keeps its parts in step with that reason: the kind, the message, the
evidence of a signature, and whether the evaluator was called at all. To speak of calls, an
evaluator is run together with a record of the expressions that it is given.
-/

namespace ExprGate

namespace Rejection

/-- A rejection carries evidence exactly if a blocked pattern is its kind. -/
theorem evidence?_isSome_iff {cause : Rejection} :
    cause.evidence?.isSome = true ↔ cause.kind = .blockedPattern := by
  cases cause <;> simp [evidence?, kind]

/-- A rejection with evidence was caused by it. -/
theorem eq_blocked_of_evidence? {cause : Rejection} {evidence : SignatureMatch}
    (h : cause.evidence? = some evidence) : cause = .blocked evidence := by
  cases cause with
  | blocked found => exact congrArg blocked (Option.some.inj h)
  | _ => cases h

/-- Admission never blames the evaluator. -/
theorem kind_ne_evaluationFailure (cause : Rejection) : cause.kind ≠ .evaluationFailure := by
  cases cause <;> simp [kind]

/-- The message of a rejection is never blank. -/
theorem message_not_blank (cause : Rejection) : Text.isBlank cause.message = false := by
  have hinput : ExprGate.isBlank 'I' = false := by decide
  cases cause with
  | tooLong bound =>
    exact Text.isBlank_append_left (Text.isBlank_append_left (Text.isBlank_toList hinput) _) _
  | empty entry =>
    cases entry with
    | phrase => exact Text.isBlank_toList hinput
    | expression => exact Text.isBlank_toList (by decide)
  | blocked evidence =>
    change Text.isBlank (blockedMessage evidence.checkpoint).toList = false
    cases evidence.checkpoint <;> exact Text.isBlank_toList hinput
  | invalidCharacters entry => cases entry <;> exact Text.isBlank_toList hinput
  | missingNumber entry => cases entry <;> exact Text.isBlank_toList hinput
  | unparsable =>
    change Text.isBlank (String.toList (_ ++ _)) = false
    rw [String.toList_append]
    exact Text.isBlank_append_left (Text.isBlank_toList (by decide)) _
  | unrecognizedTokens => exact Text.isBlank_toList hinput

end Rejection

/-! ## Where the signatures are found -/

/-- At dispatch only the signatures of the reduced list are found. -/
theorem mem_dispatchIds_of_findBlocked {text : Text} {evidence : SignatureMatch}
    (h : findBlocked text .dispatch = some evidence) :
    ∃ id ∈ Signature.dispatchIds, evidence.signatureId = id.toList := by
  obtain ⟨s, hs, m, rfl⟩ := exists_report_of_firstFound h
  have hactive := (List.mem_filter.mp hs).2
  exact ⟨s.id, List.contains_iff_mem.mp hactive, rfl⟩

/-- A phrase is only ever blocked by a signature in the sanitized input, never by one in its
translation. -/
theorem findBlocked_input_of_parsePhrase {policy : Policy} {input : Text}
    {evidence : SignatureMatch} (h : parsePhrase policy input = .error (.blocked evidence)) :
    findBlocked (sanitize input) .input = some evidence := by
  rcases findBlocked_of_parsePhrase h with hinput | ⟨t, ht, hconverted⟩
  · exact hinput
  · rw [(canonical_of_translate ht).findBlocked_eq_none .converted] at hconverted
    cases hconverted

/-- The last checks block an expression for a signature that is looked for at dispatch. -/
theorem clear_eq_blocked_iff {expression : Text} {evidence : SignatureMatch} :
    clear expression = .error (.blocked evidence) ↔
      findBlocked expression .dispatch = some evidence := by
  simp [clear, validateExpression, bind_eq_error_iff, screen_eq_error_iff]

section Admission

variable {policy : Policy} {allowPhrases : Bool} {input : Text} {evidence : SignatureMatch}
  (h : admitExpression policy allowPhrases input = .error (.blocked evidence))
include h

/-- Where an input is taken as a phrase, it is blocked by a signature in the sanitized input. -/
theorem findBlocked_of_admitExpression_phrase
    (hphrase : (allowPhrases && looksLikeNaturalLanguage (Text.trim input)) = true) :
    findBlocked (sanitize input) .input = some evidence := by
  obtain ⟨rfl, hlooks⟩ := Bool.and_eq_true_iff.mp hphrase
  by_cases hlength : input.length ≤ policy.expressionMaxLen
  · rw [admitExpression_of_phrase hlength hlooks] at h
    cases hparse : parsePhrase policy (Text.trim input) with
    | ok t =>
      rw [hparse] at h
      cases h
    | error cause =>
      rw [hparse] at h
      cases h
      rw [← sanitize_trim]
      exact findBlocked_input_of_parsePhrase hparse
  · rw [admitExpression_of_too_long (Nat.lt_of_not_le hlength)] at h
    cases h

/-- Where an input is taken as it is, it is blocked by a dispatch signature in the trimmed input. -/
theorem findBlocked_of_admitExpression_strict
    (hstrict : (allowPhrases && looksLikeNaturalLanguage (Text.trim input)) = false) :
    findBlocked (Text.trim input) .dispatch = some evidence := by
  have htaken : interpretInput policy allowPhrases (Text.trim input) =
      .ok ⟨Text.trim input, .strictMath, none⟩ :=
    interpretInput_eq_ok_iff.mpr (Or.inl ⟨hstrict, rfl⟩)
  rw [admitExpression, htaken] at h
  simp only [bind_eq_error_iff, checkLength_eq_error_iff, ensure_eq_error_iff, reduceCtorEq,
    and_false, false_or, Except.ok.injEq, exists_eq_left'] at h
  obtain ⟨_, _, _, _, hclear | ⟨_, _, hreturned⟩⟩ := h
  · exact clear_eq_blocked_iff.mp hclear
  · cases hreturned

end Admission

/-! ## The calls of the evaluator -/

section Recorded

variable {σ : Type}

/-- The evaluator together with a record of the expressions that it was given. -/
def Evaluator.recorded (evaluator : Evaluator σ) : Evaluator (σ × List Text) :=
  fun expression state =>
    let (value, s) := evaluator expression state.1
    (value, (s, state.2 ++ [expression]))

namespace Calculator

/-- The calculator in front of the recorded evaluator. -/
def recorded (c : Calculator σ) : Calculator (σ × List Text) :=
  { evaluator := c.evaluator.recorded, policy := c.policy }

/-- The expressions that the evaluator is given while a request is answered. -/
def calls (c : Calculator σ) (request : Request) (s : σ) : List Text :=
  (c.recorded.answer request (s, [])).2.2

/-- Recording changes neither the answer nor what the evaluator remembers, and it adds what the
request dispatches to the record. -/
theorem answer_recorded (c : Calculator σ) (request : Request) (s : σ) (record : List Text) :
    c.recorded.answer request (s, record) =
      ((c.answer request s).1, ((c.answer request s).2, record ++ c.dispatched request)) := by
  have hadmission (q : CalculateRequest) : c.recorded.admission q = c.admission q := rfl
  have hevaluator : c.recorded.evaluator = c.evaluator.recorded := rfl
  cases request with
  | health | policy | parse _ | admission _ =>
    simp only [dispatched, List.append_nil]
    rfl
  | calculation q =>
    cases hq : c.admission q with
    | ok admission =>
      simp [answer, calculate, dispatched, hadmission, hevaluator, hq, Evaluator.recorded]
    | error e => simp [answer, calculate, dispatched, hadmission, hq]

/-- The evaluator is given exactly what the request dispatches. -/
theorem calls_eq_dispatched (c : Calculator σ) (request : Request) (s : σ) :
    c.calls request s = c.dispatched request := by
  rw [calls, answer_recorded, List.nil_append]

end Calculator

end Recorded

/-! ## Reports -/

namespace Request

/-- Whether a request has its input read as a phrase. -/
def readsAsPhrase : Request → Bool
  | parse _ => true
  | admission q | calculation q =>
    q.allowNaturalLanguage && looksLikeNaturalLanguage (Text.trim q.expression)
  | health | policy => false

/-- Whether admission turns the input of a request away for the given cause. -/
def IsRejectedFor (p : Policy) (cause : Rejection) : Request → Prop
  | parse q => parsePhrase p q.input = .error cause
  | admission q | calculation q =>
    admitExpression p q.allowNaturalLanguage q.expression = .error cause
  | health | policy => False

/-- A signature is found in the sanitized input of a phrase, and right before dispatch in what is
taken as notation. -/
theorem checkpoint_of_isRejectedFor {p : Policy} {evidence : SignatureMatch} {request : Request}
    (h : request.IsRejectedFor p (.blocked evidence)) :
    if request.readsAsPhrase then evidence.checkpoint = .input
    else evidence.checkpoint = .dispatch ∧
      ∃ id ∈ Signature.dispatchIds, evidence.signatureId = id.toList := by
  have hadmission (q : CalculateRequest)
      (hq : admitExpression p q.allowNaturalLanguage q.expression = .error (.blocked evidence)) :
      if q.allowNaturalLanguage && looksLikeNaturalLanguage (Text.trim q.expression) then
        evidence.checkpoint = .input
      else evidence.checkpoint = .dispatch ∧
        ∃ id ∈ Signature.dispatchIds, evidence.signatureId = id.toList := by
    split
    · next hphrase =>
      exact checkpoint_of_findBlocked (findBlocked_of_admitExpression_phrase hq hphrase)
    · next hstrict =>
      have hfound := findBlocked_of_admitExpression_strict hq (Bool.eq_false_iff.mpr hstrict)
      exact ⟨checkpoint_of_findBlocked hfound, mem_dispatchIds_of_findBlocked hfound⟩
  cases request with
  | parse q => exact checkpoint_of_findBlocked (findBlocked_input_of_parsePhrase h)
  | admission q => exact hadmission q h
  | calculation q => exact hadmission q h
  | health | policy => exact h.elim

end Request

section Failure

variable {σ : Type} {c : Calculator σ} {request : Request} {s : σ} {e : RequestError}

/-- Changing results keeps failures. -/
theorem map_eq_error_iff {α β ε : Type} {f : α → β} {x : Except ε α} {e : ε} :
    x.map f = .error e ↔ x = .error e := by
  cases x <;> simp [Except.map]

/-- The translation of a phrase fails with the rejection of the phrase pipeline. -/
theorem Calculator.parse_eq_error_iff {request : ParseRequest} :
    c.parse request = .error e ↔
      ∃ cause, e = .rejected cause ∧ parsePhrase c.policy request.input = .error cause := by
  unfold parse
  cases parsePhrase c.policy request.input <;> simp [eq_comm]

/-- A request fails because admission turned its input away, and then nothing is dispatched, or
because the evaluator gave no value for the expression that was. -/
theorem Calculator.failure_cases (h : (c.answer request s).1 = .error e) :
    (∃ cause, e = .rejected cause ∧ c.dispatched request = [] ∧
      request.IsRejectedFor c.policy cause) ∨
    ∃ expression failure, e = .ofEvaluator failure ∧ c.dispatched request = [expression] ∧
      (c.evaluator expression s).1 = .error failure := by
  cases request with
  | health | policy => cases h
  | parse q =>
    obtain ⟨cause, rfl, hcause⟩ := parse_eq_error_iff.mp (map_eq_error_iff.mp h)
    exact Or.inl ⟨cause, rfl, rfl, hcause⟩
  | admission q =>
    obtain ⟨cause, rfl, hcause⟩ := admission_eq_error_iff.mp (map_eq_error_iff.mp h)
    exact Or.inl ⟨cause, rfl, rfl, hcause⟩
  | calculation q =>
    cases hq : c.admission q with
    | error e' =>
      obtain ⟨cause, rfl, hcause⟩ := admission_eq_error_iff.mp hq
      rw [answer_of_admission_error hq] at h
      cases h
      exact Or.inl ⟨cause, rfl, by simp only [dispatched, hq], hcause⟩
    | ok admission =>
      simp only [answer, calculate, hq] at h
      cases hvalue : (c.evaluator admission.expression s).1 with
      | ok value =>
        rw [hvalue] at h
        cases h
      | error failure =>
        rw [hvalue] at h
        cases h
        exact Or.inr ⟨admission.expression, failure, rfl, by simp only [dispatched, hq], hvalue⟩

end Failure

/-- An evaluator that gave no value is reported with a message that is not blank, and in its own
words unless these are. -/
theorem RequestError.exists_message_of_ofEvaluator (failure : EvaluatorError) :
    ∃ message, ofEvaluator failure = .evaluation message ∧ Text.isBlank message = false ∧
      (Text.isBlank failure.message = false → message = failure.message) := by
  unfold ofEvaluator
  split
  · next hblank =>
    have hwords (h : Text.isBlank failure.message = false) : False := by
      rw [hblank] at h
      cases h
    exact ⟨_, rfl, Text.isBlank_toList (by decide), fun h => (hwords h).elim⟩
  · next hwords => exact ⟨_, rfl, Bool.eq_false_iff.mpr hwords, fun _ => rfl⟩

/-- What the report on a failed request has to be like. -/
structure CoherentReport {σ : Type} (c : Calculator σ) (request : Request) (s : σ)
    (e : RequestError) : Prop where
  /-- The error is a rejection exactly if its kind is not that of a failed evaluation. -/
  isRejection_iff_kind : e.isRejection = true ↔ e.kind ≠ .evaluationFailure
  /-- The error is a rejection exactly if the evaluator was not called. -/
  isRejection_iff_calls : e.isRejection = true ↔ c.calls request s = []
  /-- The body repeats the message and the kind. -/
  body_eq : e.body = { message := e.message, kind := e.kind }
  /-- The message says something. -/
  message_not_blank : Text.isBlank e.message = false
  /-- If the error is no rejection, the evaluator was called once and failed, and the message is
  what the evaluator said about it, unless that is blank. -/
  evaluation_failed : e.isRejection = false → ∃ expression failure,
    c.calls request s = [expression] ∧ (c.evaluator expression s).1 = .error failure ∧
      (Text.isBlank failure.message = false → e.message = failure.message)
  /-- There is evidence exactly if a pattern was blocked. -/
  evidence_iff : e.evidence?.isSome = true ↔ e.kind = .blockedPattern
  /-- The evidence is from the sanitized input where the input is read as a phrase, and from right
  before dispatch, by one of the signatures looked for there, where it is not. -/
  checkpoint_eq : ∀ evidence, e.evidence? = some evidence →
    if request.readsAsPhrase then evidence.checkpoint = .input
    else evidence.checkpoint = .dispatch ∧
      ∃ id ∈ Signature.dispatchIds, evidence.signatureId = id.toList

/-- Whenever a request fails, whatever the evaluator does, the report on it is coherent. -/
theorem failed_requests_are_reported_coherently {σ : Type} {c : Calculator σ} {request : Request}
    {s : σ} {e : RequestError} (h : (c.answer request s).1 = .error e) :
    CoherentReport c request s e := by
  have hcalls := c.calls_eq_dispatched request s
  rcases Calculator.failure_cases h with
    ⟨cause, rfl, hnone, hcause⟩ | ⟨expression, failure, rfl, hone, hfailure⟩
  · rw [hnone] at hcalls
    exact {
      isRejection_iff_kind := iff_of_true rfl cause.kind_ne_evaluationFailure
      isRejection_iff_calls := iff_of_true rfl hcalls
      body_eq := rfl
      message_not_blank := cause.message_not_blank
      evaluation_failed := fun hfalse => by cases hfalse
      evidence_iff := Rejection.evidence?_isSome_iff
      checkpoint_eq := fun evidence hevidence => by
        obtain rfl := Rejection.eq_blocked_of_evidence? hevidence
        exact Request.checkpoint_of_isRejectedFor hcause }
  · rw [hone] at hcalls
    obtain ⟨message, heq, hblank, hwords⟩ := RequestError.exists_message_of_ofEvaluator failure
    rw [heq]
    exact {
      isRejection_iff_kind := iff_of_false Bool.false_ne_true fun h => h rfl
      isRejection_iff_calls := iff_of_false Bool.false_ne_true (by simp [hcalls])
      body_eq := rfl
      message_not_blank := hblank
      evaluation_failed := fun _ => ⟨expression, failure, hcalls, hfailure, hwords⟩
      evidence_iff := by simp [RequestError.evidence?, RequestError.kind]
      checkpoint_eq := fun _ hevidence => by cases hevidence }

/-- A division by zero is reported in the words of the evaluator, and a phrase with a command and an
expression with one are reported from the two checkpoints. -/
theorem division_and_run_reported :
    CoherentReport (Session.calculator .standard)
      (.calculation { expression := "1/0".toList, allowNaturalLanguage := true })
      ⟨[.error (.failed "divide by zero".toList)], []⟩ (.evaluation "divide by zero".toList) ∧
    CoherentReport (Session.calculator .standard) (.parse { input := "run 5 plus 5".toList })
      ⟨[], []⟩
      (.rejected (.blocked ⟨"S4".toList, .commandExecution, .input, 0, 3, "run".toList⟩)) ∧
    CoherentReport (Session.calculator .standard)
      (.admission { expression := "run 5".toList, allowNaturalLanguage := true }) ⟨[], []⟩
      (.rejected (.blocked ⟨"S4".toList, .commandExecution, .dispatch, 0, 3, "run".toList⟩)) :=
  ⟨failed_requests_are_reported_coherently (by rfl),
    failed_requests_are_reported_coherently (by rfl),
    failed_requests_are_reported_coherently (by rfl)⟩

end ExprGate
