import ExprGate.Proofs.Stages
import ExprGate.Session
import Mathlib.Data.List.Forall2

/-!
# What reaches the evaluator

A calculator hands its evaluator admitted expressions and nothing else. The first part states what
answering one request can do, for any evaluator. The second part follows a session with a scripted
evaluator, request by request: a request that was turned away neither calls the evaluator nor uses
up one of its replies, so the other answers do not depend on it.
-/

namespace ExprGate

namespace Calculator

variable {σ : Type}

/-- The expressions that answering a request hands to the evaluator: the admitted one for a
calculation, and none for any other request. -/
def dispatched (c : Calculator σ) : Request → List Text
  | .calculation request =>
    match c.admission request with
    | .ok admission => [admission.expression]
    | .error _ => []
  | _ => []

/-- Admission as a service fails with the rejection of the admission pipeline. -/
theorem admission_eq_error_iff {c : Calculator σ} {request : CalculateRequest} {e : RequestError} :
    c.admission request = .error e ↔ ∃ cause, e = .rejected cause ∧
      admitExpression c.policy request.allowNaturalLanguage request.expression = .error cause := by
  unfold admission
  cases admitExpression c.policy request.allowNaturalLanguage request.expression with
  | ok admission => simp
  | error cause => simp [eq_comm]

/-- Admission as a service succeeds with the outcome of the admission pipeline. -/
theorem admission_eq_ok_iff {c : Calculator σ} {request : CalculateRequest} {a : Admission} :
    c.admission request = .ok a ↔
      admitExpression c.policy request.allowNaturalLanguage request.expression = .ok a := by
  unfold admission
  cases admitExpression c.policy request.allowNaturalLanguage request.expression <;> simp

/-- Answering a request does one of two things. Either it calls the evaluator once, with the
expression dispatched, and responds with what that call gives; or it dispatches nothing, and then
neither the answer nor the state of the evaluator depends on the other one. -/
theorem answer_cases (c : Calculator σ) (request : Request) :
    (∃ e, c.dispatched request = [e] ∧ ∀ s, c.answer request s =
      ((respond (c.evaluator e s).1).map .calculated, (c.evaluator e s).2)) ∨
    (c.dispatched request = [] ∧ ∃ answer, ∀ s, c.answer request s = (answer, s)) := by
  cases request with
  | health | policy | parse _ | admission _ => exact Or.inr ⟨rfl, _, fun _ => rfl⟩
  | calculation request =>
    cases hadmission : c.admission request with
    | ok admission =>
      left
      refine ⟨admission.expression, ?_, fun s => ?_⟩
      · simp only [dispatched, hadmission]
      · simp only [answer, calculate, hadmission]
    | error e =>
      right
      refine ⟨?_, .error e, fun s => ?_⟩
      · simp only [dispatched, hadmission]
      · simp only [answer, calculate, hadmission, Except.map]

/-- A calculation whose admission fails is answered with that failure. -/
theorem answer_of_admission_error {c : Calculator σ} {request : CalculateRequest}
    {e : RequestError} (h : c.admission request = .error e) (s : σ) :
    c.answer (.calculation request) s = (.error e, s) := by
  simp only [answer, calculate, h, Except.map]

/-- Whatever a request dispatches has passed the last checks of admission. -/
theorem clear_of_mem_dispatched {c : Calculator σ} {request : Request} {e : Text}
    (h : e ∈ c.dispatched request) : clear e = .ok () := by
  cases request with
  | health | policy | parse _ | admission _ => exact absurd h List.not_mem_nil
  | calculation request =>
    cases hadmission : c.admission request with
    | ok admission =>
      simp only [dispatched, hadmission, List.mem_singleton] at h
      obtain ⟨_, _, _, hclear⟩ := admitExpression_eq_ok_iff.mp (admission_eq_ok_iff.mp hadmission)
      exact h ▸ hclear
    | error _ => simp [dispatched, hadmission] at h

end Calculator

namespace Session

/-- What the step for a request has to be like. -/
structure Step.Lawful (policy : Policy) (request : Request) (step : Step) : Prop where
  /-- The evaluator is given what the request dispatches. -/
  seen_eq : step.seen = (calculator policy).dispatched request
  /-- A calculation that admission turns away is answered with that rejection, as the admission of
  the same input would be. -/
  answer_eq : ∀ q cause, request = .calculation q →
    admitExpression policy q.allowNaturalLanguage q.expression = .error cause →
    step.answer = .error (.rejected cause) ∧
      (calculator policy).admission q = .error (.rejected cause)

/-- The first step of a session answers the first request; the other steps go on with the replies
that it leaves. -/
theorem run_cons (policy : Policy) (replies : List (Except EvaluatorError Value))
    (request : Request) (requests : List Request) :
    run policy replies (request :: requests) =
      ⟨((calculator policy).answer request ⟨replies, []⟩).1,
        ((calculator policy).answer request ⟨replies, []⟩).2.seen⟩ ::
      run policy ((calculator policy).answer request ⟨replies, []⟩).2.replies requests := rfl

/-- During a step the evaluator is given what the request dispatches. -/
theorem seen_answer (policy : Policy) (replies : List (Except EvaluatorError Value))
    (request : Request) : ((calculator policy).answer request ⟨replies, []⟩).2.seen =
      (calculator policy).dispatched request := by
  rcases (calculator policy).answer_cases request with ⟨e, he, hanswer⟩ | ⟨he, answer, hanswer⟩
  · rw [he, hanswer]
    cases replies <;> rfl
  · rw [he, hanswer]

/-- One step is as it has to be, whatever replies the evaluator has left. -/
theorem lawful_answer (policy : Policy) (replies : List (Except EvaluatorError Value))
    (request : Request) :
    Step.Lawful policy request ⟨((calculator policy).answer request ⟨replies, []⟩).1,
      ((calculator policy).answer request ⟨replies, []⟩).2.seen⟩ where
  seen_eq := seen_answer policy replies request
  answer_eq := by
    rintro q cause rfl hrejected
    have hadmission : (calculator policy).admission q = .error (.rejected cause) :=
      Calculator.admission_eq_error_iff.mpr ⟨cause, rfl, hrejected⟩
    exact ⟨by rw [Calculator.answer_of_admission_error hadmission], hadmission⟩

/-- Every step of a session is as it has to be for its request. -/
theorem forall₂_lawful_run (policy : Policy) (replies : List (Except EvaluatorError Value))
    (requests : List Request) :
    List.Forall₂ (Step.Lawful policy) requests (run policy replies requests) := by
  induction requests generalizing replies with
  | nil => exact List.Forall₂.nil
  | cons request requests ih =>
    rw [run_cons]
    exact List.Forall₂.cons (lawful_answer policy replies request) (ih _)

/-- Whether answering a request calls the evaluator. -/
def reaches (policy : Policy) (request : Request) : Bool :=
  !((calculator policy).dispatched request).isEmpty

/-- Without the requests that do not reach the evaluator, a session has exactly the steps of the
others, with the same answers. -/
theorem run_filter_reaches (policy : Policy) (replies : List (Except EvaluatorError Value))
    (requests : List Request) :
    run policy replies (requests.filter (reaches policy)) =
      (run policy replies requests).filter fun step => !step.seen.isEmpty := by
  induction requests generalizing replies with
  | nil => rfl
  | cons request requests ih =>
    have hseen := seen_answer policy replies request
    rcases (calculator policy).answer_cases request with ⟨e, he, _⟩ | ⟨he, answer, hanswer⟩
    · have hreaches : reaches policy request = true := by simp [reaches, he]
      rw [List.filter_cons_of_pos hreaches, run_cons, run_cons, List.filter_cons_of_pos, ih]
      simp only [hseen, he, List.isEmpty_cons, Bool.not_false]
    · -- The step leaves the replies as they were, so the rest of the session is the same.
      have hreaches : ¬ reaches policy request = true := by simp [reaches, he]
      rw [List.filter_cons_of_neg hreaches, run_cons, List.filter_cons_of_neg, hanswer, ih]
      simp only [hseen, he, List.isEmpty_nil, Bool.not_true, Bool.false_eq_true, not_false_eq_true]

/-- Every expression that the evaluator is given in a session has passed the last checks. -/
theorem clear_of_mem_seen {policy : Policy} {replies : List (Except EvaluatorError Value)}
    {requests : List Request} {step : Step} (hstep : step ∈ run policy replies requests)
    {e : Text} (he : e ∈ step.seen) : clear e = .ok () := by
  induction requests generalizing replies with
  | nil => exact absurd hstep List.not_mem_nil
  | cons request requests ih =>
    rcases List.mem_cons.mp (run_cons policy replies request requests ▸ hstep) with rfl | hlater
    · rw [seen_answer] at he
      exact Calculator.clear_of_mem_dispatched he
    · exact ih hlater

/-- In every session the evaluator is called once by each calculation that admission lets pass, with
the admitted expression, and by nothing else; a calculation that admission turns away is answered
with its rejection. Leaving out the requests that do not reach the evaluator changes none of the
other answers, and whatever the evaluator is given has passed the last checks. -/
theorem evaluator_sees_admitted_only (policy : Policy)
    (replies : List (Except EvaluatorError Value)) (requests : List Request) :
    List.Forall₂ (Step.Lawful policy) requests (run policy replies requests) ∧
    run policy replies (requests.filter (reaches policy)) =
      ((run policy replies requests).filter fun step => !step.seen.isEmpty) ∧
    ∀ step ∈ run policy replies requests, ∀ e ∈ step.seen, validateExpression e = .ok () ∧
      hasNumericOperand e = true ∧ findBlocked e .dispatch = none := by
  refine ⟨forall₂_lawful_run policy replies requests,
    run_filter_reaches policy replies requests, ?_⟩
  intro step hstep e he
  obtain ⟨hblocked, hoperand, hclean⟩ := clear_eq_ok_iff.mp (clear_of_mem_seen hstep he)
  exact ⟨validateExpression_eq_ok_iff.mpr hclean, hoperand, hblocked⟩

end Session

end ExprGate
