import ExprGate.Proofs.CaseBlindness

/-!
# Outcomes and the case of letters

Two inputs that differ only in the case of ASCII letters are both admitted or both turned away, by
the same route and rule or for the same cause. Their outcomes can differ only in what they quote:
the text that a signature matched, and notation that is taken as it stands. Phrases leave no trace
of case at all, since a translation quotes digits only. The argument compares two runs stage by
stage, and two stages in a row have outcomes alike when each of them has.
-/

namespace ExprGate

/-- The same signature fired at the same offsets, on texts that differ at most in case. -/
structure SignatureMatch.Alike (m n : SignatureMatch) : Prop where
  /-- The signature is the same. -/
  signatureId_eq : m.signatureId = n.signatureId
  /-- The category is the same. -/
  category_eq : m.category = n.category
  /-- The checkpoint is the same. -/
  checkpoint_eq : m.checkpoint = n.checkpoint
  /-- The match starts at the same offset. -/
  start_eq : m.start = n.start
  /-- The match ends at the same offset. -/
  stop_eq : m.stop = n.stop
  /-- The matched texts differ at most in case. -/
  matched : Text.eqIgnoringCase m.matched n.matched = true

/-- The rejections have the same kind and message, and evidence alike if there is any. -/
structure Rejection.Alike (e e' : Rejection) : Prop where
  /-- The kind is the same. -/
  kind_eq : e.kind = e'.kind
  /-- The message is the same. -/
  message_eq : e.message = e'.message
  /-- Either none of the two has evidence, or both have, and it is alike. -/
  evidence : Option.Rel SignatureMatch.Alike e.evidence? e'.evidence?

/-- The admissions have the same route and rule, and expressions that differ at most in case, and
not at all if they are translations. -/
structure Admission.Alike (a b : Admission) : Prop where
  /-- The route is the same. -/
  route_eq : a.route = b.route
  /-- The rule is the same, or there is none. -/
  ruleId_eq : a.ruleId = b.ruleId
  /-- The expressions differ at most in case. -/
  expression : Text.eqIgnoringCase a.expression b.expression = true
  /-- Translations are identical. -/
  expression_eq : a.route = .naturalLanguage → a.expression = b.expression

/-- Both outcomes are successes with values that are related as given, or both are rejections
alike. -/
def AlikeOutcomes {α : Type} (values : α → α → Prop) :
    Except Rejection α → Except Rejection α → Prop
  | .ok a, .ok b => values a b
  | .error e, .error e' => e.Alike e'
  | _, _ => False

/-- A rejection is alike to itself. -/
theorem Rejection.Alike.refl (e : Rejection) : e.Alike e := by
  refine ⟨rfl, rfl, ?_⟩
  cases e.evidence? with
  | none => exact .none
  | some m => exact .some ⟨rfl, rfl, rfl, rfl, rfl, by simp [Text.eqIgnoringCase]⟩

/-- Texts are equal up to case when they are the same in small letters, in particular a text and
itself. -/
theorem Text.eqIgnoringCase_refl (t : Text) : Text.eqIgnoringCase t t = true :=
  Text.eqIgnoringCase_iff.mpr rfl

namespace AlikeOutcomes

variable {α β : Type} {values : α → α → Prop} {results : β → β → Prop}

/-- An outcome is alike to itself if its value is related to itself. -/
theorem refl (hvalues : ∀ a, values a a) (x : Except Rejection α) : AlikeOutcomes values x x := by
  cases x with
  | ok a => exact hvalues a
  | error e => exact Rejection.Alike.refl e

/-- Stages with outcomes alike, followed by stages that take related values to outcomes alike, have
outcomes alike. -/
theorem bind {x y : Except Rejection α} {f g : α → Except Rejection β}
    (hfirst : AlikeOutcomes values x y)
    (hnext : ∀ a b, values a b → AlikeOutcomes results (f a) (g b)) :
    AlikeOutcomes results (x >>= f) (y >>= g) := by
  cases x with
  | ok a =>
    cases y with
    | ok b => exact hnext a b hfirst
    | error e' => exact hfirst.elim
  | error e =>
    cases y with
    | ok b => exact hfirst.elim
    | error e' => exact hfirst

end AlikeOutcomes

section Stages

/-- A check of the same condition has the same outcome. -/
theorem ensure_alike {condition condition' : Bool} (h : condition = condition')
    (cause : Rejection) :
    AlikeOutcomes (fun _ _ => True) (ensure condition cause) (ensure condition' cause) := by
  subst h
  exact AlikeOutcomes.refl (fun _ => trivial) _

variable {s t : Text} (h : s.uncased = t.uncased)
include h

/-- What does not see case is the same for texts that differ at most in case. -/
theorem eq_of_uncased {α : Type} {f : Text → α} (hf : ∀ t : Text, f t.uncased = f t) :
    f s = f t := by
  rw [← hf s, h, hf t]

/-- Texts that differ at most in case have the same length. -/
theorem length_eq_of_uncased : s.length = t.length := eq_of_uncased h Text.length_uncased

/-- Both texts are within a bound, or neither is. -/
theorem checkLength_alike (bound : Nat) :
    AlikeOutcomes (fun _ _ => True) (checkLength s bound) (checkLength t bound) := by
  rw [checkLength_eq, checkLength_eq]
  exact ensure_alike (by rw [length_eq_of_uncased h]) _

/-- Screening finds nothing in either text, or the same signature in both. -/
theorem screen_alike (checkpoint : Checkpoint) :
    AlikeOutcomes (fun _ _ => True) (screen s checkpoint) (screen t checkpoint) := by
  have hfound : (findBlocked s checkpoint).map SignatureMatch.uncased =
      (findBlocked t checkpoint).map SignatureMatch.uncased := by
    rw [← findBlocked_uncased, h, findBlocked_uncased]
  unfold screen
  cases hs : findBlocked s checkpoint with
  | none =>
    rw [hs, Option.map_none, eq_comm, Option.map_eq_none_iff] at hfound
    rw [hfound]
    exact True.intro
  | some m =>
    rw [hs, Option.map_some, eq_comm, Option.map_eq_some_iff] at hfound
    obtain ⟨n, hn, heq⟩ := hfound
    rw [hn]
    simp only [SignatureMatch.uncased, SignatureMatch.mk.injEq] at heq
    obtain ⟨hid, hcategory, hcheckpoint, hstart, hstop, hmatched⟩ := heq
    have hmessage : (Rejection.blocked m).message = (Rejection.blocked n).message :=
      congrArg (fun c => (Rejection.blockedMessage c).toList) hcheckpoint.symm
    exact ⟨rfl, hmessage, .some ⟨hid.symm, hcategory.symm, hcheckpoint.symm, hstart.symm,
      hstop.symm, Text.eqIgnoringCase_iff.mpr hmatched.symm⟩⟩

/-- Sanitizing leaves nothing of either text, or texts that differ at most in case. -/
theorem sanitizeBounded_alike (bound : Nat) : AlikeOutcomes (fun s t => s.uncased = t.uncased)
    (sanitizeBounded s bound) (sanitizeBounded t bound) := by
  have hleft : (sanitize s).uncased = (sanitize t).uncased := by
    rw [← sanitize_uncased, h, sanitize_uncased]
  have hempty : (sanitize s).isEmpty = (sanitize t).isEmpty :=
    eq_of_uncased hleft fun _ => List.isEmpty_map
  unfold sanitizeBounded
  refine (checkLength_alike h _).bind fun _ _ _ => ?_
  refine (ensure_alike (by rw [hempty]) _).bind fun _ _ _ => ?_
  exact hleft

/-- Phrases that differ at most in case have the same translation, or are turned away alike. -/
theorem parsePhrase_alike (policy : Policy) :
    AlikeOutcomes (· = ·) (parsePhrase policy s) (parsePhrase policy t) := by
  unfold parsePhrase
  refine (sanitizeBounded_alike h _).bind fun s t h => ?_
  refine (screen_alike h _).bind fun _ _ _ => ?_
  refine (ensure_alike (eq_of_uncased h hasPhraseCharacters_uncased) _).bind fun _ _ _ => ?_
  refine (ensure_alike (eq_of_uncased h hasNumericOperand_uncased) _).bind fun _ _ _ => ?_
  have htranslate : translateOrReject s = translateOrReject t := by
    rw [translateOrReject, eq_of_uncased h translate_uncased, translateOrReject]
  rw [htranslate]
  exact AlikeOutcomes.refl (fun _ => rfl) _

/-- Expressions that differ at most in case both pass the last checks, or are turned away alike. -/
theorem clear_alike : AlikeOutcomes (fun _ _ => True) (clear s) (clear t) := by
  unfold clear
  refine (screen_alike h _).bind fun _ _ _ => ?_
  refine (ensure_alike (eq_of_uncased h hasNumericOperand_uncased) _).bind fun _ _ _ => ?_
  rw [eq_of_uncased h validateExpression_uncased]
  exact AlikeOutcomes.refl (fun _ => trivial) _

/-- Inputs that differ at most in case are taken as the same translation, or as themselves. -/
theorem interpretInput_alike (policy : Policy) (allowPhrases : Bool) :
    AlikeOutcomes Admission.Alike (interpretInput policy allowPhrases s)
      (interpretInput policy allowPhrases t) := by
  unfold interpretInput
  rw [eq_of_uncased h looksLikeNaturalLanguage_uncased]
  split
  · refine (parsePhrase_alike h policy).bind ?_
    rintro translation _ rfl
    exact ⟨rfl, rfl, Text.eqIgnoringCase_refl _, fun _ => rfl⟩
  · exact ⟨rfl, rfl, Text.eqIgnoringCase_iff.mpr h, fun hroute => Route.noConfusion hroute⟩

/-- Inputs that differ at most in case are admitted alike, or turned away alike. -/
theorem admitExpression_alike (policy : Policy) (allowPhrases : Bool) :
    AlikeOutcomes Admission.Alike (admitExpression policy allowPhrases s)
      (admitExpression policy allowPhrases t) := by
  have htrim : (Text.trim s).uncased = (Text.trim t).uncased := by
    rw [← Text.trim_uncased, h, Text.trim_uncased]
  have hempty : (Text.trim s).isEmpty = (Text.trim t).isEmpty :=
    eq_of_uncased htrim fun _ => List.isEmpty_map
  unfold admitExpression
  refine (checkLength_alike h _).bind fun _ _ _ => ?_
  refine (ensure_alike (by rw [hempty]) _).bind fun _ _ _ => ?_
  refine (interpretInput_alike htrim policy allowPhrases).bind fun a b hab => ?_
  refine (clear_alike (Text.eqIgnoringCase_iff.mp hab.expression)).bind fun _ _ _ => ?_
  exact hab

end Stages

/-- Admission does not depend on the case of ASCII letters. For two inputs that differ in nothing
else, either both are admitted, by the same route and rule and with expressions that differ at most
in case, and not at all if they are translations; or both are turned away, with the same kind and
message, and with the same signature at the same offsets if one fired. As phrases they have the very
same translation, or are turned away alike. -/
theorem admission_ignores_case {s t : Text} (h : Text.eqIgnoringCase s t = true) (policy : Policy) :
    (∀ allowPhrases, AlikeOutcomes Admission.Alike (admitExpression policy allowPhrases s)
      (admitExpression policy allowPhrases t)) ∧
    AlikeOutcomes (· = ·) (parsePhrase policy s) (parsePhrase policy t) := by
  have hsmall := Text.eqIgnoringCase_iff.mp h
  exact ⟨admitExpression_alike hsmall policy, parsePhrase_alike hsmall policy⟩

/-- Two spellings of an addition have the same translation, and the two of a call are admitted with
the letters that they have. -/
theorem shouted_phrase_admitted_alike :
    Text.eqIgnoringCase "25 plus 17".toList "25 PLUS 17".toList = true ∧
      AlikeOutcomes (· = ·) (parsePhrase .standard "25 plus 17".toList)
        (parsePhrase .standard "25 PLUS 17".toList) ∧
      AlikeOutcomes Admission.Alike (admitExpression .standard false "sin(1)".toList)
        (admitExpression .standard false "Sin(1)".toList) := by
  have hphrase : Text.eqIgnoringCase "25 plus 17".toList "25 PLUS 17".toList = true := by rfl
  have hcall : Text.eqIgnoringCase "sin(1)".toList "Sin(1)".toList = true := by rfl
  exact ⟨hphrase, (admission_ignores_case hphrase .standard).2,
    (admission_ignores_case hcall .standard).1 false⟩

end ExprGate
