import ExprGate.Proofs.JsonTokens
import ExprGate.Proofs.Stages

/-!
# Length bounds

The bounds of a policy decide whether an input is inspected at all. This file states exactly when
they turn an input away, and that they have no other influence: two policies that both let an input
through treat it alike, so that a wider bound never moves a failure to another check or changes the
route. An input that is turned away is told the bound that it exceeds.
-/

namespace ExprGate

/-- Policies are compared by both of their bounds. -/
instance : LE Policy where
  le p p' := p.naturalLanguageMaxLen ≤ p'.naturalLanguageMaxLen ∧
    p.expressionMaxLen ≤ p'.expressionMaxLen

/-- Whether the input was turned away for its length. -/
def IsTooLong {α : Type} (outcome : Except Rejection α) : Prop :=
  ∃ cause, outcome = .error cause ∧ cause.kind = .tooLong

namespace Policy

/-- Whether a phrase is within its bound. -/
def HasRoomForPhrase (p : Policy) (input : Text) : Prop := input.length ≤ p.naturalLanguageMaxLen

/-- Whether an expression is within its bound, and where it is handed on as a phrase, the trimmed
expression within that for phrases as well. -/
def HasRoomFor (p : Policy) (allowPhrases : Bool) (input : Text) : Prop :=
  input.length ≤ p.expressionMaxLen ∧
    ((allowPhrases && looksLikeNaturalLanguage (Text.trim input)) = true →
      p.HasRoomForPhrase (Text.trim input))

end Policy

namespace IsTooLong

variable {α β : Type}

/-- A result is not turned away. -/
@[simp] theorem ok {a : α} : ¬ IsTooLong (.ok a : Except Rejection α) := by simp [IsTooLong]

/-- A failure is one for length by its kind. -/
@[simp] theorem error_iff {cause : Rejection} :
    IsTooLong (.error cause : Except Rejection α) ↔ cause.kind = .tooLong := by
  simp [IsTooLong]

/-- A sequence of two steps is turned away for length by one of the two. -/
theorem bind_iff {x : Except Rejection α} {f : α → Except Rejection β} :
    IsTooLong (x >>= f) ↔ IsTooLong x ∨ ∃ a, x = .ok a ∧ IsTooLong (f a) := by
  cases x with
  | error cause => simp [Bind.bind, Except.bind]
  | ok a => simp [Bind.bind, Except.bind]

/-- A check before a step turns away for length, or passes to a step that does. -/
theorem check_bind_iff {x : Except Rejection Unit} {f : Unit → Except Rejection β} :
    IsTooLong (x >>= f) ↔ IsTooLong x ∨ x = .ok () ∧ IsTooLong (f ()) := by
  rw [bind_iff]
  exact or_congr_right ⟨fun ⟨_, h⟩ => h, fun h => ⟨(), h⟩⟩

/-- Among the checks, only one that states a bound turns away for length. -/
@[simp] theorem ensure_iff {condition : Bool} {cause : Rejection} :
    IsTooLong (ensure condition cause) ↔ condition = false ∧ cause.kind = .tooLong := by
  cases condition <;> simp [ensure]

/-- The length check turns away what has too many characters. -/
@[simp] theorem checkLength_iff {raw : Text} {bound : Nat} :
    IsTooLong (checkLength raw bound) ↔ bound < raw.length := by
  simp [IsTooLong, Rejection.kind]

/-- The signatures do not measure. -/
@[simp] theorem not_screen {text : Text} {checkpoint : Checkpoint} :
    ¬ IsTooLong (screen text checkpoint) := by
  unfold screen
  cases findBlocked text checkpoint <;> simp [Rejection.kind]

/-- The rules do not measure. -/
@[simp] theorem not_translateOrReject {phrase : Text} : ¬ IsTooLong (translateOrReject phrase) := by
  unfold translateOrReject
  cases translate phrase <;> simp [Rejection.kind]

/-- The last checks do not measure. -/
@[simp] theorem not_clear {expression : Text} : ¬ IsTooLong (clear expression) := by
  simp [clear, validateExpression, bind_iff, Rejection.kind]

/-- A phrase is turned away for length exactly when it is not within its bound. -/
theorem parsePhrase_iff {p : Policy} {input : Text} :
    IsTooLong (parsePhrase p input) ↔ ¬ p.HasRoomForPhrase input := by
  simp [parsePhrase, sanitizeBounded, bind_iff, Rejection.kind, pure, Except.pure,
    Policy.HasRoomForPhrase]

/-- Taking a trimmed input as something turns it away for length exactly when it is taken as a
phrase and is not within the bound for phrases. -/
theorem interpretInput_iff {p : Policy} {allowPhrases : Bool} {text : Text} :
    IsTooLong (interpretInput p allowPhrases text) ↔
      (allowPhrases && looksLikeNaturalLanguage text) = true ∧ ¬ p.HasRoomForPhrase text := by
  unfold interpretInput
  split
  · next hphrase => simp [bind_iff, parsePhrase_iff, hphrase, pure, Except.pure]
  · next hstrict => simp [hstrict]

/-- An expression is turned away for length exactly when it exceeds one of the bounds that it
meets. -/
theorem admitExpression_iff {p : Policy} {allowPhrases : Bool} {input : Text} :
    IsTooLong (admitExpression p allowPhrases input) ↔ ¬ p.HasRoomFor allowPhrases input := by
  have hempty (hlong : ¬ p.HasRoomForPhrase (Text.trim input)) : Text.trim input ≠ [] := by
    intro h
    rw [h] at hlong
    exact hlong (Nat.zero_le _)
  have htaken : IsTooLong (do
        let admission ← interpretInput p allowPhrases (Text.trim input)
        clear admission.expression
        return admission) ↔
      (allowPhrases && looksLikeNaturalLanguage (Text.trim input)) = true ∧
        ¬ p.HasRoomForPhrase (Text.trim input) := by
    simp [bind_iff, interpretInput_iff, pure, Except.pure]
  rw [admitExpression, check_bind_iff, check_bind_iff, htaken]
  simp only [checkLength_iff, checkLength_eq_ok_iff, ensure_iff, ensure_eq_ok_iff, Rejection.kind,
    Bool.not_eq_true', List.isEmpty_eq_false_iff, reduceCtorEq, and_false, false_or,
    Policy.HasRoomFor, Classical.not_and_iff_not_or_not, Classical.not_imp, Nat.not_le]
  -- The empty check stands between the two bounds, but nothing empty exceeds a bound.
  constructor
  · rintro (hlong | ⟨_, _, hphrase, hlong⟩)
    · exact Or.inl hlong
    · exact Or.inr ⟨hphrase, hlong⟩
  · rintro (hlong | ⟨hphrase, hlong⟩)
    · exact Or.inl hlong
    · rcases Nat.lt_or_ge p.expressionMaxLen input.length with hlength | hlength
      · exact Or.inl hlength
      · exact Or.inr ⟨hlength, hempty hlong, hphrase, hlong⟩

end IsTooLong

section TwoPolicies

variable {p p' : Policy} {input : Text}

/-- Policies that both have room for a phrase treat it alike. -/
theorem parsePhrase_eq_of_hasRoom (h : p.HasRoomForPhrase input) (h' : p'.HasRoomForPhrase input) :
    parsePhrase p input = parsePhrase p' input := by
  have hwithin := checkLength_eq_ok_iff.mpr h
  have hwithin' := checkLength_eq_ok_iff.mpr h'
  simp only [parsePhrase, sanitizeBounded, hwithin, hwithin']

/-- Policies that both have room for an expression treat it alike. -/
theorem admitExpression_eq_of_hasRoom {allowPhrases : Bool} (h : p.HasRoomFor allowPhrases input)
    (h' : p'.HasRoomFor allowPhrases input) :
    admitExpression p allowPhrases input = admitExpression p' allowPhrases input := by
  have hwithin := checkLength_eq_ok_iff.mpr h.1
  have hwithin' := checkLength_eq_ok_iff.mpr h'.1
  have htaken : interpretInput p allowPhrases (Text.trim input) =
      interpretInput p' allowPhrases (Text.trim input) := by
    unfold interpretInput
    split
    · next hphrase => rw [parsePhrase_eq_of_hasRoom (h.2 hphrase) (h'.2 hphrase)]
    · rfl
  simp only [admitExpression, hwithin, hwithin', htaken]

end TwoPolicies

/-- A wider policy has room for whatever a narrower one has room for. -/
theorem Policy.HasRoomFor.mono {p p' : Policy} (hle : p ≤ p') {allowPhrases : Bool} {input : Text}
    (h : p.HasRoomFor allowPhrases input) : p'.HasRoomFor allowPhrases input :=
  ⟨Nat.le_trans h.1 hle.2, fun hphrase => Nat.le_trans (h.2 hphrase) hle.1⟩

/-- The bounds of a policy gate a computation, and they do not steer it. -/
structure OnlyGates {α : Type} (hasRoom : Policy → Prop)
    (run : Policy → Except Rejection α) : Prop where
  /-- Exactly the policies without room for the input turn it away for its length. -/
  tooLong_iff : ∀ p, IsTooLong (run p) ↔ ¬ hasRoom p
  /-- Two policies that do not turn the input away for its length treat it alike. -/
  agree : ∀ p p', ¬ IsTooLong (run p) → ¬ IsTooLong (run p') → run p = run p'
  /-- A policy that is at least as wide in both bounds keeps every outcome that is not a rejection
  for length. -/
  keep : ∀ p p', p ≤ p' → ¬ IsTooLong (run p) → run p' = run p

/-- To gate only, a computation has to turn away for length exactly where there is no room, to be
the same wherever there is, and to find room in wider policies as well. -/
theorem onlyGates_of_hasRoom {α : Type} {hasRoom : Policy → Prop}
    {run : Policy → Except Rejection α} (htooLong : ∀ p, IsTooLong (run p) ↔ ¬ hasRoom p)
    (heq : ∀ p p', hasRoom p → hasRoom p' → run p = run p')
    (hmono : ∀ p p', p ≤ p' → hasRoom p → hasRoom p') : OnlyGates hasRoom run where
  tooLong_iff := htooLong
  agree p p' h h' := by
    rw [htooLong, Classical.not_not] at h h'
    exact heq p p' h h'
  keep p p' hle h := by
    rw [htooLong, Classical.not_not] at h
    exact heq p' p (hmono p p' hle h) h

/-- The length bounds gate both entry points and steer neither of them: unless it is turned away
for its length, an input is treated alike under all policies, and what a policy lets through is
treated the same under every wider one. -/
theorem bounds_gate_and_never_steer :
    (∀ allowPhrases input, OnlyGates (fun p => p.HasRoomFor allowPhrases input)
      fun p => admitExpression p allowPhrases input) ∧
    ∀ input, OnlyGates (fun p => p.HasRoomForPhrase input) fun p => parsePhrase p input := by
  constructor
  · intro allowPhrases input
    exact onlyGates_of_hasRoom (fun _ => IsTooLong.admitExpression_iff)
      (fun _ _ => admitExpression_eq_of_hasRoom) fun _ _ hle h => h.mono hle
  · intro input
    exact onlyGates_of_hasRoom (fun _ => IsTooLong.parsePhrase_iff)
      (fun _ _ => parsePhrase_eq_of_hasRoom) fun _ _ hle h => Nat.le_trans h hle.1

section StatedBounds

/-! ### The bound that a rejection states -/

variable {p : Policy} {input : Text} {bound : Nat} {cause : Rejection}

/-- The rejection is one for length, and its message states the bound. -/
structure Rejection.StatesBound (bound : Nat) (cause : Rejection) : Prop where
  /-- It is a rejection for length. -/
  kind : cause.kind = .tooLong
  /-- The bound is written in its message. -/
  message : cause.message =
    "Input too long. Maximum length is ".toList ++ natText bound ++ " characters.".toList

/-- A rejection for length is made for some bound. -/
theorem Rejection.kind_eq_tooLong_iff : cause.kind = .tooLong ↔ ∃ b, cause = .tooLong b := by
  cases cause <;> simp [kind]

/-- The bound can be told from the message, so only the rejection made for it states it. -/
theorem Rejection.statesBound_iff : cause.StatesBound bound ↔ cause = .tooLong bound := by
  constructor
  · rintro ⟨hkind, hmessage⟩
    obtain ⟨b, rfl⟩ := kind_eq_tooLong_iff.mp hkind
    have hdigits : natText b = natText bound :=
      List.append_cancel_left (List.append_cancel_right hmessage)
    rw [← natOfDigits_natText b, hdigits, natOfDigits_natText]
  · rintro rfl
    exact ⟨rfl, rfl⟩

/-- Where an input is turned away with a bound once it exceeds that, and for its length only then,
every rejection of it for length states that bound. -/
theorem IsTooLong.error_iff_exceeds {α : Type} {x : Except Rejection α} {exceeds : Prop}
    (hlong : exceeds → x = .error (.tooLong bound)) (honly : IsTooLong x → exceeds) :
    x = .error cause ∧ cause.kind = .tooLong ↔ exceeds ∧ cause.StatesBound bound := by
  rw [Rejection.statesBound_iff]
  constructor
  · rintro ⟨hcause, hkind⟩
    have hexceeds : exceeds := honly ⟨cause, hcause, hkind⟩
    rw [hlong hexceeds] at hcause
    exact ⟨hexceeds, (Except.error.inj hcause).symm⟩
  · rintro ⟨hexceeds, rfl⟩
    exact ⟨hlong hexceeds, rfl⟩

/-- Within its own bound, an expression that is handed on as a phrase is turned away with the bound
for phrases when it is longer than that once it is trimmed. -/
theorem admitExpression_of_long_phrase (hwithin : input.length ≤ p.expressionMaxLen)
    (hlooks : looksLikeNaturalLanguage (Text.trim input) = true)
    (hlong : p.naturalLanguageMaxLen < (Text.trim input).length) :
    admitExpression p true input = .error (.tooLong p.naturalLanguageMaxLen) := by
  have hne : Text.trim input ≠ [] := List.ne_nil_of_length_pos (Nat.zero_lt_of_lt hlong)
  refine admitExpression_of_interpretInput_error hwithin hne ?_
  rw [interpretInput_of_phrase hlooks, parsePhrase_of_too_long hlong]
  rfl

/-- An expression that is turned away for its length is turned away with its own bound or, within
that, with the bound for phrases. -/
theorem admitExpression_tooLong_iff {allowPhrases : Bool} :
    admitExpression p allowPhrases input = .error cause ∧ cause.kind = .tooLong ↔
      p.expressionMaxLen < input.length ∧ cause.StatesBound p.expressionMaxLen ∨
      input.length ≤ p.expressionMaxLen ∧
        (allowPhrases = true ∧ looksLikeNaturalLanguage (Text.trim input) = true ∧
          p.naturalLanguageMaxLen < (Text.trim input).length) ∧
        cause.StatesBound p.naturalLanguageMaxLen := by
  rcases Nat.lt_or_ge p.expressionMaxLen input.length with hlong | hwithin
  · have hexpression : admitExpression p allowPhrases input = .error cause ∧ cause.kind = .tooLong ↔
        p.expressionMaxLen < input.length ∧ cause.StatesBound p.expressionMaxLen :=
      IsTooLong.error_iff_exceeds admitExpression_of_too_long fun _ => hlong
    rw [hexpression]
    simp [Nat.not_le_of_lt hlong]
  · have hphrase : admitExpression p allowPhrases input = .error cause ∧ cause.kind = .tooLong ↔
        (allowPhrases = true ∧ looksLikeNaturalLanguage (Text.trim input) = true ∧
          p.naturalLanguageMaxLen < (Text.trim input).length) ∧
        cause.StatesBound p.naturalLanguageMaxLen := by
      refine IsTooLong.error_iff_exceeds ?_ fun h => ?_
      · rintro ⟨rfl, hlooks, hlong⟩
        exact admitExpression_of_long_phrase hwithin hlooks hlong
      · have hroom := IsTooLong.admitExpression_iff.mp h
        simpa [Policy.HasRoomFor, Policy.HasRoomForPhrase, hwithin, and_assoc] using hroom
    rw [hphrase]
    simp [hwithin, Nat.not_lt_of_le hwithin]

/-- Length bounds are exact, and nothing comes before them. Characters are counted, whatever bytes
they take; a phrase is turned away for its length exactly when the raw input has more of them than
the bound for phrases; and an expression exactly when the raw input has more than the bound for
expressions, or else it is handed on as a phrase and, trimmed, has more than the bound for phrases.
The message states the bound in question. -/
theorem length_bounds_are_exact :
    (∀ raw bound, checkLength raw bound =
      if bound < raw.length then .error (.tooLong bound) else .ok ()) ∧
    (∀ p input cause, parsePhrase p input = .error cause ∧ cause.kind = .tooLong ↔
      p.naturalLanguageMaxLen < input.length ∧ cause.StatesBound p.naturalLanguageMaxLen) ∧
    ∀ p allowPhrases input cause,
      admitExpression p allowPhrases input = .error cause ∧ cause.kind = .tooLong ↔
        p.expressionMaxLen < input.length ∧ cause.StatesBound p.expressionMaxLen ∨
        input.length ≤ p.expressionMaxLen ∧
          (allowPhrases = true ∧ looksLikeNaturalLanguage (Text.trim input) = true ∧
            p.naturalLanguageMaxLen < (Text.trim input).length) ∧
          cause.StatesBound p.naturalLanguageMaxLen := by
  refine ⟨fun raw bound => ?_, fun p input cause => ?_, fun p allowPhrases input cause => ?_⟩
  · split
    · next hlong => exact checkLength_eq_error_iff.mpr ⟨hlong, rfl⟩
    · next hwithin => exact checkLength_eq_ok_iff.mpr (Nat.le_of_not_lt hwithin)
  · exact IsTooLong.error_iff_exceeds parsePhrase_of_too_long fun h =>
      Nat.lt_of_not_le (IsTooLong.parsePhrase_iff.mp h)
  · exact admitExpression_tooLong_iff

end StatedBounds

end ExprGate
