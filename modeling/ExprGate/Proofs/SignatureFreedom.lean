import ExprGate.Proofs.CleanTexts

/-!
# No signature in a clean text

Only four of the fourteen signatures are looked for right before dispatch. The others need no second
look: every match of every signature spells a fragment that would last through the erasure of the
recognized names, so validation already turns such an expression away.
-/

namespace ExprGate

/-- The signature table is free of a text when none of its patterns is found there. -/
theorem containsBlocked_eq_false_iff {t : Text} :
    containsBlocked t = false ↔ ∀ s ∈ Signature.table, s.pattern.find t = none := by
  simp [containsBlocked, Pattern.occursIn]

/-- Screening finds nothing exactly when no pattern that is active at the checkpoint is found. -/
theorem findBlocked_eq_none_iff {t : Text} {checkpoint : Checkpoint} :
    findBlocked t checkpoint = none ↔ ∀ s ∈ Signature.table, s.activeAt checkpoint = true →
      s.pattern.find t = none := by
  simp [findBlocked]

/-- Every match of a signature spells one of the foreign fragments. -/
theorem barredBy_of_mem_table : ∀ s ∈ Signature.table,
    s.pattern.barredBy hasForeign = true := by
  decide +kernel

/-- No signature is found in a clean text. -/
theorem find_eq_none_of_isClean {t : Text} (h : isClean t = true) :
    ∀ s ∈ Signature.table, s.pattern.find t = none := by
  intro s hs
  have hoccurs := occursIn_eq_false_of_isClean (barredBy_of_mem_table s hs) h
  rwa [Pattern.occursIn, Option.isSome_eq_false_iff, Option.isNone_iff_eq_none] at hoccurs

/-- A clean text is free of the whole signature table, and so is every admitted expression, under
any policy and on either route, although only part of the table is looked for before dispatch. -/
theorem clean_and_admitted_free_of_signatures :
    (∀ t : Text, isClean t = true →
      containsBlocked t = false ∧ ∀ s ∈ Signature.table, s.pattern.find t = none) ∧
    ∀ (policy : Policy) (allowPhrases : Bool) (input : Text) (admission : Admission),
      admitExpression policy allowPhrases input = .ok admission →
      containsBlocked admission.expression = false ∧
        (∀ s ∈ Signature.table, s.pattern.find admission.expression = none) ∧
        ∀ checkpoint, findBlocked admission.expression checkpoint = none := by
  constructor
  · intro t ht
    have hfree := find_eq_none_of_isClean ht
    exact ⟨containsBlocked_eq_false_iff.mpr hfree, hfree⟩
  · intro policy allowPhrases input admission hadmitted
    have hfree := find_eq_none_of_isClean (isClean_of_admitted hadmitted)
    refine ⟨containsBlocked_eq_false_iff.mpr hfree, hfree, fun checkpoint => ?_⟩
    exact findBlocked_eq_none_iff.mpr fun s hs _ => hfree s hs

/-- The expression `2 * pi` is admitted, and no signature is found in it. -/
theorem two_pi_free_of_signatures :
    admitExpression .standard true "2 * pi".toList = .ok ⟨"2 * pi".toList, .strictMath, none⟩ ∧
      containsBlocked "2 * pi".toList = false := by
  have hadmitted : admitExpression .standard true "2 * pi".toList =
      .ok ⟨"2 * pi".toList, .strictMath, none⟩ := by rfl
  exact ⟨hadmitted, (clean_and_admitted_free_of_signatures.2 _ _ _ _ hadmitted).1⟩

end ExprGate
