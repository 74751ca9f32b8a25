import ExprGate.Proofs.FirstOperand
import ExprGate.Proofs.GrammarCompleteness

/-!
# The natural logarithm is out of reach

The first rule that applies translates a phrase, so a rule never gets to translate anything when an
earlier one applies wherever it does. That is so when each of its wordings is a wording of the
earlier rule, or ends with one behind a gap: what the rule reads can then be cut down to what the
earlier rule reads. In this way the rule for the logarithm, which takes the phrase from the word
`log` on, comes before the rule for the natural logarithm.
-/

namespace ExprGate

open Wording

namespace TranslationRule

variable {earlier later rule : TranslationRule} {text before m after : Text} {operands : List Text}

/-- Whether the earlier rule, which no word disqualifies, has a wording that is the same as, or the
end of, each wording of the later rule. -/
def covers (earlier later : TranslationRule) : Bool :=
  earlier.unlessAfter.isEmpty && (!earlier.pattern.isAnchored || later.pattern.isAnchored) &&
    (wordingsOf later.id).all fun w => (wordingsOf earlier.id).any fun g =>
      g == w || (WordingPart.blanks :: g).isSuffixOf w

/-- Each wording of a rule that is covered is one of the covering rule, or ends with one behind a
gap. -/
theorem exists_wording_of_covers (h : earlier.covers later = true) {w : Wording}
    (hw : w ∈ wordingsOf later.id) : ∃ g ∈ wordingsOf earlier.id, w = g ∨
      ∃ lead : Wording, lead.getLast? = some .blanks ∧ w = lead ++ g := by
  obtain ⟨_, hall⟩ := (Bool.and_eq_true _ _).mp h
  obtain ⟨g, hg, hends⟩ := List.any_eq_true.mp (List.all_eq_true.mp hall w hw)
  refine ⟨g, hg, ?_⟩
  rcases (Bool.or_eq_true _ _).mp hends with hsame | hsuffix
  · exact Or.inl (beq_iff_eq.mp hsame).symm
  · obtain ⟨lead, hlead⟩ := List.isSuffixOf_iff_suffix.mp hsuffix
    refine Or.inr ⟨lead ++ [.blanks], by simp, ?_⟩
    rw [← hlead, List.append_assoc, List.singleton_append]

/-- What a covered rule reads ends with something that the covering rule reads. -/
theorem exists_reads_of_covers (hearlier : earlier ∈ table) (hlater : later ∈ table)
    (hcovers : earlier.covers later = true)
    (h : later.pattern.Reads before.reverse m after operands) :
    ∃ skipped part operands', m = skipped ++ part ∧
      earlier.pattern.Reads (before ++ skipped).reverse part after operands' := by
  obtain ⟨⟨w, hw, hspelled⟩, hboundary⟩ := (reads_iff_spelledBy hlater).mp h
  obtain ⟨g, hg, rfl | ⟨lead, hgap, rfl⟩⟩ := exists_wording_of_covers hcovers hw
  · -- The wording is one of the covering rule too, so that one reads the same text.
    have hanchors : earlier.pattern.isAnchored = true → later.pattern.isAnchored = true := by
      simp only [covers, Bool.and_eq_true, Bool.or_eq_true, Bool.not_eq_true'] at hcovers
      intro hanchored
      rcases hcovers.1.2 with hfree | hlater
      · exact absurd (hanchored.symm.trans hfree) Bool.false_ne_true.symm
      · exact hlater
    refine ⟨[], m, operands, rfl, ?_⟩
    rw [List.append_nil]
    exact (reads_iff_spelledBy hearlier).mpr
      ⟨⟨w, hg, hspelled⟩, fun hanchored => hboundary (hanchors hanchored)⟩
  · -- Blanks stand before the rest of the text, so the covering rule reads that.
    obtain ⟨skipped, part, _, operands', rfl, _, hlead, hpart⟩ := spelledBy_append.mp hspelled
    obtain ⟨first, gap, _, rfl, ⟨hne, hblank⟩, _⟩ := hlead.exists_last hgap
    refine ⟨first ++ gap, part, operands', rfl, reads_of_spelledBy hearlier hg hpart ?_⟩
    rw [← List.append_assoc]
    exact last_any_eq_false hne (fun c hc => isWordCharacter_of_isBlank (hblank c hc)) _

/-- Wherever a covered rule applies, the covering rule does. -/
theorem apply_isSome_of_covers (hearlier : earlier ∈ table) (hlater : later ∈ table)
    (hcovers : earlier.covers later = true) (h : (later.apply text).isSome = true) :
    (earlier.apply text).isSome = true := by
  rw [apply, Option.isSome_map] at h
  obtain ⟨m, hm⟩ := Option.isSome_iff_exists.mp h
  obtain ⟨htext, hreads⟩ := Pattern.readIn_of_mem_findAll (List.mem_of_find?_eq_some hm)
  obtain ⟨skipped, part, operands, hmatched, hpart⟩ :=
    exists_reads_of_covers hearlier hlater hcovers hreads
  have hwords : earlier.unlessAfter = [] := by
    simp only [covers, Bool.and_eq_true, List.isEmpty_iff] at hcovers
    exact hcovers.1.1
  rw [apply, Option.isSome_map, firstMatch_eq_find hwords]
  refine Pattern.occursIn_iff_reads.mpr ⟨m.before ++ skipped, part, m.after, operands, ?_, hpart⟩
  rw [htext, hmatched, ← List.append_assoc]

/-- No phrase is translated by a rule that one of the rules before it covers. -/
theorem ruleId_ne_of_covers {phrase : Text} {t : Translation} (hlater : later ∈ table)
    (hearlier : earlier ∈ table.takeWhile (·.id != later.id))
    (hcovers : earlier.covers later = true) (h : translate phrase = some t) :
    t.ruleId ≠ later.id := by
  obtain ⟨first, rule, rest, htable, happly, hnone⟩ := List.findSome?_eq_some_iff.mp h
  obtain ⟨expression, hexpression, rfl⟩ := Option.map_eq_some_iff.mp happly
  intro hid
  obtain rfl : rule = later := eq_of_id_eq (by rw [htable]; simp) hlater hid
  -- The covering rule is one of those that come before this one and do not apply.
  have hfirst : earlier ∈ first := by
    rw [htable, List.takeWhile_append] at hearlier
    split at hearlier
    · simpa using hearlier
    · exact (List.takeWhile_prefix _).subset hearlier
  have happlies := apply_isSome_of_covers ((List.takeWhile_prefix _).subset hearlier) hlater hcovers
    (Option.isSome_iff_exists.mpr ⟨expression, hexpression⟩)
  have hno : earlier.apply (Text.trim phrase) = none :=
    Option.map_eq_none_iff.mp (hnone earlier hfirst)
  rw [hno] at happlies
  exact Bool.false_ne_true happlies

/-- The rule for the logarithm. -/
def logarithm : TranslationRule := table[12]

/-- The rule for the natural logarithm. -/
def naturalLogarithm : TranslationRule := table[13]

/-- The rule for the logarithm comes before the rule for the natural logarithm and covers it. -/
theorem logarithm_covers_naturalLogarithm :
    logarithm ∈ table.takeWhile (·.id != naturalLogarithm.id) ∧
      logarithm.covers naturalLogarithm = true := by
  exact ⟨by decide, by rfl⟩

/-- No rule but the one for the natural logarithm has the name `ln` in its template. -/
theorem not_infix_ln_of_mem_table (hrule : rule ∈ table) (hid : rule.id ≠ naturalLogarithm.id) :
    ¬ "ln".toList <:+: (fillTemplate rule.template []).filter isLatin := by
  have hall : (table.all fun rule => rule.id == naturalLogarithm.id ||
      !decide ("ln".toList <:+: (fillTemplate rule.template []).filter isLatin)) = true := by
    rfl
  simpa [hid] using List.all_eq_true.mp hall rule hrule

end TranslationRule

/-- The letters of a filled template are those of the template. -/
theorem fillTemplate_filter_isLatin {parts : List TemplatePart} {operands : List Text}
    (hplaces : parts.filterMap TemplatePart.place? = List.range operands.length)
    (hliterals : ∀ operand ∈ operands, IsDecimalLiteral operand) :
    (fillTemplate parts operands).filter isLatin = (fillTemplate parts []).filter isLatin := by
  rw [TemplatePart.fillTemplate_eq_flatMap, TemplatePart.fillTemplate_eq_flatMap,
    List.filter_flatMap, List.filter_flatMap]
  refine List.flatMap_congr fun part hpart => ?_
  cases part with
  | fixed _ => rfl
  | operand index =>
    have hliteral := TemplatePart.isDecimalLiteral_of_mem hplaces hliterals hpart
    refine List.filter_eq_nil_iff.mpr fun c hc hlatin => ?_
    have hmark := isMark_of_isLatin hlatin
    rw [isMark, hliteral.isNumeric c hc, Bool.not_true, Bool.and_false] at hmark
    exact Bool.false_ne_true hmark

open TranslationRule in
/-- The rule for the natural logarithm is dead. Where it applies, the rule for the logarithm applies
too, and comes first. So no phrase is translated by it, and no translation has the name of its
function. -/
theorem natural_logarithm_is_shadowed :
    logarithm.id = "N13" ∧ naturalLogarithm.id = "N14" ∧
    (∀ text, (naturalLogarithm.apply text).isSome = true →
      (logarithm.apply text).isSome = true) ∧
    ∀ phrase t, translate phrase = some t →
      t.ruleId ≠ "N14" ∧ ¬ "ln".toList <:+: t.expression := by
  have hnatural : naturalLogarithm ∈ table := List.getElem_mem _
  have hlogarithm : logarithm ∈ table := List.getElem_mem _
  obtain ⟨hbefore, hcovers⟩ := logarithm_covers_naturalLogarithm
  refine ⟨rfl, rfl, fun text h => apply_isSome_of_covers hlogarithm hnatural hcovers h,
    fun phrase t h => ?_⟩
  have hid : t.ruleId ≠ naturalLogarithm.id := ruleId_ne_of_covers hnatural hbefore hcovers h
  refine ⟨hid, fun hname => ?_⟩
  obtain ⟨rule, operands, hfilled⟩ := exists_filledIn_of_translate h
  have hfound := hfilled.rule_eq
  have hsame : rule.id = t.ruleId :=
    beq_iff_eq.mp (List.find?_some (p := fun r : TranslationRule => r.id == t.ruleId) hfound)
  have hletters := hname.filter isLatin
  rw [hfilled.expression_eq, fillTemplate_filter_isLatin hfilled.places_eq hfilled.literals]
    at hletters
  exact not_infix_ln_of_mem_table (List.mem_of_find?_eq_some hfound) (hsame ▸ hid) hletters

/-- Both rules apply to a phrase for a natural logarithm, and it is translated to the logarithm. -/
theorem natural_log_translated_by_logarithm :
    (TranslationRule.naturalLogarithm.apply "the NATURAL log  10".toList).isSome = true ∧
      (TranslationRule.logarithm.apply "the NATURAL log  10".toList).isSome = true ∧
      translate "the NATURAL log  10".toList = some ⟨"N13", "logarithm", "log(10)".toList⟩ ∧
      ¬ "ln".toList <:+: "log(10)".toList := by
  have hwords : TranslationRule.naturalLogarithm.unlessAfter = [] := rfl
  have happlies :
      (TranslationRule.naturalLogarithm.apply "the NATURAL log  10".toList).isSome = true := by
    rw [TranslationRule.apply, TranslationRule.firstMatch_eq_find hwords]
    rfl
  have htranslate : translate "the NATURAL log  10".toList =
      some ⟨"N13", "logarithm", "log(10)".toList⟩ := by decide +kernel
  obtain ⟨_, _, hshadowed, hnever⟩ := natural_logarithm_is_shadowed
  exact ⟨happlies, hshadowed _ happlies, htranslate, (hnever _ _ htranslate).2⟩

end ExprGate
