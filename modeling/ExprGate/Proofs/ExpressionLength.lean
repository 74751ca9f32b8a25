import ExprGate.Proofs.ControlCharacters
import ExprGate.Proofs.PhraseBook
import Mathlib.Algebra.GroupWithZero.Nat

/-!
# The length of what is dispatched

A translation is never measured again, and it can be longer than its phrase: a share is written with
eleven characters besides its two numbers, and read from as little as one. Its numbers stand in the
phrase as they are, so what a translation adds is the fixed part of the template, less what every
wording of the rule has besides the numbers. For no rule is that more than ten characters, which
bounds every expression that is dispatched by the bounds on the input.
-/

namespace ExprGate

namespace Wording

variable {w : Wording} {t : Text} {numbers : List Text}

/-- The number of parts besides the numbers, each of which takes at least one character. -/
def fixedLength : Wording → Nat
  | [] => 0
  | .number :: rest => fixedLength rest
  | .letter _ :: rest | .blanks :: rest => fixedLength rest + 1

/-- A spelling has room for its numbers and for every other part of the wording. -/
theorem SpelledBy.length_le (h : SpelledBy w t numbers) :
    w.fixedLength + (numbers.map List.length).sum ≤ t.length := by
  induction w generalizing t numbers with
  | nil =>
    obtain ⟨_, rfl⟩ := h
    exact Nat.zero_le _
  | cons part w ih =>
    obtain ⟨t₁, t₂, numbers₁, numbers₂, rfl, rfl, hfits, hrest⟩ := h
    have hlater := ih hrest
    have hpositive : 0 < t₁.length := List.length_pos_iff.mpr hfits.ne_nil
    rw [List.length_append]
    cases part with
    | letter c | blanks =>
      obtain ⟨_, rfl⟩ := hfits
      rw [fixedLength, List.nil_append]
      omega
    | number =>
      obtain ⟨_, rfl⟩ := hfits
      rw [fixedLength, List.singleton_append, List.map_cons, List.sum_cons]
      omega

end Wording

namespace TemplatePart

variable {parts : List TemplatePart} {operands : List Text}

/-- The number of characters of a template besides the operands. -/
def fixedLength : List TemplatePart → Nat
  | [] => 0
  | fixed t :: rest => t.length + fixedLength rest
  | operand _ :: rest => fixedLength rest

/-- A filled template has its fixed characters and those of the operands in its places. -/
theorem length_fillTemplate (parts : List TemplatePart) (operands : List Text) :
    (fillTemplate parts operands).length = fixedLength parts +
      ((parts.filterMap place?).map fun index => (operands.getD index []).length).sum := by
  induction parts with
  | nil => rfl
  | cons part parts ih =>
    rw [fillTemplate_eq_flatMap] at ih ⊢
    rw [List.flatMap_cons, List.length_append, ih]
    cases part with
    | fixed t =>
      rw [List.filterMap_cons_none rfl, fixedLength, fill, String.length_toList, Nat.add_assoc]
    | operand index =>
      have hplace : (operand index :: parts).filterMap place? = index :: parts.filterMap place? :=
        List.filterMap_cons_some rfl
      rw [hplace, List.map_cons, List.sum_cons, fixedLength, fill]
      omega

/-- A template with one place for each operand is as long as its fixed characters and the operands
together. -/
theorem length_fillTemplate_of_places
    (hplaces : parts.filterMap place? = List.range operands.length) :
    (fillTemplate parts operands).length =
      fixedLength parts + (operands.map List.length).sum := by
  have hall : (List.range operands.length).map (fun index => (operands.getD index []).length) =
      operands.map List.length := by
    refine List.ext_getElem (by simp) fun index _ hindex => ?_
    rw [List.length_map] at hindex
    simp [hindex]
  rw [length_fillTemplate, hplaces, hall]

end TemplatePart

/-- No template has more than ten fixed characters more than a wording of its rule. -/
theorem fixedLength_le_of_mem_table : ∀ rule ∈ TranslationRule.table, ∀ w ∈ wordingsOf rule.id,
    TemplatePart.fixedLength rule.template ≤ w.fixedLength + 10 := by
  have hall : (TranslationRule.table.all fun rule => (wordingsOf rule.id).all fun w =>
      TemplatePart.fixedLength rule.template ≤ w.fixedLength + 10) = true := by rfl
  intro rule hrule w hw
  exact of_decide_eq_true (List.all_eq_true.mp (List.all_eq_true.mp hall rule hrule) w hw)

/-- A translation is at most ten characters longer than its phrase. -/
theorem length_expression_le {phrase : Text} {t : Translation} (h : translate phrase = some t) :
    t.expression.length ≤ phrase.length + 10 := by
  obtain ⟨rule, hrule, m, hm, rfl⟩ := exists_match_of_translate h
  obtain ⟨htext, hreads⟩ := Pattern.readIn_of_mem_findAll hm
  obtain ⟨⟨w, hw, hspelled⟩, _⟩ := (TranslationRule.reads_iff_spelledBy hrule).mp hreads
  obtain ⟨n, hcount, hplaces⟩ := decimalCount_of_mem_table rule hrule
  obtain ⟨rfl, _, _⟩ := Pattern.operands_of_reads hcount hreads
  have hmatched : m.matched.length ≤ (Text.trim phrase).length := by
    have hlength := congrArg List.length htext
    simp only [List.length_append] at hlength
    omega
  calc (fillTemplate rule.template m.operands).length
      = TemplatePart.fixedLength rule.template + (m.operands.map List.length).sum :=
        TemplatePart.length_fillTemplate_of_places hplaces
    _ ≤ w.fixedLength + 10 + (m.operands.map List.length).sum :=
        Nat.add_le_add_right (fixedLength_le_of_mem_table rule hrule w hw) _
    _ = w.fixedLength + (m.operands.map List.length).sum + 10 := Nat.add_right_comm _ _ _
    _ ≤ m.matched.length + 10 := Nat.add_le_add_right hspelled.length_le 10
    _ ≤ (Text.trim phrase).length + 10 := Nat.add_le_add_right hmatched 10
    _ ≤ phrase.length + 10 := Nat.add_le_add_right (Text.length_trim_le phrase) 10

/-- The length of an admitted expression is bounded by the policy, depending on its route. -/
structure Admission.WithinBounds (policy : Policy) (a : Admission) : Prop where
  /-- As notation it is within the bound for expressions. -/
  strict : a.route = .strictMath → a.expression.length ≤ policy.expressionMaxLen
  /-- As a translation it exceeds neither of the two bounds by more than ten characters. -/
  translated : a.route = .naturalLanguage → a.expression.length ≤
    min policy.naturalLanguageMaxLen policy.expressionMaxLen + 10
  /-- Where the bound for phrases keeps that distance, it is within the bound for expressions. -/
  spaced : policy.naturalLanguageMaxLen + 10 ≤ policy.expressionMaxLen →
    a.expression.length ≤ policy.expressionMaxLen

/-- Every admitted expression is bounded in length by the policy. -/
theorem withinBounds_of_admitted {policy : Policy} {allowPhrases : Bool} {input : Text}
    {admission : Admission} (h : admitExpression policy allowPhrases input = .ok admission) :
    admission.WithinBounds policy := by
  obtain ⟨hlength, _, htaken, _⟩ := admitExpression_eq_ok_iff.mp h
  have htrim : (Text.trim input).length ≤ policy.expressionMaxLen :=
    (Text.length_trim_le input).trans hlength
  rcases interpretInput_eq_ok_iff.mp htaken with ⟨_, rfl⟩ | ⟨_, t, ht, rfl⟩
  · exact ⟨fun _ => htrim, fun hroute => Route.noConfusion hroute, fun _ => htrim⟩
  · obtain ⟨hphrase, _, _, _, _, htranslate, _⟩ := parsePhrase_eq_ok_iff.mp ht
    have hexpression : t.admission.expression.length ≤ (Text.trim input).length + 10 :=
      (length_expression_le htranslate).trans
        (Nat.add_le_add_right (length_sanitize_le (Text.trim input)) 10)
    have hbound : t.admission.expression.length ≤
        min policy.naturalLanguageMaxLen policy.expressionMaxLen + 10 :=
      hexpression.trans (Nat.add_le_add_right (Nat.le_min.mpr ⟨hphrase, htrim⟩) 10)
    refine ⟨fun hroute => Route.noConfusion hroute, fun _ => hbound, fun hspaced => ?_⟩
    exact hbound.trans ((Nat.add_le_add_right (Nat.min_le_left _ _) 10).trans hspaced)

/-- What is dispatched is bounded in length. A translation is at most ten characters longer than its
phrase. An admitted expression is within the bound for expressions if it is taken as notation, and
exceeds the smaller one of the two bounds by at most ten characters if it is a translation. So it is
within the bound for expressions wherever the bound for phrases is smaller by ten, as it is in the
standard policy. -/
theorem dispatched_length_is_bounded :
    (∀ (phrase : Text) (t : Translation), translate phrase = some t →
      t.expression.length ≤ phrase.length + 10) ∧
    (∀ (policy : Policy) (allowPhrases : Bool) (input : Text) (admission : Admission),
      admitExpression policy allowPhrases input = .ok admission →
        admission.WithinBounds policy) ∧
    Policy.standard.naturalLanguageMaxLen + 10 ≤ Policy.standard.expressionMaxLen :=
  ⟨fun _ _ => length_expression_le, fun _ _ _ _ => withinBounds_of_admitted, by decide⟩

/-- The shortest share of all is translated to an expression that is longer by ten characters. An
admitted one exceeds a bound of five characters. -/
theorem shortest_share_reaches_bound :
    translate "5%5".toList = some ⟨"N2", "percent", "(5 / 100) * 5".toList⟩ ∧
      "(5 / 100) * 5".toList.length ≤ "5%5".toList.length + 10 ∧
      "5%5".toList.length + 10 ≤ "(5 / 100) * 5".toList.length ∧
      admitExpression ⟨5, 5⟩ true "5%of5".toList =
        .ok ⟨"(5 / 100) * 5".toList, .naturalLanguage, some "N1"⟩ ∧
      Admission.WithinBounds ⟨5, 5⟩ ⟨"(5 / 100) * 5".toList, .naturalLanguage, some "N1"⟩ := by
  have htranslate : translate "5%5".toList =
      some ⟨"N2", "percent", "(5 / 100) * 5".toList⟩ := by decide +kernel
  have haccepted : admitExpression ⟨5, 5⟩ true "5%of5".toList =
      .ok ⟨"(5 / 100) * 5".toList, .naturalLanguage, some "N1"⟩ := by decide +kernel
  exact ⟨htranslate, dispatched_length_is_bounded.1 _ _ htranslate, by decide, haccepted,
    dispatched_length_is_bounded.2.1 _ _ _ _ haccepted⟩

end ExprGate
