import ExprGate.Proofs.WholeOperands

/-!
# Phrases between two numbers in a context

What a rule for a phrase between two numbers reads begins and ends with a digit. Text without digits
around the phrase therefore adds nothing to read: no match begins in it and none goes on into it,
whatever words, signs or other phrases it has. Up to the last digit the matcher sees the same
characters, and asks for no word boundary, so it finds the same ends in the same order. The rules of
this kind come first in the table, hence the context has no part in their translations.
-/

namespace ExprGate

/-- The occurrence with more text before it and after it. -/
def Match.within (before after : Text) (m : Match) : Match :=
  { m with before := before ++ m.before, after := m.after ++ after }

namespace Pattern

/-- A pattern with a decimal literal as its last part reads texts that end with a digit. -/
theorem exists_last_digit_of_endsWithDecimal {p : Pattern} {behind m after : Text}
    {operands : List Text} (hp : p.endsWithDecimal = true) (h : p.Reads behind m after operands) :
    ∃ init digit, m = init ++ [digit] ∧ digit.isDigit = true := by
  induction p generalizing behind m after operands with
  | never | nothing | boundary | one _ | many _ | either _ _ => exact absurd hp Bool.false_ne_true
  | seq p q ihp ihq =>
    simp only [endsWithDecimal, Bool.or_eq_true, Bool.and_eq_true, beq_iff_eq] at hp
    obtain ⟨m₁, m₂, _, _, rfl, _, hfirst, hsecond⟩ := h
    rcases hp with hq | ⟨rfl, hp⟩
    · obtain ⟨init, digit, rfl, hdigit⟩ := ihq hq hsecond
      exact ⟨m₁ ++ init, digit, by simp, hdigit⟩
    · obtain ⟨rfl, _⟩ := hsecond
      obtain ⟨init, digit, rfl, hdigit⟩ := ihp hp hfirst
      exact ⟨init, digit, by simp, hdigit⟩
  | operand p =>
    have hdecimal : operand p = TranslationRule.decimal := beq_iff_eq.mp hp
    exact (TranslationRule.isDecimalLiteral_of_reads (hdecimal ▸ h)).1.exists_last_digit

/-- The pattern goes from one decimal literal to another and never asks for a word boundary. -/
structure SpansNumbers (p : Pattern) : Prop where
  /-- The pattern asks for no word boundary. -/
  unanchored : p.unanchored = true
  /-- The first part is a decimal literal. -/
  begins : ∃ rest, p = seq TranslationRule.decimal rest
  /-- The last part is a decimal literal. -/
  closes : p.endsWithDecimal = true

namespace SpansNumbers

variable {p : Pattern} (hp : p.SpansNumbers) {s e : Place} {behind ahead before after : Text}
include hp

/-- A match begins only where a digit lies ahead. -/
theorem digitAhead_of_mem_ends (h : e ∈ p.ends s) : s.digitAhead = true := by
  obtain ⟨rest, rfl⟩ := hp.begins
  obtain ⟨m, _, hpasses, _, first, tail, _, _, rfl, _, hfirst, _⟩ := reads_of_mem_ends h
  obtain ⟨digit, others, rfl, hdigit⟩ :=
    (TranslationRule.isDecimalLiteral_of_reads hfirst).1.exists_first_digit
  have hahead : s.ahead = digit :: others ++ tail ++ e.ahead := hpasses.1
  rw [Place.digitAhead, hahead]
  exact hdigit

/-- Where no digit lies ahead nothing is matched. -/
theorem matchAt_eq_none (h : ahead.head?.any Char.isDigit = false) :
    p.matchAt behind ahead = none := by
  rw [← Option.not_isSome_iff_eq_none, matchAt_isSome_iff]
  rintro ⟨e, he⟩
  have hdigit : ahead.head?.any Char.isDigit = true := hp.digitAhead_of_mem_ends he
  exact Bool.false_ne_true (h.symm.trans hdigit)

/-- A search passes over text without digits. -/
theorem search_append (hbefore : ∀ c ∈ before, c.isDigit = false) (behind ahead : Text) :
    p.search behind (before ++ ahead) = p.search (before.reverse ++ behind) ahead := by
  induction before generalizing behind with
  | nil => rfl
  | cons c before ih =>
    obtain ⟨hc, hlater⟩ := List.forall_mem_cons.mp hbefore
    have hnone : p.matchAt behind (c :: (before ++ ahead)) = none := hp.matchAt_eq_none hc
    rw [List.cons_append, search, hnone]
    simpa using ih hlater (c :: behind)

/-- In text without digits nothing is found. -/
theorem search_eq_none (h : ∀ c ∈ ahead, c.isDigit = false) : p.search behind ahead = none := by
  have hpassed := hp.search_append h behind []
  rw [List.append_nil] at hpassed
  rw [hpassed]
  exact hp.matchAt_eq_none rfl

section Followed

variable (hafter : ∀ c ∈ after, c.isDigit = false)
include hafter

/-- No match goes on into text without digits. -/
theorem reachesAt_of_mem_ends (h : e ∈ p.ends (s.followedBy after)) :
    e.reachesAt after = true := by
  obtain ⟨m, _, hpasses, _, hreads⟩ := reads_of_mem_ends h
  obtain ⟨init, digit, rfl, hdigit⟩ := exists_last_digit_of_endsWithDecimal hp.closes hreads
  have hahead : s.ahead ++ after = init ++ [digit] ++ e.ahead := hpasses.1
  rw [Place.reachesAt, decide_eq_true_eq]
  by_contra hshort
  -- The last digit of the match would be a character of the text after it.
  have hrest : [digit] ++ e.ahead <:+ s.ahead ++ after := ⟨init, by simp [hahead]⟩
  have hsuffix : [digit] ++ e.ahead <:+ after := by
    refine List.suffix_of_suffix_length_le hrest (List.suffix_append _ _) ?_
    simp only [List.length_append, List.length_singleton]
    omega
  have hmem : digit ∈ after := hsuffix.subset (by simp)
  exact Bool.false_ne_true ((hafter digit hmem).symm.trans hdigit)

/-- The ends are the same, in the same order, when text without digits follows. -/
theorem ends_followedBy (s : Place) :
    p.ends (s.followedBy after) = (p.ends s).map (Place.followedBy after) := by
  rw [← filter_ends_followedBy hp.unanchored, List.filter_eq_self.mpr]
  exact fun e he => hp.reachesAt_of_mem_ends hafter he

/-- The preferred match at a place is the same when text without digits follows. -/
theorem matchAt_append (behind ahead : Text) : p.matchAt behind (ahead ++ after) =
    (p.matchAt behind ahead).map fun m => { m with after := m.after ++ after } := by
  have hends := hp.ends_followedBy hafter ⟨behind, ahead, []⟩
  have hplace : Place.followedBy after ⟨behind, ahead, []⟩ = ⟨behind, ahead ++ after, []⟩ := rfl
  rw [matchAt, matchAt, ← hplace, hends, List.head?_map, Option.map_map, Option.map_map]
  congr 1
  funext e
  exact Match.between_followedBy after ⟨behind, ahead, []⟩ e

/-- The preferred match at a place is the same in a context. -/
theorem matchAt_within (before behind ahead : Text) :
    p.matchAt (behind ++ before.reverse) (ahead ++ after) =
      (p.matchAt behind ahead).map (Match.within before after) := by
  rw [matchAt_of_unanchored hp.unanchored, hp.matchAt_append hafter,
    matchAt_of_unanchored hp.unanchored behind, Option.map_map, Option.map_map]
  congr 1
  funext m
  simp [Match.within]

/-- The leftmost match is the same in a context. -/
theorem search_within (before behind ahead : Text) :
    p.search (behind ++ before.reverse) (ahead ++ after) =
      (p.search behind ahead).map (Match.within before after) := by
  induction ahead generalizing behind with
  | nil =>
    have hnone : p.search behind [] = none := hp.search_eq_none (by simp)
    rw [List.nil_append, hp.search_eq_none hafter, hnone, Option.map_none]
  | cons c rest ih =>
    have hhere := hp.matchAt_within hafter before behind (c :: rest)
    rw [List.cons_append] at hhere
    rw [List.cons_append, search, search, hhere]
    cases p.matchAt behind (c :: rest) with
    | some m => rfl
    | none => exact ih (c :: behind)

/-- Text without digits around a text changes nothing about the leftmost match in it. -/
theorem find_within (hbefore : ∀ c ∈ before, c.isDigit = false) (text : Text) :
    p.find (before ++ text ++ after) = (p.find text).map (Match.within before after) := by
  have hpassed := hp.search_append hbefore [] (text ++ after)
  rw [find, find, List.append_assoc, hpassed]
  simpa using hp.search_within hafter before [] text

end Followed

end SpansNumbers

end Pattern

namespace TranslationRule

/-- The rules between two numbers span them. -/
theorem spansNumbers_of_mem_betweenNumbers {rule : TranslationRule}
    (hrule : rule ∈ betweenNumbers) : rule.pattern.SpansNumbers := by
  obtain ⟨hmem, hbegins, hfree, _⟩ := shape_of_mem_betweenNumbers rule hrule
  exact ⟨hfree, hbegins, (keepsOperandsApart_of_mem_table rule hmem).1⟩

/-- Text without digits around a text makes no difference to what a rule between two numbers gives
for it. -/
theorem apply_within {rule : TranslationRule} (hrule : rule ∈ betweenNumbers)
    {before after : Text} (hbefore : ∀ c ∈ before, c.isDigit = false)
    (hafter : ∀ c ∈ after, c.isDigit = false) (text : Text) :
    rule.apply (before ++ text ++ after) = rule.apply text := by
  obtain ⟨_, _, _, hwords⟩ := shape_of_mem_betweenNumbers rule hrule
  rw [apply, apply, firstMatch_eq_find hwords, firstMatch_eq_find hwords,
    (spansNumbers_of_mem_betweenNumbers hrule).find_within hafter hbefore, Option.map_map]
  rfl

/-- It makes no difference to a rule between two numbers whether the text is trimmed. -/
theorem apply_trim {rule : TranslationRule} (hrule : rule ∈ betweenNumbers) (text : Text) :
    rule.apply (Text.trim text) = rule.apply text := by
  obtain ⟨before, after, htext, hbefore, hafter⟩ := Text.exists_trim text
  have hwithin := apply_within hrule (fun c hc => isDigit_eq_false_of_isBlank (hbefore c hc))
    (fun c hc => isDigit_eq_false_of_isBlank (hafter c hc)) (Text.trim text)
  rw [← htext] at hwithin
  exact hwithin.symm

/-- A translation between two numbers is that of every phrase for which the rules of this kind give
the same notation, or none. -/
theorem translate_congr {phrase other : Text} {t : Translation}
    (hsame : ∀ rule ∈ betweenNumbers, rule.apply (Text.trim phrase) = rule.apply (Text.trim other))
    (hid : t.ruleId ∈ betweenNumbers.map TranslationRule.id) (h : translate phrase = some t) :
    translate other = some t := by
  obtain ⟨earlier, rule, later, htable, hrule, hearlier, expression, happly, rfl⟩ :=
    exists_rule_of_translate h hid
  refine List.findSome?_eq_some_iff.mpr ⟨earlier, rule, later, htable, ?_, fun first hfirst => ?_⟩
  · rw [← hsame rule hrule, happly, Option.map_some]
  · obtain ⟨hbetween, hnone⟩ := hearlier first hfirst
    rw [← hsame first hbetween, hnone, Option.map_none]

end TranslationRule

open TranslationRule in
/-- What stands around a phrase between two numbers has no part in its translation. Put between
texts without digits, whatever else they have, the phrase is translated by one of the rules between
two numbers exactly when it is by itself, by the same rule and to the same notation. -/
theorem surrounding_words_are_discarded {before phrase after : Text} {t : Translation}
    (hbefore : ∀ c ∈ before, c.isDigit = false) (hafter : ∀ c ∈ after, c.isDigit = false)
    (hid : t.ruleId ∈ ["N1", "N2", "N3", "N4", "N5", "N6", "N7"]) :
    translate (before ++ phrase ++ after) = some t ↔ translate phrase = some t := by
  have hsame : ∀ rule ∈ betweenNumbers,
      rule.apply (Text.trim (before ++ phrase ++ after)) = rule.apply (Text.trim phrase) := by
    intro rule hrule
    rw [apply_trim hrule, apply_within hrule hbefore hafter, apply_trim hrule]
  constructor
  · exact translate_congr hsame hid
  · exact translate_congr (fun rule hrule => (hsame rule hrule).symm) hid

/-- A share is translated the same behind words of other rules, a percent sign and a minus sign, and
before the beginning of a sum. -/
theorem share_translated_in_context :
    (∀ c ∈ "minus the root of times % of - ".toList, c.isDigit = false) ∧
      (∀ c ∈ ". plus log, percent of".toList, c.isDigit = false) ∧
      translate "12.5% of 80".toList = some ⟨"N1", "percent of", "(12.5 / 100) * 80".toList⟩ ∧
      translate ("minus the root of times % of - ".toList ++ "12.5% of 80".toList ++
          ". plus log, percent of".toList) =
        some ⟨"N1", "percent of", "(12.5 / 100) * 80".toList⟩ := by
  have hfirst : ("minus the root of times % of - ".toList.all fun c => !c.isDigit) = true := by rfl
  have hlast : (". plus log, percent of".toList.all fun c => !c.isDigit) = true := by rfl
  have hbefore : ∀ c ∈ "minus the root of times % of - ".toList, c.isDigit = false :=
    fun c hc => (Bool.not_eq_true' _).mp (List.all_eq_true.mp hfirst c hc)
  have hafter : ∀ c ∈ ". plus log, percent of".toList, c.isDigit = false :=
    fun c hc => (Bool.not_eq_true' _).mp (List.all_eq_true.mp hlast c hc)
  refine ⟨hbefore, hafter, translate_share, ?_⟩
  exact (surrounding_words_are_discarded hbefore hafter (by decide)).mpr translate_share

end ExprGate
