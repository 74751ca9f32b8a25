import ExprGate.Proofs.Canonical
import ExprGate.Proofs.ControlCharacters
import ExprGate.Proofs.PhraseBook
import ExprGate.Proofs.Preference

/-!
# The first operand of a phrase between two numbers

The rules for a phrase between two numbers look for nothing before the first one, so what stands
before their match is dropped: words, but also a minus sign, a comma or a point. Matching is
leftmost, however, so no digit is dropped from a number: the first operand is the longest decimal
literal that ends where it ends.
-/

namespace ExprGate

/-- The place in a text with another text in front. -/
def Place.behindOf (t : Text) (s : Place) : Place := { s with behind := s.behind ++ t }

/-- The stations of a text with another one in front are those of the text. -/
theorem Place.stations_behindOf (t : Text) (set : CharSet) (operands : List Stretch)
    (behind ahead : Text) : Place.stations set operands (behind ++ t) ahead =
      (Place.stations set operands behind ahead).map (Place.behindOf t) := by
  induction ahead generalizing behind with
  | nil => rfl
  | cons c rest ih =>
    have hlater := ih (c :: behind)
    rw [List.cons_append] at hlater
    simp only [Place.stations, hlater]
    split <;> rfl

namespace Pattern

variable {p : Pattern} {behind ahead : Text} {m : Match}

/-- What follows the first part of a pattern in two parts. -/
def behindFirst : Pattern → Pattern
  | seq _ q => q
  | p => p

/-- The ends of an unanchored pattern are the same when more text stands in front. -/
theorem ends_behindOf (hp : p.unanchored = true) (t : Text) (s : Place) :
    p.ends (s.behindOf t) = (p.ends s).map (Place.behindOf t) := by
  induction p generalizing s with
  | never | nothing => rfl
  | boundary => exact absurd hp Bool.false_ne_true
  | one set =>
    obtain ⟨behind, ahead, operands⟩ := s
    cases ahead with
    | nil => rfl
    | cons c rest =>
      simp only [ends, Place.step, Place.behindOf]
      split <;> rfl
  | many set =>
    have hstations := Place.stations_behindOf t set s.operands s.behind s.ahead
    exact (congrArg List.reverse hstations).trans List.map_reverse.symm
  | seq p q ihp ihq =>
    obtain ⟨hfirst, hsecond⟩ := (Bool.and_eq_true _ _).mp hp
    simp only [ends, ihp hfirst, List.flatMap_map, List.map_flatMap, ihq hsecond]
  | either p q ihp ihq =>
    obtain ⟨hfirst, hsecond⟩ := (Bool.and_eq_true _ _).mp hp
    simp only [ends, ihp hfirst, ihq hsecond, List.map_append]
  | operand p ih =>
    simp only [ends, ih hp, List.map_map]
    rfl

/-- The match of an unanchored pattern is the same when more text stands in front. -/
theorem matchAt_of_unanchored (hp : p.unanchored = true) (behind ahead : Text) :
    p.matchAt behind ahead =
      (p.matchAt [] ahead).map fun m => { m with before := behind.reverse } := by
  have hends := ends_behindOf hp behind ⟨[], ahead, []⟩
  have hplace : Place.behindOf behind ⟨[], ahead, []⟩ = ⟨behind, ahead, []⟩ := rfl
  rw [hplace] at hends
  rw [matchAt, matchAt, hends, List.head?_map, Option.map_map, Option.map_map]
  rfl

/-- Without the text before it, the leftmost match of an unanchored pattern stays what it is. -/
theorem find_drop_before (hp : p.unanchored = true) {text : Text} (h : p.find text = some m) :
    p.find (m.matched ++ m.after) = some { m with before := [] } := by
  have hhere := matchAt_of_search h
  rw [matchAt_of_unanchored hp, Option.map_eq_some_iff] at hhere
  obtain ⟨first, hfirst, hm⟩ := hhere
  have hbefore : first.before = [] := before_of_matchAt hfirst
  rw [find, search_of_matchAt hfirst, ← hm, ← hbefore]

/-- An unanchored pattern that occurs nowhere in a text does not occur in the end of it. -/
theorem find_eq_none_of_append (hp : p.unanchored = true) {before after : Text}
    (h : p.find (before ++ after) = none) : p.find after = none := by
  rw [← Option.not_isSome_iff_eq_none] at h ⊢
  refine fun hoccurs => h ?_
  obtain ⟨first, m, last, operands, rfl, hreads⟩ := occursIn_iff_reads.mp hoccurs
  exact occursIn_iff_reads.mpr ⟨before ++ first, m, last, operands, by simp,
    reads_of_unanchored hp hreads _ _⟩

/-- The leftmost match begins no later than any reading. -/
theorem length_before_le_of_search {before part after : Text} {operands : List Text}
    (h : p.search behind (before ++ part ++ after) = some m)
    (hreads : p.Reads (before.reverse ++ behind) part after operands) :
    m.before.length ≤ behind.length + before.length := by
  induction before generalizing behind with
  | nil =>
    obtain ⟨e, he, _⟩ := exists_mem_ends_of_reads hreads []
    have hsome := (matchAt_isSome_iff p behind (part ++ after)).mpr ⟨e, he⟩
    obtain ⟨first, hfirst⟩ := Option.isSome_iff_exists.mp hsome
    rw [List.nil_append, search_of_matchAt hfirst] at h
    rw [← Option.some.inj h, before_of_matchAt hfirst, List.length_reverse]
    omega
  | cons c before ih =>
    rw [List.cons_append, List.cons_append, search] at h
    cases hfirst : p.matchAt behind (c :: (before ++ part ++ after)) with
    | some first =>
      rw [hfirst] at h
      rw [← Option.some.inj h, before_of_matchAt hfirst, List.length_reverse]
      omega
    | none =>
      rw [hfirst] at h
      have hle := ih h (by simpa using hreads)
      rw [List.length_cons] at hle ⊢
      omega

/-- If a pattern begins with an operand, no decimal literal that ends where that operand of the
leftmost match ends begins before it. -/
theorem exists_first_operand_of_find {rest : Pattern} {text : Text}
    (h : (seq TranslationRule.decimal rest).find text = some m) :
    ∃ first, m.operands.head? = some first ∧ first <+: m.matched ∧ IsDecimalLiteral first ∧
      ∀ before more, m.before = before ++ more → IsDecimalLiteral (more ++ first) → more = [] := by
  have htext : text = m.before ++ m.matched ++ m.after := (readIn_of_search h).text_eq
  obtain ⟨first, tail, _, others, hmatched, hoperands, hfirst, hrest⟩ := (readIn_of_search h).reads
  obtain ⟨hliteral, rfl⟩ := TranslationRule.isDecimalLiteral_of_reads hfirst
  refine ⟨first, by rw [hoperands]; rfl, ⟨tail, hmatched.symm⟩, hliteral,
    fun before more hbefore hlonger => ?_⟩
  -- With the longer literal the pattern can be read from an earlier place on.
  have hearlier : (seq TranslationRule.decimal rest).Reads before.reverse
      (more ++ first ++ tail) m.after ([more ++ first] ++ others) := by
    refine ⟨more ++ first, tail, _, others, rfl, rfl, reads_decimal_iff.mpr ⟨hlonger, rfl⟩, ?_⟩
    rw [hbefore] at hrest
    simpa using hrest
  have hsplit : text = before ++ (more ++ first ++ tail) ++ m.after := by
    rw [htext, hbefore, hmatched]
    simp
  have hle := length_before_le_of_search (hsplit ▸ h) (by simpa using hearlier)
  rw [hbefore, List.length_append, List.length_nil] at hle
  exact List.eq_nil_of_length_eq_zero (by omega)

end Pattern

/-- The rules for a phrase between two numbers. They come first in the table. -/
def TranslationRule.betweenNumbers : List TranslationRule := table.take 7

/-- The translation of the phrase comes from the match, whose first operand is the given one and is
a whole number of the phrase. -/
structure Translation.OpensWith (phrase : Text) (m : Match) (first : Text) (t : Translation) :
    Prop where
  /-- The rule of the translation finds the match and fills its operands in. -/
  found : ∃ rule ∈ TranslationRule.table, rule.id = t.ruleId ∧ rule.firstMatch phrase = some m ∧
    t.expression = fillTemplate rule.template m.operands
  /-- The match lies in the phrase. -/
  text_eq : phrase = m.before ++ m.matched ++ m.after
  /-- The match begins with the first operand. -/
  begins : m.operands.head? = some first ∧ first <+: m.matched
  /-- The first operand is a decimal literal. -/
  literal : IsDecimalLiteral first
  /-- No digit stands right before it. -/
  no_digit : m.before.getLast?.any Char.isDigit = false
  /-- A point behind a digit stands right before it only if it has a point of its own. -/
  point : ∀ before digit, m.before = before ++ [digit, '.'] → digit.isDigit = true → '.' ∈ first
  /-- What stands before the match, whatever it is, has no part in the translation. -/
  dropped : translate (m.matched ++ m.after) = some t

namespace TranslationRule

/-- A rule between two numbers begins with an operand, asks for no word boundary and heeds no word
before its match. -/
theorem shape_of_mem_betweenNumbers : ∀ rule ∈ betweenNumbers,
    rule ∈ table ∧ (∃ rest, rule.pattern = .seq decimal rest) ∧ rule.pattern.unanchored = true ∧
      rule.unlessAfter = [] := by
  have hall : (betweenNumbers.all fun rule => rule.pattern.unanchored && rule.unlessAfter.isEmpty &&
      rule.pattern == .seq decimal rule.pattern.behindFirst) = true := by rfl
  intro rule hrule
  have hshape := List.all_eq_true.mp hall rule hrule
  simp only [Bool.and_eq_true, List.isEmpty_iff, beq_iff_eq] at hshape
  obtain ⟨⟨hfree, hwords⟩, hbegins⟩ := hshape
  exact ⟨List.mem_of_mem_take hrule, ⟨_, hbegins⟩, hfree, hwords⟩

/-- The match of a rule that heeds no word before it is the leftmost one. -/
theorem firstMatch_eq_find {rule : TranslationRule} (h : rule.unlessAfter = []) (text : Text) :
    rule.firstMatch text = rule.pattern.find text := by
  have hall (m : Match) : (!rule.disqualifies m) = true := by rw [disqualifies, h]; rfl
  rw [firstMatch, ← Pattern.head?_findAll]
  cases rule.pattern.findAll text with
  | nil => rfl
  | cons m later => exact List.find?_cons_of_pos (hall m)

/-- A translation between two numbers is due to a rule between two numbers, and the rules before it
are of that kind too and do not apply. -/
theorem exists_rule_of_translate {phrase : Text} {t : Translation} (h : translate phrase = some t)
    (hid : t.ruleId ∈ betweenNumbers.map TranslationRule.id) :
    ∃ earlier rule later, table = earlier ++ rule :: later ∧ rule ∈ betweenNumbers ∧
      (∀ other ∈ earlier, other ∈ betweenNumbers ∧ other.apply (Text.trim phrase) = none) ∧
      ∃ expression, rule.apply (Text.trim phrase) = some expression ∧
        t = ⟨rule.id, rule.name, expression⟩ := by
  obtain ⟨earlier, rule, later, htable, happly, hnone⟩ := List.findSome?_eq_some_iff.mp h
  obtain ⟨expression, hexpression, rfl⟩ := Option.map_eq_some_iff.mp happly
  have hrule : rule ∈ betweenNumbers := by
    obtain ⟨named, hnamed, hsame⟩ := List.mem_map.mp hid
    have hmem : rule ∈ table := by rw [htable]; simp
    exact eq_of_id_eq hmem (List.mem_of_mem_take hnamed) hsame.symm ▸ hnamed
  refine ⟨earlier, rule, later, htable, hrule, fun other hother => ⟨?_, ?_⟩, expression,
    hexpression, rfl⟩
  · -- Otherwise the rule itself would be among the earlier ones.
    have hearlier : earlier <+: table := ⟨_, htable.symm⟩
    rcases List.prefix_or_prefix_of_prefix hearlier (List.take_prefix 7 table) with hle | hge
    · exact hle.subset hother
    · have hagain := hnone rule (hge.subset hrule)
      rw [happly] at hagain
      cases hagain
  · exact Option.map_eq_none_iff.mp (hnone other hother)

/-- Where a rule between two numbers does not apply, it does not apply to the end of the text. -/
theorem apply_eq_none_of_append {rule : TranslationRule} (hrule : rule ∈ betweenNumbers)
    {before after : Text} (h : rule.apply (before ++ after) = none) : rule.apply after = none := by
  obtain ⟨_, _, hfree, hwords⟩ := shape_of_mem_betweenNumbers rule hrule
  rw [apply, firstMatch_eq_find hwords, Option.map_eq_none_iff] at h ⊢
  exact Pattern.find_eq_none_of_append hfree h

end TranslationRule

/-- A digit before a decimal literal makes a longer one. -/
theorem IsDecimalLiteral.digit_cons {n : Text} (h : IsDecimalLiteral n) {digit : Char}
    (hdigit : digit.isDigit = true) : IsDecimalLiteral (digit :: n) := by
  obtain ⟨whole, hwhole, hcases⟩ := h
  refine ⟨digit :: whole, ⟨List.cons_ne_nil _ _, List.forall_mem_cons.mpr ⟨hdigit, hwhole.2⟩⟩, ?_⟩
  rcases hcases with rfl | ⟨fraction, hfraction, rfl⟩
  · exact .inl rfl
  · exact .inr ⟨fraction, hfraction, rfl⟩

/-- No digit stands right before the leftmost match of a pattern that begins with an operand. -/
theorem Pattern.last_isDigit_eq_false_of_find {rest : Pattern} {text : Text} {m : Match}
    (h : (seq TranslationRule.decimal rest).find text = some m) :
    m.before.getLast?.any Char.isDigit = false := by
  obtain ⟨first, _, _, hliteral, hlongest⟩ := exists_first_operand_of_find h
  rw [Bool.eq_false_iff, ne_eq, Option.any_eq_true]
  rintro ⟨digit, hlast, hdigit⟩
  obtain ⟨before, hbefore⟩ := List.getLast?_eq_some_iff.mp hlast
  exact absurd (hlongest before [digit] hbefore (hliteral.digit_cons hdigit)) (by simp)

/-- A decimal literal without a point is a numeral. -/
theorem IsDecimalLiteral.isNumeral_of_no_point {n : Text} (h : IsDecimalLiteral n)
    (hpoint : '.' ∉ n) : IsNumeral n := by
  obtain ⟨whole, hwhole, rfl | ⟨fraction, _, rfl⟩⟩ := h
  · exact hwhole
  · exact absurd (by simp) hpoint

/-- A numeral behind a digit and a point is the fraction of a decimal literal. -/
theorem IsNumeral.behind_point {n : Text} (h : IsNumeral n) {digit : Char}
    (hdigit : digit.isDigit = true) : IsDecimalLiteral (digit :: '.' :: n) :=
  ⟨[digit], ⟨by simp, by simpa using hdigit⟩, .inr ⟨n, h, rfl⟩⟩

/-- The end of a solid text that begins with a decimal literal is solid. -/
private theorem solid_of_append {before first rest : Text} (hfirst : IsDecimalLiteral first)
    (h : (before ++ (first ++ rest)).Solid) : (first ++ rest).Solid := by
  have hne : first ++ rest ≠ [] := List.append_ne_nil_of_left_ne_nil hfirst.ne_nil rest
  refine ⟨?_, ?_⟩
  · rw [List.head?_append_of_ne_nil _ hfirst.ne_nil]
    exact hfirst.solid.1
  · rw [← List.getLast?_append_of_ne_nil before hne]
    exact h.2

open TranslationRule in
/-- A translation between two numbers opens with a whole number of the phrase, and drops what stands
before it. -/
theorem exists_opensWith_of_translate {phrase : Text} {t : Translation}
    (hsolid : phrase.Solid) (h : translate phrase = some t)
    (hid : t.ruleId ∈ betweenNumbers.map TranslationRule.id) :
    ∃ m first, t.OpensWith phrase m first := by
  obtain ⟨earlier, rule, later, htable, hrule, hearlier, expression, happly, rfl⟩ :=
    exists_rule_of_translate h hid
  rw [Text.trim_eq_self_iff.mpr hsolid] at happly
  obtain ⟨hmem, ⟨rest, hpattern⟩, hfree, hwords⟩ := shape_of_mem_betweenNumbers rule hrule
  obtain ⟨m, hm, rfl⟩ := Option.map_eq_some_iff.mp happly
  rw [firstMatch_eq_find hwords] at hm
  have htext : phrase = m.before ++ m.matched ++ m.after := (Pattern.readIn_of_search hm).text_eq
  obtain ⟨first, hhead, hbegins, hliteral, hlongest⟩ :=
    Pattern.exists_first_operand_of_find (hpattern ▸ hm)
  refine ⟨m, first, ⟨rule, hmem, rfl, firstMatch_eq_find hwords _ ▸ hm, rfl⟩, htext,
    ⟨hhead, hbegins⟩, hliteral, Pattern.last_isDigit_eq_false_of_find (hpattern ▸ hm),
    fun before digit hbefore hdigit => ?_, ?_⟩
  · by_contra hpoint
    have hlonger := (hliteral.isNumeral_of_no_point hpoint).behind_point hdigit
    exact absurd (hlongest before [digit, '.'] hbefore hlonger) (by simp)
  · have hend : Text.trim (m.matched ++ m.after) = m.matched ++ m.after := by
      obtain ⟨tail, hmatched⟩ := hbegins
      rw [htext, ← hmatched, List.append_assoc, List.append_assoc] at hsolid
      rw [Text.trim_eq_self_iff, ← hmatched, List.append_assoc]
      exact solid_of_append hliteral hsolid
    have happly' : rule.apply (m.matched ++ m.after) =
        some (fillTemplate rule.template m.operands) := by
      rw [apply, firstMatch_eq_find hwords, Pattern.find_drop_before hfree hm]
      rfl
    rw [translate, List.findSome?_eq_some_iff]
    refine ⟨earlier, rule, later, htable, by rw [hend, happly']; rfl, fun other hother => ?_⟩
    obtain ⟨hother, hnone⟩ := hearlier other hother
    rw [Text.trim_eq_self_iff.mpr hsolid, htext, List.append_assoc] at hnone
    rw [hend, apply_eq_none_of_append hother hnone]
    rfl

/-- The first operand of every translation between two numbers is a number of the phrase with all
its digits: no digit stands right before the match, and a point that follows a digit does only if
the operand has a point of its own. A minus sign, a comma or any other point that stands there is
dropped with the rest of the text before the match, which has no part in the translation. -/
theorem first_operand_is_whole_number {policy : Policy} {input : Text} {t : Translation}
    (h : parsePhrase policy input = .ok t)
    (hid : t.ruleId ∈ ["N1", "N2", "N3", "N4", "N5", "N6", "N7"]) :
    ∃ m first, t.OpensWith (sanitize input) m first := by
  obtain ⟨_, _, _, _, _, htranslate, _⟩ := parsePhrase_eq_ok_iff.mp h
  exact exists_opensWith_of_translate (Text.solid_trim _) htranslate hid

/-- Sums behind a minus sign, a point and a comma are translated without it. -/
private theorem translate_marked :
    translate "-5 plus 3".toList = some ⟨"N3", "addition", "5 + 3".toList⟩ ∧
    translate ".5 plus 3".toList = some ⟨"N3", "addition", "5 + 3".toList⟩ ∧
    translate "1,000 plus 3".toList = some ⟨"N3", "addition", "000 + 3".toList⟩ := by
  decide +kernel

/-- A thousand with a comma is translated with the three digits behind the comma, which are the
whole number that the match opens with. -/
theorem thousand_opens_behind_comma :
    parsePhrase .standard "1,000 plus 3".toList =
        .ok ⟨"N3", "addition", "000 + 3".toList⟩ ∧
      ∃ m first, Translation.OpensWith (sanitize "1,000 plus 3".toList) m first
        ⟨"N3", "addition", "000 + 3".toList⟩ := by
  have hparse : parsePhrase .standard "1,000 plus 3".toList =
      .ok ⟨"N3", "addition", "000 + 3".toList⟩ :=
    parsePhrase_eq_ok_iff.mpr
      ⟨by decide, by decide, by rfl, by rfl, by rfl, translate_marked.2.2, by rfl⟩
  exact ⟨hparse, first_operand_is_whole_number hparse (by decide)⟩

/-- A minus sign, a point or a comma can stand right before the match, which then leaves it out of
the first operand. -/
theorem sign_point_and_comma_dropped :
    (parsePhrase .standard "-5 plus 3".toList = .ok ⟨"N3", "addition", "5 + 3".toList⟩ ∧
      TranslationRule.table[2].firstMatch (sanitize "-5 plus 3".toList) =
        some ⟨['-'], "5 plus 3".toList, [], [['5'], ['3']]⟩) ∧
    (parsePhrase .standard ".5 plus 3".toList = .ok ⟨"N3", "addition", "5 + 3".toList⟩ ∧
      TranslationRule.table[2].firstMatch (sanitize ".5 plus 3".toList) =
        some ⟨['.'], "5 plus 3".toList, [], [['5'], ['3']]⟩) ∧
    (parsePhrase .standard "1,000 plus 3".toList = .ok ⟨"N3", "addition", "000 + 3".toList⟩ ∧
      TranslationRule.table[2].firstMatch (sanitize "1,000 plus 3".toList) =
        some ⟨['1', ','], "000 plus 3".toList, [], ["000".toList, ['3']]⟩) := by
  have hwords : TranslationRule.table[2].unlessAfter = [] := rfl
  obtain ⟨hminus, hpoint, hcomma⟩ := translate_marked
  refine ⟨⟨parsePhrase_eq_ok_iff.mpr ?_, ?_⟩, ⟨parsePhrase_eq_ok_iff.mpr ?_, ?_⟩,
    ⟨parsePhrase_eq_ok_iff.mpr ?_, ?_⟩⟩
  · exact ⟨by decide, by decide, by rfl, by rfl, by rfl, hminus, by rfl⟩
  · exact (TranslationRule.firstMatch_eq_find hwords _).trans (by rfl)
  · exact ⟨by decide, by decide, by rfl, by rfl, by rfl, hpoint, by rfl⟩
  · exact (TranslationRule.firstMatch_eq_find hwords _).trans (by rfl)
  · exact ⟨by decide, by decide, by rfl, by rfl, by rfl, hcomma, by rfl⟩
  · exact (TranslationRule.firstMatch_eq_find hwords _).trans (by rfl)

end ExprGate
