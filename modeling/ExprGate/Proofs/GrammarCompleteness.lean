import ExprGate.Proofs.Preference
import ExprGate.Proofs.Reach

/-!
# Completeness of the grammar

Every spelling of every wording of the phrase book is translated, by the rule whose wording it is,
with the numbers of the spelling in its template. Only the phrases of the rule for the natural
logarithm go to the rule for the logarithm, which finds a wording of its own at the end of each of
them. The rules that come before the answering one are out of reach.
-/

namespace ExprGate

open Wording

/-- A place with a letter ahead and no word character behind is a word boundary. -/
theorem Place.atBoundary_of_isLatin {before ahead : Text} {operands : List Stretch}
    (hbefore : before.getLast?.any isWordCharacter = false)
    (hahead : ahead.head?.any isLatin = true) :
    Place.atBoundary ⟨before.reverse, ahead, operands⟩ = true := by
  cases ahead with
  | nil => exact absurd hahead Bool.false_ne_true
  | cons c ahead =>
    have hword : isWordCharacter c = true := isWordCharacter_of_isLatin hahead
    rw [Place.atBoundary_cons_iff hword, List.head?_reverse]
    exact hbefore

/-- What is spelled by parts that begin with a letter a to z begins with a letter. -/
theorem Wording.SpelledBy.head_isLatin {w : Wording} {t : Text} {numbers : List Text}
    (h : w.SpelledBy t numbers) (hw : w.head?.any WordingPart.isLatinLetter = true) :
    t.head?.any isLatin = true := by
  cases w with
  | nil => exact absurd hw Bool.false_ne_true
  | cons part w =>
    obtain ⟨c, rest, rfl, hc⟩ := h.exists_head
    exact WordingPart.isLatin_of_covers hw hc

namespace TranslationRule

variable {rule : TranslationRule} {w g : Wording} {t before m after : Text} {found : Match}
  {numbers operands : List Text}

/-- A rule reads the spellings of its wordings wherever no word character stands before them. -/
theorem reads_of_spelledBy (hrule : rule ∈ table) (hg : g ∈ wordingsOf rule.id)
    (h : g.SpelledBy m operands) (hbefore : before.getLast?.any isWordCharacter = false) :
    rule.pattern.Reads before.reverse m after operands := by
  refine (reads_iff_spelledBy hrule).mpr ⟨⟨g, hg, h⟩, fun hanchored => ?_⟩
  have hbegins := (begins_of_mem_wordingsOf hrule hg).2
  rw [if_pos hanchored] at hbegins
  refine Place.atBoundary_of_isLatin hbefore ?_
  have hhead := h.head_isLatin hbegins
  have hne : m ≠ [] := by
    rintro rfl
    exact Bool.false_ne_true hhead
  rwa [List.head?_append_of_ne_nil _ hne]

/-- A rule reads a whole text exactly when the text spells one of its wordings. -/
theorem reads_whole_iff (hrule : rule ∈ table) : rule.pattern.Reads [] t [] numbers ↔
    ∃ w ∈ wordingsOf rule.id, w.SpelledBy t numbers := by
  constructor
  · intro hreads
    exact ((reads_iff_spelledBy hrule).mp hreads).1
  · rintro ⟨w, hw, h⟩
    have hreads : rule.pattern.Reads (List.reverse []) t [] numbers :=
      reads_of_spelledBy hrule hw h rfl
    exact hreads

/-- In a spelling of one of its own wordings, a rule has its first match at the start. -/
theorem exists_find_of_mem_wordingsOf (hrule : rule ∈ table) (hw : w ∈ wordingsOf rule.id)
    (h : w.SpelledBy t numbers) :
    ∃ found, rule.pattern.find t = some found ∧ found.before = [] := by
  have hreads : rule.pattern.Reads (List.reverse []) t [] numbers :=
    (reads_whole_iff hrule).mpr ⟨w, hw, h⟩
  obtain ⟨found, hfound⟩ := Pattern.exists_find_of_reads hreads
  obtain ⟨e, he, _⟩ := Pattern.exists_mem_ends_of_reads hreads []
  rw [List.nil_append, List.append_nil] at hfound
  rw [List.append_nil] at he
  exact ⟨found, hfound, Pattern.before_eq_nil_of_find hfound he⟩

/-- In a spelling that ends with one of its wordings, after a gap, a rule has a match. -/
theorem exists_find_of_append (hrule : rule ∈ table) (hg : g ∈ wordingsOf rule.id)
    (hgap : w.getLast? = some .blanks) (h : SpelledBy (w ++ g) t numbers) :
    ∃ found, rule.pattern.find t = some found := by
  obtain ⟨before, m, _, operands, rfl, _, hbefore, hm⟩ := spelledBy_append.mp h
  have hlast : before.getLast?.any isWordCharacter = false :=
    hbefore.last_eq_false_of_gap (fun _ => isWordCharacter_of_isBlank) (Or.inr hgap)
  have hreads : rule.pattern.Reads before.reverse m [] operands :=
    reads_of_spelledBy hrule hg hm hlast
  obtain ⟨found, hfound⟩ := Pattern.exists_find_of_reads hreads
  rw [List.append_nil] at hfound
  exact ⟨found, hfound⟩

/-- The first match takes all numbers of a spelling as its operands, when they are as many as those
of the rule and the spelling of some parts begins with the match. -/
theorem operands_eq_of_find (hrule : rule ∈ table)
    (hdecimal : rule.pattern.endsWithDecimal = true)
    (hcount : ∀ g ∈ wordingsOf rule.id, g.count .number = numbers.length)
    (hliterals : ∀ n ∈ numbers, IsDecimalLiteral n) (hfound : rule.pattern.find t = some found)
    {skipped rest : List Text} (hnumbers : numbers = skipped ++ rest) (hw : w.isCrisp = true)
    (h : w.SpelledBy (found.matched ++ found.after) rest) : found.operands = numbers := by
  obtain ⟨_, hreads⟩ : found.ReadIn rule.pattern t := Pattern.readIn_of_search hfound
  obtain ⟨⟨g, hg, hspelled⟩, _⟩ := (reads_iff_spelledBy hrule).mp hreads
  have hphrase := isPhrase_of_mem_wordingsOf hrule hg
  obtain ⟨_, first, n, more, _, others, _, hoperands, rfl, hafter⟩ :=
    hspelled.exists_eq_append h hphrase.crisp hw hphrase.last_eq
  -- Nothing comes before or after these numbers, since there are no more of them.
  have hlength := hspelled.literals.1.trans (hcount g hg)
  rw [hoperands, hnumbers] at hlength
  simp only [List.length_append, List.length_cons, List.length_nil] at hlength
  obtain rfl : skipped = [] := List.eq_nil_of_length_eq_zero (by omega)
  obtain rfl : others = [] := List.eq_nil_of_length_eq_zero (by omega)
  -- The last operand is the longest literal at its place, so it does not go on.
  obtain ⟨first', n', hoperands', hlongest⟩ := Pattern.exists_last_operand_of_find hdecimal hfound
  obtain ⟨rfl, hn⟩ := List.append_inj' (hoperands'.symm.trans hoperands) rfl
  obtain ⟨rfl, _⟩ := List.cons.inj hn
  have hmore : more = [] := hlongest more _ hafter (hliterals _ (by simp [hnumbers]))
  rw [hoperands, hnumbers, hmore, List.append_nil, List.nil_append]

/-- Nothing at the start of a text disqualifies a match there. -/
theorem disqualifies_eq_false_of_before_eq_nil (hrule : rule ∈ table) (h : found.before = []) :
    rule.disqualifies found = false := by
  rw [disqualifies, List.any_eq_false]
  intro word hword heq
  rw [h, Text.eqIgnoringCase, beq_iff_eq] at heq
  exact (toLower_of_mem_unlessAfter hrule hword).1 (List.map_eq_nil_iff.mp heq.symm)

/-- An anchored rule has matches that begin with a letter, and there the phrase falls apart. -/
theorem exists_split_of_anchored (hrule : rule ∈ table) (hanchored : rule.pattern.isAnchored = true)
    (hw : w.IsPhrase) (h : w.SpelledBy t numbers) (hfound : found.ReadIn rule.pattern t) :
    ∃ u skipped rest, numbers = skipped ++ rest ∧ isCrisp u = true ∧
      u.SpelledBy (found.matched ++ found.after) rest := by
  obtain ⟨htext, hreads⟩ := hfound
  obtain ⟨⟨g, hg, hspelled⟩, _⟩ := (reads_iff_spelledBy hrule).mp hreads
  have hbegins := (begins_of_mem_wordingsOf hrule hg).2
  rw [if_pos hanchored] at hbegins
  have hhead := hspelled.head_isLatin hbegins
  cases hmatched : found.matched with
  | nil =>
    rw [hmatched] at hhead
    exact absurd hhead Bool.false_ne_true
  | cons c m =>
    rw [hmatched] at hhead
    have hmark : isMark c = true := isMark_of_isLatin hhead
    rw [htext, hmatched, List.append_assoc, List.cons_append] at h
    obtain ⟨w₁, u, skipped, rest, rfl, rfl, _, hu⟩ := h.exists_split_at_mark hmark
    exact ⟨u, skipped, rest, rfl, isCrisp_of_append hw.crisp, hu⟩

/-- Whether the rule, which no word disqualifies, has a wording that the phrase ends with, after a
gap. -/
def answersAtEnd (rule : TranslationRule) (w : Wording) : Bool :=
  rule.pattern.isAnchored && rule.unlessAfter.isEmpty && w.wordStarts.any fun (behind, ahead) =>
    behind.head? == some .blanks && (wordingsOf rule.id).contains ahead

/-- Whether the phrase is one of the rule, or ends with one of the rule, and has as many numbers as
the rule takes. -/
def answers (rule : TranslationRule) (w : Wording) : Bool :=
  rule.pattern.endsWithDecimal &&
    ((wordingsOf rule.id).all fun g => g.count .number == w.count .number) &&
    ((wordingsOf rule.id).contains w || rule.answersAtEnd w)

/-- In each spelling of a phrase that a rule answers, its first match is not disqualified and takes
the numbers of the spelling as its operands. -/
theorem exists_find_of_answers (hrule : rule ∈ table) (hw : w.IsPhrase)
    (h : w.SpelledBy t numbers) (hanswers : rule.answers w = true) :
    ∃ found, rule.pattern.find t = some found ∧ found.operands = numbers ∧
      rule.disqualifies found = false := by
  simp only [answers, Bool.and_eq_true, Bool.or_eq_true, List.all_eq_true, beq_iff_eq,
    List.contains_iff_mem] at hanswers
  obtain ⟨⟨hdecimal, hsame⟩, hcases⟩ := hanswers
  obtain ⟨hlength, hliterals⟩ := h.literals
  have hcount : ∀ g ∈ wordingsOf rule.id, g.count .number = numbers.length := fun g hg =>
    (hsame g hg).trans hlength.symm
  rcases hcases with hmem | hend
  · obtain ⟨found, hfound, hbefore⟩ := exists_find_of_mem_wordingsOf hrule hmem h
    obtain ⟨htext, _⟩ : found.ReadIn rule.pattern t := Pattern.readIn_of_search hfound
    rw [hbefore, List.nil_append] at htext
    exact ⟨found, hfound,
      operands_eq_of_find hrule hdecimal hcount hliterals hfound (List.nil_append _).symm hw.crisp
        (htext ▸ h),
      disqualifies_eq_false_of_before_eq_nil hrule hbefore⟩
  · simp only [answersAtEnd, Bool.and_eq_true, List.isEmpty_iff, List.any_eq_true, beq_iff_eq,
      List.contains_iff_mem] at hend
    obtain ⟨⟨hanchored, hfree⟩, ⟨behind, g⟩, hplace, hgap, hg⟩ := hend
    obtain ⟨w₁, _, rfl, hplace, _⟩ := mem_wordStarts_iff.mp hplace
    obtain ⟨rfl, rfl⟩ := Prod.mk.inj hplace
    rw [List.head?_reverse] at hgap
    obtain ⟨found, hfound⟩ := exists_find_of_append hrule hg hgap h
    obtain ⟨u, skipped, rest, hnumbers, hcrisp, hu⟩ :=
      exists_split_of_anchored hrule hanchored hw h (Pattern.readIn_of_search hfound)
    refine ⟨found, hfound,
      operands_eq_of_find hrule hdecimal hcount hliterals hfound hnumbers hcrisp hu, ?_⟩
    rw [disqualifies, hfree, List.any_nil]

/-- A rule that answers a phrase applies to each spelling of it, with the numbers of the spelling in
its template. -/
theorem apply_eq_of_answers (hrule : rule ∈ table) (hw : w.IsPhrase)
    (h : w.SpelledBy t numbers) (hanswers : rule.answers w = true) :
    rule.apply t = some (fillTemplate rule.template numbers) := by
  obtain ⟨found, hfound, rfl, hqualified⟩ := exists_find_of_answers hrule hw h hanswers
  rw [apply, firstMatch_of_find hfound hqualified, Option.map_some]

/-- The identifier of the rule that answers the phrases of a rule. The rule for the natural
logarithm comes after the rule for the logarithm, which finds a phrase of its own in each of
those. -/
def answeringId (ruleId : String) : String := if ruleId = "N14" then "N13" else ruleId

/-- Each phrase of a rule is answered, and the rules before the answering one are out of reach. -/
theorem exists_answer (hrule : rule ∈ table) (hw : w ∈ wordingsOf rule.id) :
    ∃ earlier answer later, table = earlier ++ answer :: later ∧
      answer.id = answeringId rule.id ∧ answer.answers w = true ∧
        ∀ other ∈ earlier, other.outOfReach w = true := by
  have hall : (table.all fun rule => (wordingsOf rule.id).all fun w =>
      (table.find? (·.id == answeringId rule.id)).any (·.answers w) &&
        (table.takeWhile (·.id != answeringId rule.id)).all (·.outOfReach w)) = true := by
    decide +kernel
  have hphrase := List.all_eq_true.mp (List.all_eq_true.mp hall rule hrule) w hw
  rw [Bool.and_eq_true, Option.any_eq_true] at hphrase
  obtain ⟨⟨answer, hfind, hanswers⟩, hreach⟩ := hphrase
  obtain ⟨hid, earlier, later, htable, hearlier⟩ := List.find?_eq_some_iff_append.mp hfind
  have hbefore : ∀ other ∈ earlier, (other.id != answeringId rule.id) = true := hearlier
  refine ⟨earlier, answer, later, htable, beq_iff_eq.mp hid, hanswers, fun other hother => ?_⟩
  rw [htable, List.takeWhile_append_of_pos hbefore, List.all_append, Bool.and_eq_true] at hreach
  exact List.all_eq_true.mp hreach.1 other hother

/-- Each spelling of a phrase has the translation by the answering rule, and no rule before that one
applies to it. -/
theorem exists_translate_of_spelledBy (hrule : rule ∈ table) (hw : w ∈ wordingsOf rule.id)
    (h : w.SpelledBy t numbers) : ∃ earlier answer later, table = earlier ++ answer :: later ∧
      (∀ other ∈ earlier, other.apply t = none) ∧ answer.id = answeringId rule.id ∧
      translate t = some ⟨answer.id, answer.name, fillTemplate answer.template numbers⟩ := by
  have hphrase := isPhrase_of_mem_wordingsOf hrule hw
  obtain ⟨earlier, answer, later, htable, hid, hanswers, hreach⟩ := exists_answer hrule hw
  have hmem : ∀ other ∈ earlier ++ answer :: later, other ∈ table := fun _ => (htable ▸ ·)
  have hnone : ∀ other ∈ earlier, other.apply t = none := fun other hother =>
    apply_eq_none_of_outOfReach (hmem other (List.mem_append_left _ hother)) hphrase h
      (hreach other hother)
  have happly := apply_eq_of_answers (hmem answer (by simp)) hphrase h hanswers
  refine ⟨earlier, answer, later, htable, hnone, hid, ?_⟩
  rw [translate, List.findSome?_eq_some_iff, Text.trim_eq_self_iff.mpr (hphrase.solid h)]
  refine ⟨earlier, answer, later, htable, by rw [happly]; rfl, fun other hother => ?_⟩
  rw [hnone other hother]
  rfl

/-- The rule that answers the phrases of a rule is that rule, or the one for the logarithm. -/
theorem answeringRule_cases {answer : TranslationRule} (hrule : rule ∈ table)
    (hanswer : answer ∈ table) (hid : answer.id = answeringId rule.id) :
    (rule.id ≠ "N14" → answer = rule) ∧
      (rule.id = "N14" → answer.id = "N13" ∧ answer.template = call "log(") := by
  constructor
  · intro hne
    exact eq_of_id_eq hanswer hrule (hid.trans (if_neg hne))
  · intro heq
    have hfind := find?_id_of_mem_table answer hanswer
    rw [hid, answeringId, if_pos heq] at hfind ⊢
    have htemplate : (table.find? (·.id == "N13")).map (·.template) = some (call "log(") := by rfl
    rw [hfind] at htemplate
    exact ⟨rfl, Option.some.inj htemplate⟩

end TranslationRule

/-- The grammar is complete. The phrase book lists the wordings of the whole phrases that a rule
reads, and every spelling of them within the bound is translated by the rule, with the numbers of
the spelling in its template, or, for the natural logarithm, by the rule for the logarithm. No
signature is found in it, and no earlier rule applies to it. The blanks of the spelling are those
that sanitizing keeps. -/
theorem phrases_are_translated_by_their_rule {rule : TranslationRule}
    (hrule : rule ∈ TranslationRule.table) :
    (∀ phrase numbers, rule.pattern.Reads [] phrase [] numbers ↔
      ∃ w ∈ wordingsOf rule.id, w.SpelledBy phrase numbers) ∧
    ∀ (policy : Policy) (phrase : Text) (numbers : List Text), ∀ w ∈ wordingsOf rule.id,
      w.SpelledBy phrase numbers → (∀ c ∈ phrase, isStrippedControl c = false) →
      phrase.length ≤ policy.naturalLanguageMaxLen →
      findBlocked phrase .input = none ∧
      ∃ earlier answer later, TranslationRule.table = earlier ++ answer :: later ∧
        (∀ other ∈ earlier, other.apply phrase = none) ∧
        (rule.id ≠ "N14" → answer = rule) ∧
        (rule.id = "N14" → answer.id = "N13" ∧ answer.template = TranslationRule.call "log(") ∧
        parsePhrase policy phrase =
          .ok ⟨answer.id, answer.name, fillTemplate answer.template numbers⟩ := by
  constructor
  · intro phrase numbers
    exact TranslationRule.reads_whole_iff hrule
  · intro policy phrase numbers w hw h hcontrols hlength
    have hphrase := isPhrase_of_mem_wordingsOf hrule hw
    have hsanitize : sanitize phrase = phrase :=
      sanitize_eq_self_iff.mpr ⟨hcontrols, hphrase.solid h⟩
    have hblocked := hphrase.findBlocked_eq_none h .input
    obtain ⟨earlier, answer, later, htable, hnone, hid, htranslate⟩ :=
      TranslationRule.exists_translate_of_spelledBy hrule hw h
    have hmem : answer ∈ TranslationRule.table := htable ▸ (by simp)
    obtain ⟨hsame, hlogarithm⟩ := TranslationRule.answeringRule_cases hrule hmem hid
    refine ⟨hblocked, earlier, answer, later, htable, hnone, hsame, hlogarithm, ?_⟩
    rw [parsePhrase_eq_ok_iff, hsanitize]
    refine ⟨hlength, ?_, hblocked, hphrase.hasPhraseCharacters_eq h,
      hphrase.hasNumericOperand_eq h, htranslate,
      (canonical_of_translate htranslate).findBlocked_eq_none .converted⟩
    obtain ⟨before, n, rfl, hn⟩ := hphrase.exists_eq_append_literal h
    simp [hn.ne_nil]

/-- The ninth rule reads a phrase for a cube root. -/
private theorem find_cubeRoot :
    TranslationRule.table[8].pattern.find "the  CUBE root of 27".toList =
      some ⟨[], "the  CUBE root of 27".toList, [], ["27".toList]⟩ := by rfl

/-- A cube root is translated as one, with a wide gap and a word in capitals. -/
theorem cube_root_translated :
    (∃ w ∈ wordingsOf "N9", w.SpelledBy "the  CUBE root of 27".toList ["27".toList]) ∧
      parsePhrase .standard "the  CUBE root of 27".toList =
        .ok ⟨"N9", "cube root", "cbrt(27)".toList⟩ := by
  have hrule : TranslationRule.table[8] ∈ TranslationRule.table := List.getElem_mem _
  have hread := Pattern.readIn_of_search find_cubeRoot
  have hall : ("the  CUBE root of 27".toList.all fun c => !isStrippedControl c) = true := by rfl
  have hcontrols : ∀ c ∈ "the  CUBE root of 27".toList, isStrippedControl c = false := by
    intro c hc
    simpa using List.all_eq_true.mp hall c hc
  obtain ⟨hreads, htranslated⟩ := phrases_are_translated_by_their_rule hrule
  obtain ⟨w, hw, h⟩ := (hreads _ _).mp hread.reads
  obtain ⟨_, _, answer, _, _, _, hsame, _, hparse⟩ :=
    htranslated .standard _ _ w hw h hcontrols (by decide)
  rw [hsame (by decide)] at hparse
  exact ⟨⟨w, hw, h⟩, hparse⟩

end ExprGate
