import ExprGate.Proofs.CaseBlindness
import ExprGate.Proofs.Preference
import ExprGate.Proofs.Reach

/-!
# Square roots and cube roots

A root phrase is for a square root unless it is qualified by the word `cube`. That word is looked
for in front of the blanks before the match, so it is heeded across blanks only. With punctuation in
between, as in `cube-root of 27`, no word is found there, and the square root is taken of a number
whose cube root was asked for.
-/

namespace ExprGate

section DirectlyAfter

/-! ### Words before a match -/

/-- The match comes after the word, in small letters or capitals: of the letters and numbers before
the match, the last run is the word, and `gap` stands between that and the match. -/
def Match.Follows (m : Match) (word : String) (gap : Text) : Prop :=
  ∃ before run, m.before = before ++ run ++ gap ∧
    before.getLast?.any isAlphanumeric = false ∧ Text.eqIgnoringCase run word.toList = true ∧
    ∀ c ∈ gap, isAlphanumeric c = false

/-- The match comes after the word with nothing but blanks in between. -/
def Match.DirectlyFollows (m : Match) (word : String) : Prop :=
  ∃ gap, m.Follows word gap ∧ ∀ c ∈ gap, isBlank c = true

/-- Only blanks stand behind the last word of a text, and no letter or number directly before it. -/
theorem exists_eq_append_lastWord (t : Text) : ∃ before gap, t = before ++ lastWord t ++ gap ∧
    before.getLast?.any isAlphanumeric = false ∧ ∀ c ∈ gap, isBlank c = true := by
  have hgap : Text.trimEnd t ++ t.rtakeWhile isBlank = t := List.rdropWhile_append_rtakeWhile
  have hword : (Text.trimEnd t).rdropWhile isAlphanumeric ++ lastWord t = Text.trimEnd t :=
    List.rdropWhile_append_rtakeWhile
  refine ⟨(Text.trimEnd t).rdropWhile isAlphanumeric, t.rtakeWhile isBlank, ?_, ?_,
    fun c hc => List.mem_rtakeWhile_imp hc⟩
  · rw [hword, hgap]
  · by_cases hne : (Text.trimEnd t).rdropWhile isAlphanumeric = []
    · rw [hne]
      rfl
    · rw [List.getLast?_eq_some_getLast hne]
      exact Bool.eq_false_iff.mpr (List.rdropWhile_last_not _ _ hne)

namespace TranslationRule

variable {rule : TranslationRule} {m : Match} {text : Text}

/-- What is a word that disqualifies, up to case, consists of letters. -/
theorem isLatin_of_eqIgnoringCase (hrule : rule ∈ table) {word : String}
    (hword : word ∈ rule.unlessAfter) {run : Text}
    (h : Text.eqIgnoringCase run word.toList = true) :
    run ≠ [] ∧ ∀ c ∈ run, isLatin c = true := by
  have hall : (table.all fun rule => rule.unlessAfter.all fun word =>
      !word.toList.isEmpty && word.toList.all isLatin) = true := by rfl
  have hletters := List.all_eq_true.mp (List.all_eq_true.mp hall rule hrule) word hword
  simp only [Bool.and_eq_true, Bool.not_eq_true', List.isEmpty_eq_false_iff] at hletters
  have hsmall : run.map Char.toLower = word.toList.map Char.toLower := beq_iff_eq.mp h
  constructor
  · rintro rfl
    exact hletters.1 (List.map_eq_nil_iff.mp hsmall.symm)
  · intro c hc
    have hmem : c.toLower ∈ word.toList.map Char.toLower := hsmall ▸ List.mem_map_of_mem hc
    obtain ⟨d, hd, heq⟩ := List.mem_map.mp hmem
    rw [← isLatin_toLower, ← heq, isLatin_toLower]
    exact List.all_eq_true.mp hletters.2 d hd

/-- A match is disqualified when it comes directly after one of the words. -/
theorem disqualifies_iff (hrule : rule ∈ table) :
    rule.disqualifies m = true ↔ ∃ word ∈ rule.unlessAfter, m.DirectlyFollows word := by
  rw [disqualifies, List.any_eq_true]
  refine exists_congr fun word => and_congr_right fun hword => ?_
  constructor
  · intro h
    obtain ⟨before, gap, hsplit, hbefore, hgap⟩ := exists_eq_append_lastWord m.before
    exact ⟨gap, ⟨before, _, hsplit, hbefore, h, fun c hc => isAlphanumeric_of_isBlank (hgap c hc)⟩,
      hgap⟩
  · rintro ⟨gap, ⟨before, run, hsplit, hbefore, hrun, _⟩, hgap⟩
    obtain ⟨hne, hlatin⟩ := isLatin_of_eqIgnoringCase hrule hword hrun
    rwa [hsplit, lastWord_append hne hlatin hbefore hgap]

/-- The match that is taken is the first one that does not come directly after one of the words. -/
theorem firstMatch_eq_some_iff (hrule : rule ∈ table) : rule.firstMatch text = some m ↔
    (∃ earlier later, rule.pattern.findAll text = earlier ++ m :: later ∧
      ∀ skipped ∈ earlier, ∃ word ∈ rule.unlessAfter, skipped.DirectlyFollows word) ∧
    ∀ word ∈ rule.unlessAfter, ¬ m.DirectlyFollows word := by
  have htaken : (!rule.disqualifies m) = true ↔
      ∀ word ∈ rule.unlessAfter, ¬ m.DirectlyFollows word := by
    rw [Bool.not_eq_true', ← Bool.not_eq_true, disqualifies_iff hrule]
    simp only [not_exists, not_and]
  rw [firstMatch, List.find?_eq_some_iff_append, htaken, and_comm]
  simp only [Bool.not_not, disqualifies_iff hrule]

/-- The rule for square roots. -/
def squareRoot : TranslationRule := table[7]

/-- The rule for square roots is in the table. -/
theorem squareRoot_mem_table : squareRoot ∈ table := List.getElem_mem _

/-- The rule for square roots takes the first match that does not come directly after `cube`. -/
theorem firstMatch_squareRoot_iff : squareRoot.firstMatch text = some m ↔
    (∃ earlier later, squareRoot.pattern.findAll text = earlier ++ m :: later ∧
      ∀ skipped ∈ earlier, skipped.DirectlyFollows "cube") ∧ ¬ m.DirectlyFollows "cube" := by
  have hwords : squareRoot.unlessAfter = ["cube"] := rfl
  rw [firstMatch_eq_some_iff squareRoot_mem_table]
  simp only [hwords, List.mem_singleton, exists_eq_left, forall_eq]

end TranslationRule

end DirectlyAfter

set_option maxRecDepth 8000 in
/-- A character of a phrase that is no letter, no number and no blank is a sign of punctuation. -/
theorem mem_punctuation_of_hasPhraseCharacters {text : Text}
    (h : hasPhraseCharacters text = true) {c : Char} (hc : c ∈ text)
    (hword : isAlphanumeric c = false) (hblank : isBlank c = false) :
    c ∈ ".,!?%()+-*/^".toList := by
  have hall := (Bool.and_eq_true _ _).mp h |>.2
  have hcases := List.all_eq_true.mp hall c hc
  simp only [Bool.or_eq_true, hblank, Bool.false_eq_true, or_false, List.contains_iff_mem] at hcases
  rcases hcases with (hlatin | hdigit) | hmark
  · exact absurd (hword.symm.trans (isAlphanumeric_of_isLatin hlatin)) Bool.false_ne_true
  · have hnumber : isAlphanumeric c = true := holds_of_isDigit isAlphanumeric (by rfl) hdigit
    exact absurd (hword.symm.trans hnumber) Bool.false_ne_true
  · exact hmark

/-- The translation takes the square root of the number in the match, which spells a phrase for a
square root and is the first such match that does not come directly after the word `cube`. -/
structure Translation.TakesSquareRoot (t : Translation) (text : Text) (m : Match) : Prop where
  /-- The match is the one that the rule for square roots takes. -/
  found : TranslationRule.squareRoot.firstMatch text = some m
  /-- All matches before it come directly after `cube`. -/
  first : ∃ earlier later,
    TranslationRule.squareRoot.pattern.findAll text = earlier ++ m :: later ∧
      ∀ skipped ∈ earlier, skipped.DirectlyFollows "cube"
  /-- The match itself does not. -/
  qualified : ¬ m.DirectlyFollows "cube"
  /-- The match spells a phrase of the phrase book. -/
  spelled : ∃ w ∈ wordingsOf "N8", w.SpelledBy m.matched m.operands
  /-- The expression is the square root of the number in it. -/
  expression : ∃ n, IsDecimalLiteral n ∧ m.operands = [n] ∧
    t.expression = "sqrt(".toList ++ n ++ [')']

open TranslationRule in
/-- A translation by the rule for square roots takes one. -/
theorem exists_takesSquareRoot {phrase : Text} {t : Translation} (hsolid : phrase.Solid)
    (h : translate phrase = some t) (hid : t.ruleId = "N8") :
    ∃ m, t.TakesSquareRoot phrase m := by
  obtain ⟨rule, hrule, m, hm, rfl⟩ := exists_firstMatch_of_translate h
  obtain rfl : rule = squareRoot := eq_of_id_eq hrule squareRoot_mem_table hid
  rw [Text.trim_eq_self_iff.mpr hsolid] at hm
  have hreads := (Pattern.readIn_of_mem_findAll (List.mem_of_find?_eq_some hm)).reads
  have hspelled := ((reads_iff_spelledBy hrule).mp hreads).1
  have hcount : squareRoot.pattern.decimalCount = some 1 := by rfl
  obtain ⟨hlength, hliterals, _⟩ := Pattern.operands_of_reads hcount hreads
  obtain ⟨n, hn⟩ := List.length_eq_one_iff.mp hlength
  obtain ⟨hfirst, hqualified⟩ := firstMatch_squareRoot_iff.mp hm
  refine ⟨m, hm, hfirst, hqualified, hspelled, n, hliterals n (by simp [hn]), hn, ?_⟩
  simp only [hn]
  rfl

/-- The word `cube` before a root phrase is heeded across blanks, and across blanks only. A phrase
that is translated by the rule for square roots has the root taken of the first match that does not
come directly after that word; so if `cube` is the last word before the match all the same, there is
punctuation in between. -/
theorem cube_is_heeded_across_blanks {policy : Policy} {input : Text} {t : Translation}
    (h : parsePhrase policy input = .ok t) (hid : t.ruleId = "N8") :
    ∃ m, t.TakesSquareRoot (sanitize input) m ∧
      ∀ gap, m.Follows "cube" gap → ∃ mark ∈ gap, mark ∈ ".,!?%()+-*/^".toList := by
  obtain ⟨_, _, _, hcharacters, _, htranslate, _⟩ := parsePhrase_eq_ok_iff.mp h
  obtain ⟨m, hm⟩ : ∃ m, t.TakesSquareRoot (sanitize input) m :=
    exists_takesSquareRoot (Text.solid_trim _) htranslate hid
  refine ⟨m, hm, fun gap hgap => ?_⟩
  have hdirect : ¬ ∀ c ∈ gap, isBlank c = true := fun hall => hm.qualified ⟨gap, hgap, hall⟩
  obtain ⟨before, run, hbefore, _, _, hwordless⟩ := hgap
  simp only [not_forall] at hdirect
  obtain ⟨mark, hmark, hblank⟩ := hdirect
  have htext := (Pattern.readIn_of_mem_findAll (List.mem_of_find?_eq_some hm.found)).text_eq
  have hmem : mark ∈ sanitize input := by
    rw [htext, hbefore]
    simp [hmark]
  exact ⟨mark, hmark, mem_punctuation_of_hasPhraseCharacters hcharacters hmem (hwordless mark hmark)
    (Bool.eq_false_iff.mpr hblank)⟩

/-- A square root after a cube root is translated as one, and so is a cube root with a hyphen. -/
private theorem translate_roots :
    translate "cube root of 8 or square root of 9".toList =
        some ⟨"N8", "square root", "sqrt(9)".toList⟩ ∧
      translate "cube-root of 27".toList = some ⟨"N8", "square root", "sqrt(27)".toList⟩ := by
  decide +kernel

/-- A cube root is passed over, and the square root after it is taken. -/
theorem square_root_after_cube_root :
    parsePhrase .standard "cube root of 8 or square root of 9".toList =
        .ok ⟨"N8", "square root", "sqrt(9)".toList⟩ ∧
      ∃ m, Translation.TakesSquareRoot ⟨"N8", "square root", "sqrt(9)".toList⟩
          (sanitize "cube root of 8 or square root of 9".toList) m ∧
        ∀ gap, m.Follows "cube" gap → ∃ mark ∈ gap, mark ∈ ".,!?%()+-*/^".toList := by
  have hparse : parsePhrase .standard "cube root of 8 or square root of 9".toList =
      .ok ⟨"N8", "square root", "sqrt(9)".toList⟩ :=
    parsePhrase_eq_ok_iff.mpr
      ⟨by decide, by decide, by rfl, by rfl, by rfl, translate_roots.1, by rfl⟩
  exact ⟨hparse, cube_is_heeded_across_blanks hparse rfl⟩

/-- With a hyphen before the root phrase, a cube root is answered as a square root. -/
theorem cube_root_answered_as_square_root :
    parsePhrase .standard "cube-root of 27".toList =
        .ok ⟨"N8", "square root", "sqrt(27)".toList⟩ ∧
      TranslationRule.squareRoot.firstMatch (sanitize "cube-root of 27".toList) =
        some ⟨"cube-".toList, "root of 27".toList, [], ["27".toList]⟩ ∧
      Match.Follows ⟨"cube-".toList, "root of 27".toList, [], ["27".toList]⟩ "cube" ['-'] := by
  refine ⟨parsePhrase_eq_ok_iff.mpr ?_, ?_, [], "cube".toList, rfl, rfl, rfl, fun c hc => ?_⟩
  · exact ⟨by decide, by decide, by rfl, by rfl, by rfl, translate_roots.2, by rfl⟩
  · exact TranslationRule.firstMatch_of_find (by rfl) (by rfl)
  · rw [List.mem_singleton.mp hc]
    rfl

end ExprGate
