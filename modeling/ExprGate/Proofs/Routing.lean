import ExprGate.Proofs.Branches
import ExprGate.Proofs.EntryPoints
import ExprGate.Proofs.SharedWords

/-!
# Phrases that reach the translation

Whether an input is translated is decided by a list of operator words, which is kept apart from the
patterns of the translation. Nearly every branch of every pattern has one of these words in it, set
off by blanks, or a percent sign with its word. The exceptions are four forms of phrases. A phrase
that can be translated is admitted unless it has such a form, or a control character that only the
translation strips.
-/

namespace ExprGate

open TranslationRule

/-- A word after a boundary or blanks, with a blank after it. -/
def spacedWord (word : String) : Pattern :=
  .all [.either .boundary .blanks, .phrase word, .one .blank]

/-- A text that ends with blanks does not end with a word character. -/
theorem getLast?_of_reads_blanks {before behind m after : Text} {operands : List Text}
    (h : Pattern.blanks.Reads behind m after operands) :
    (before ++ m).getLast?.any isWordCharacter = false := by
  obtain ⟨_, rest, _, _, rfl, _, ⟨⟨c, rfl, hc⟩, _⟩, hrest, _⟩ := h
  have hne : [c] ++ rest ≠ [] := List.cons_ne_nil c rest
  have hblank : ∀ d ∈ [c] ++ rest, isBlank d = true := List.forall_mem_cons.mpr ⟨hc, hrest⟩
  rw [List.getLast?_append_of_ne_nil _ hne, List.getLast?_eq_some_getLast hne]
  exact isWordCharacter_of_isBlank (hblank _ (List.getLast_mem hne))

section SpacedWords

variable {word : String} (hword : isPlainWord word = true)
include hword

/-- What reads as a plain word folds to it. -/
theorem map_foldCase_of_reads_phrase {behind m after : Text} {operands : List Text}
    (h : (Pattern.phrase word).Reads behind m after operands) : m.map foldCase = word.toList := by
  obtain ⟨e, he, _, hahead⟩ := Pattern.exists_mem_ends_of_reads h []
  obtain ⟨m', hm', ⟨hpassed, _⟩, _⟩ :=
    (Pattern.mem_ends_phrase (blank_not_mem_of_isPlainWord hword)).mp he
  have heq : m = m' := List.append_cancel_right (hahead ▸ hpassed)
  rw [heq, hm']

/-- A word that is set off by blanks is a whole word. -/
theorem hasWholeWord_of_spacedWord {t : Text} (h : (spacedWord word).occursIn t = true) :
    HasWholeWord word t := by
  obtain ⟨before, _, after, _, rfl, hreads⟩ := Pattern.occursIn_iff_reads.mp h
  -- The reading falls into what is before the word, the word `m`, one blank, and nothing.
  obtain ⟨first, _, _, _, rfl, _, hfirst, m, _, _, _, rfl, _, hm, _, _, _, _, rfl, _,
    ⟨⟨blank, rfl, hblank⟩, _⟩, rfl, _⟩ := hreads
  have hfold := map_foldCase_of_reads_phrase hword hm
  refine ⟨before ++ first, m, blank :: after, by simp, hfold, ?_, ?_⟩
  · rcases hfirst with ⟨rfl, _, hboundary⟩ | hblanks
    · rw [List.append_assoc] at hboundary
      rw [List.append_nil]
      exact (Pattern.atBoundary_before (ne_nil_of_map_foldCase hword hfold)
        (isWordCharacter_of_map_foldCase hword hfold)).mp hboundary
    · exact getLast?_of_reads_blanks hblanks
  · exact isWordCharacter_of_isBlank hblank

end SpacedWords

/-- The forms of phrases that are translated although they have no operator word, each with the rule
that does it: a share without its word, and three words that are missing from the list. -/
def unroutedForms : List (String × Pattern) := [
  ("N2", .all [decimal, .gap, .char '%', .gap, decimal]),
  ("N3", between ["and"]),
  ("N5", between ["multiply"]),
  ("N7", between ["raised to"])]

/-- What a rule leads to: the words that the routes are told apart by, and its unrouted forms. -/
def routedTo (ruleId : String) : List Pattern :=
  percentageWords :: operatorWords.map spacedWord ++
    (unroutedForms.filter fun form => form.1 == ruleId).map Prod.snd

/-- Every branch of every rule has a word that makes it read like a phrase, or an unrouted form. -/
theorem leadsTo_of_mem_table : ∀ rule ∈ table,
    rule.pattern.leadsTo (routedTo rule.id) = true := by
  have hall : (table.all fun rule => rule.pattern.leadsTo (routedTo rule.id)) = true := by
    decide +kernel
  exact List.all_eq_true.mp hall

/-- A text in which the pattern of a rule occurs reads like a phrase or has an unrouted form of the
rule. -/
theorem looksLikeNaturalLanguage_or_unrouted {rule : TranslationRule} (hrule : rule ∈ table)
    {t : Text} (h : rule.pattern.occursIn t = true) : looksLikeNaturalLanguage t = true ∨
      ∃ form ∈ unroutedForms, form.1 = rule.id ∧ form.2.occursIn t = true := by
  obtain ⟨target, htarget, hoccurs⟩ :=
    Pattern.exists_occursIn_of_leadsTo (leadsTo_of_mem_table rule hrule) h
  simp only [looksLikeNaturalLanguage, Bool.or_eq_true]
  rcases List.mem_append.mp htarget with hrouted | hunrouted
  · left
    left
    rcases List.mem_cons.mp hrouted with rfl | hspaced
    · exact Or.inl hoccurs
    · obtain ⟨word, hword, rfl⟩ := List.mem_map.mp hspaced
      have hplain := List.all_eq_true.mp all_isPlainWord_operatorWords word hword
      have hwhole : HasWholeWord word t := hasWholeWord_of_spacedWord hplain hoccurs
      exact Or.inr (occursIn_operatorWord_iff.mpr ⟨word, hword, hwhole⟩)
  · right
    obtain ⟨form, hform, rfl⟩ := List.mem_map.mp hunrouted
    obtain ⟨hmem, hid⟩ := List.mem_filter.mp hform
    exact ⟨form, hmem, beq_iff_eq.mp hid, hoccurs⟩

/-- A phrase that is translated reads like one, if it has neither a control character to strip nor
an unrouted form of the rule that translates it. -/
theorem looksLikeNaturalLanguage_of_parsePhrase {policy : Policy} {input : Text} {t : Translation}
    (h : parsePhrase policy input = .ok t)
    (hcontrol : ∀ c ∈ Text.trim input, isStrippedControl c = false)
    (hforms : ∀ form ∈ unroutedForms, form.1 = t.ruleId →
      form.2.occursIn (Text.trim input) = false) :
    looksLikeNaturalLanguage (Text.trim input) = true := by
  obtain ⟨_, _, _, _, _, ht, _⟩ := parsePhrase_eq_ok_iff.mp h
  have hsanitize : sanitize input = Text.trim input := by
    rw [← sanitize_trim, sanitize_of_no_control hcontrol, Text.trim_trim]
  rw [hsanitize] at ht
  obtain ⟨rule, hrule, m, hm, rfl⟩ := exists_match_of_translate ht
  rw [Text.trim_trim] at hm
  rcases looksLikeNaturalLanguage_or_unrouted hrule (Pattern.occursIn_of_mem_findAll hm) with
    hphrase | ⟨form, hform, hid, hoccurs⟩
  · exact hphrase
  · rw [hforms form hform hid] at hoccurs
    exact absurd hoccurs Bool.false_ne_true

/-- A phrase that is translated, and is within the bound for expressions, is admitted as its
translation exactly when the trimmed phrase reads like one. So it is whenever the trimmed phrase has
neither a control character to strip nor an unrouted form of the rule that translates it. -/
theorem translated_phrases_are_admitted {policy : Policy} {input : Text} {t : Translation}
    (hlength : input.length ≤ policy.expressionMaxLen) (h : parsePhrase policy input = .ok t) :
    (admitExpression policy true input = .ok ⟨t.expression, .naturalLanguage, some t.ruleId⟩ ↔
      looksLikeNaturalLanguage (Text.trim input) = true) ∧
    ((∀ c ∈ Text.trim input, isStrippedControl c = false) →
      (∀ form ∈ unroutedForms, form.1 = t.ruleId → form.2.occursIn (Text.trim input) = false) →
      admitExpression policy true input =
        .ok ⟨t.expression, .naturalLanguage, some t.ruleId⟩) := by
  have hadmitted (hphrase : looksLikeNaturalLanguage (Text.trim input) = true) :
      admitExpression policy true input =
        .ok ⟨t.expression, .naturalLanguage, some t.ruleId⟩ := by
    have hbound := (parsePhrase_eq_ok_iff.mp h).1
    rw [admitExpression_of_phrase hlength hphrase, parsePhrase_trim hbound, h]
    rfl
  refine ⟨⟨fun hok => ?_, hadmitted⟩, fun hcontrol hforms => ?_⟩
  · by_contra hnotation
    rw [Bool.not_eq_true] at hnotation
    obtain ⟨_, _, htaken, _⟩ := admitExpression_eq_ok_iff.mp hok
    have hverbatim : interpretInput policy true (Text.trim input) =
        .ok ⟨Text.trim input, .strictMath, none⟩ := interpretInput_of_notation hnotation
    rw [hverbatim] at htaken
    have hroute : Route.strictMath = .naturalLanguage :=
      congrArg Admission.route (Except.ok.inj htaken)
    exact Route.noConfusion hroute
  · exact hadmitted (looksLikeNaturalLanguage_of_parsePhrase h hcontrol hforms)

/-- A share between blanks has no unrouted form, and is admitted as it is translated. -/
theorem share_between_blanks_admitted :
    parsePhrase .standard " 12.5% of 80 ".toList =
        .ok ⟨"N1", "percent of", "(12.5 / 100) * 80".toList⟩ ∧
      (∀ form ∈ unroutedForms, form.2.occursIn (Text.trim " 12.5% of 80 ".toList) = false) ∧
      admitExpression .standard true " 12.5% of 80 ".toList =
        .ok ⟨"(12.5 / 100) * 80".toList, .naturalLanguage, some "N1"⟩ := by
  have hcontrol : ((Text.trim " 12.5% of 80 ".toList).all fun c =>
      !isStrippedControl c) = true := by rfl
  have hforms : (unroutedForms.all fun form =>
      !form.2.occursIn (Text.trim " 12.5% of 80 ".toList)) = true := by rfl
  simp only [List.all_eq_true, Bool.not_eq_true'] at hcontrol hforms
  refine ⟨parsePhrase_share, hforms, ?_⟩
  exact (translated_phrases_are_admitted (by decide) parsePhrase_share).2 hcontrol
    fun form hform _ => hforms form hform

/-- Phrases that are translated but not admitted as their translations: one for each unrouted form,
and one with a control character inside an operator word. -/
theorem translated_but_turned_away :
    (parsePhrase .standard "20% 50".toList = .ok ⟨"N2", "percent", "(20 / 100) * 50".toList⟩ ∧
      admitExpression .standard true "20% 50".toList = .error (.invalidCharacters .expression)) ∧
    (parsePhrase .standard "6 and 7".toList = .ok ⟨"N3", "addition", "6 + 7".toList⟩ ∧
      admitExpression .standard true "6 and 7".toList = .error .unrecognizedTokens) ∧
    (parsePhrase .standard "6 multiply 7".toList =
        .ok ⟨"N5", "multiplication", "6 * 7".toList⟩ ∧
      admitExpression .standard true "6 multiply 7".toList = .error .unrecognizedTokens) ∧
    (parsePhrase .standard "2 raised to 8".toList = .ok ⟨"N7", "power", "2 ^ 8".toList⟩ ∧
      admitExpression .standard true "2 raised to 8".toList = .error .unrecognizedTokens) ∧
    parsePhrase .standard "25 pl\x0Bus 17".toList = .ok ⟨"N3", "addition", "25 + 17".toList⟩ ∧
      admitExpression .standard true "25 pl\x0Bus 17".toList = .error .unrecognizedTokens := by
  decide +kernel

end ExprGate
