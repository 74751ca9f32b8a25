import ExprGate.Proofs.CleanTexts
import ExprGate.Proofs.WholeWords

/-!
# Notation that reads like a phrase

Three operator words are spelled with recognized names: `log` and `abs` are names themselves, and
`sine` is `sin` and `e` side by side. Where phrases are allowed, notation with one of them as a
whole word reads like a phrase and is no longer taken as it stands. All other notation is. In
notation a whole word is one with no letter or digit of ASCII next to it.
-/

namespace ExprGate

/-- The operator words that clean texts can contain. -/
def sharedWords : List String := ["sine", "log", "abs"]

/-- All other operator words have a foreign fragment. -/
theorem hasForeign_or_mem_sharedWords {word : String} (h : word ∈ operatorWords) :
    hasForeign word.toList = true ∨ word ∈ sharedWords := by
  have hall : (operatorWords.all fun word => hasForeign word.toList ||
      sharedWords.contains word) = true := by rfl
  simpa using List.all_eq_true.mp hall word h

/-- The operator words are plain words. -/
theorem all_isPlainWord_operatorWords : operatorWords.all isPlainWord = true := by rfl

/-- The operator words occur exactly as whole words. -/
theorem occursIn_operatorWord_iff {t : Text} :
    operatorWord.occursIn t = true ↔ ∃ word ∈ operatorWords, HasWholeWord word t :=
  Pattern.occursIn_words_iff all_isPlainWord_operatorWords

/-- A clean text reads like a phrase exactly when one of the shared words is a whole word of it. -/
theorem looksLikeNaturalLanguage_iff_of_isClean {t : Text} (h : isClean t = true) :
    looksLikeNaturalLanguage t = true ↔ ∃ word ∈ sharedWords, HasWholeWord word t := by
  have hpercentage : percentageWords.occursIn t = false :=
    occursIn_eq_false_of_isClean (by rfl) h
  have hvalid : hasValidCharacters t = true := (isClean_iff.mp h).1
  simp only [looksLikeNaturalLanguage, hpercentage, hvalid, Bool.false_or, Bool.not_true,
    Bool.and_false, Bool.or_false, occursIn_operatorWord_iff]
  constructor
  · rintro ⟨word, hword, hwhole⟩
    rcases hasForeign_or_mem_sharedWords hword with hforeign | hshared
    · exact absurd hwhole.infix_map_foldCase (not_infix_of_hasForeign h hforeign)
    · exact ⟨word, hshared, hwhole⟩
  · rintro ⟨word, hshared, hwhole⟩
    have hword : ∀ word ∈ sharedWords, word ∈ operatorWords := by decide
    exact ⟨word, hword word hshared, hwhole⟩

/-- An expression that is admitted as notation is admitted alike where phrases are allowed exactly
when none of the shared words is a whole word of it. -/
theorem admitted_alike_with_phrases_iff {policy : Policy} {input : Text} {admission : Admission}
    (h : admitExpression policy false input = .ok admission) :
    (∃ ruleId, admitExpression policy true input =
      .ok ⟨admission.expression, .strictMath, ruleId⟩) ↔
      ∀ word ∈ sharedWords, ¬ HasWholeWord word admission.expression := by
  have hreads := looksLikeNaturalLanguage_iff_of_isClean (isClean_of_admitted h)
  obtain ⟨hlength, hblank, htaken, hclear⟩ := admitExpression_eq_ok_iff.mp h
  rw [interpretInput_of_strict] at htaken
  obtain rfl : ⟨Text.trim input, .strictMath, none⟩ = admission := Except.ok.inj htaken
  constructor
  · rintro ⟨ruleId, hok⟩ word hword hwhole
    obtain ⟨_, _, hinterpreted, _⟩ := admitExpression_eq_ok_iff.mp hok
    have hphrase := hreads.mpr ⟨word, hword, hwhole⟩
    have hroute : Route.strictMath = .naturalLanguage :=
      route_of_interpretInput_phrase hphrase hinterpreted
    exact Route.noConfusion hroute
  · intro hnone
    have hstrict : looksLikeNaturalLanguage (Text.trim input) = false := by
      rw [← Bool.not_eq_true, hreads]
      rintro ⟨word, hword, hwhole⟩
      exact hnone word hword hwhole
    exact ⟨none, admitExpression_eq_ok_iff.mpr
      ⟨hlength, hblank, interpretInput_of_notation hstrict, hclear⟩⟩

/-- The expression `sin(1)` is admitted as notation either way, and has no shared word. -/
theorem sin_one_admitted_alike :
    admitExpression .standard false "sin(1)".toList = .ok ⟨"sin(1)".toList, .strictMath, none⟩ ∧
      ∀ word ∈ sharedWords, ¬ HasWholeWord word "sin(1)".toList := by
  have hadmitted : admitExpression .standard false "sin(1)".toList =
      .ok ⟨"sin(1)".toList, .strictMath, none⟩ := by rfl
  exact ⟨hadmitted, (admitted_alike_with_phrases_iff hadmitted).mp ⟨none, by rfl⟩⟩

/-- The expression `log(100)` is admitted as notation, but turned away where phrases are allowed. -/
theorem log_turned_away_with_phrases :
    admitExpression .standard false "log(100)".toList =
        .ok ⟨"log(100)".toList, .strictMath, none⟩ ∧
      admitExpression .standard true "log(100)".toList = .error .unparsable := by
  decide +kernel

/-- In a clean text the word characters are the letters and digits of ASCII. -/
theorem isWordCharacter_of_mem_clean {t : Text} (h : isClean t = true) {c : Char} (hc : c ∈ t) :
    isWordCharacter c = c.isAlphanum := by
  obtain ⟨hlong, hkelvin⟩ := ne_of_mem_clean h hc
  have hvalid := List.all_eq_true.mp ((Bool.and_eq_true _ _).mp (isClean_iff.mp h).1).2 c hc
  simp only [isNotationCharacter, Bool.or_eq_true, List.contains_iff_mem] at hvalid
  rcases hvalid with hlatin | (hdigit | hsign) | hblank
  · have hforms : (latinForms.all fun c => c == '\u017F' || c == '\u212A' ||
        c.isAlphanum) = true := by rfl
    have halphanum : c.isAlphanum = true := by
      simpa [hlong, hkelvin] using holds_of_isLatin hforms hlatin
    rw [isWordCharacter_of_isLatin hlatin, halphanum]
  · have hword : isWordCharacter c = true := holds_of_isDigit isWordCharacter (by rfl) hdigit
    have halphanum : c.isAlphanum = true := Bool.or_eq_true_iff.mpr (Or.inr hdigit)
    rw [hword, halphanum]
  · have hsigns : ("+-*/().^,".toList.all fun c => isWordCharacter c == c.isAlphanum) = true := by
      rfl
    exact beq_iff_eq.mp (List.all_eq_true.mp hsigns c hsign)
  · have hforms : (blankForms.all fun c => !c.isAlphanum) = true := by rfl
    have hother : c.isAlphanum = false := by simpa using holds_of_isBlank hforms hblank
    rw [isWordCharacter_of_isBlank hblank, hother]

/-- The word stands in the text, in small letters or capitals of ASCII, and no letter or digit of
ASCII is next to it. -/
def StandsAlone (word : String) (t : Text) : Prop :=
  ∃ before m after, t = before ++ m ++ after ∧ m.map Char.toLower = word.toList ∧
    before.getLast?.any Char.isAlphanum = false ∧ after.head?.any Char.isAlphanum = false

/-- Two tests that agree on the characters of a text agree on one that it may have. -/
theorem any_congr_of_mem {p q : Char → Bool} {t : Text} (h : ∀ c ∈ t, p c = q c) {o : Option Char}
    (ho : ∀ c ∈ o, c ∈ t) : o.any p = o.any q := by
  cases o with
  | none => rfl
  | some c => exact h c (ho c rfl)

/-- In a clean text a whole word is one that stands alone. Neither the two letters beyond ASCII that
fold to Latin ones nor the word characters beyond letters and digits occur there. -/
theorem hasWholeWord_iff_standsAlone {t : Text} (h : isClean t = true) {word : String} :
    HasWholeWord word t ↔ StandsAlone word t := by
  refine exists_congr fun before => exists_congr fun m => exists_congr fun after =>
    and_congr_right fun ht => ?_
  have hmem {c : Char} (hc : c ∈ before ∨ c ∈ m ∨ c ∈ after) : c ∈ t := by
    simpa [ht] using hc
  have hfold : m.map foldCase = m.map Char.toLower := by
    refine List.map_congr_left fun c hc => ?_
    obtain ⟨hlong, hkelvin⟩ := ne_of_mem_clean h (hmem (Or.inr (Or.inl hc)))
    rw [foldCase, if_neg hlong, if_neg hkelvin]
  have hbefore : before.getLast?.any isWordCharacter = before.getLast?.any Char.isAlphanum := by
    apply any_congr_of_mem fun c hc => isWordCharacter_of_mem_clean h hc
    intro c hc
    exact hmem (Or.inl (List.mem_of_getLast? hc))
  have hafter : after.head?.any isWordCharacter = after.head?.any Char.isAlphanum := by
    apply any_congr_of_mem fun c hc => isWordCharacter_of_mem_clean h hc
    intro c hc
    exact hmem (Or.inr (Or.inr (List.mem_of_head? hc)))
  rw [hfold, hbefore, hafter]

/-- Notation and phrases overlap in three words. A clean text reads like a phrase exactly when
`log`, `abs` or `sine` stands alone in it. -/
theorem notation_reads_like_phrase_iff {t : Text} (h : isClean t = true) :
    looksLikeNaturalLanguage t = true ↔
      StandsAlone "log" t ∨ StandsAlone "abs" t ∨ StandsAlone "sine" t := by
  rw [looksLikeNaturalLanguage_iff_of_isClean h]
  simp only [hasWholeWord_iff_standsAlone h, sharedWords, List.mem_cons, List.not_mem_nil, or_false,
    exists_eq_or_imp, exists_eq_left]
  tauto

/-- The clean text `cos(1)-SinE` reads like a phrase, for its last four letters stand alone. -/
theorem cos_minus_sine_reads_like_phrase :
    isClean "cos(1)-SinE".toList = true ∧
      looksLikeNaturalLanguage "cos(1)-SinE".toList = true := by
  have hclean : isClean "cos(1)-SinE".toList = true := by rfl
  refine ⟨hclean, (notation_reads_like_phrase_iff hclean).mpr (Or.inr (Or.inr ?_))⟩
  exact ⟨"cos(1)-".toList, "SinE".toList, [], by rfl, by rfl, by rfl, by rfl⟩

end ExprGate
