import ExprGate.Proofs.Canonical
import ExprGate.Proofs.Relettering

/-!
# Tests that do not see the case of letters

No test that admission makes tells a capital of ASCII from its small letter: neither the classes of
characters, nor the patterns, nor the last word before a match, nor the validation of notation. So
a text in small letters passes the same tests as the text itself, has the same translation, and has
the same signatures at the same offsets.
-/

namespace ExprGate

section Characters

variable (c : Char)

/-- What is the same for every capital and its small letter is not changed by taking the small
letter of any character. -/
private theorem apply_toLower {α : Type} [DecidableEq α] (f : Char → α)
    (h : ((List.range 26).all fun n =>
      f (Char.ofNat (65 + n)).toLower == f (Char.ofNat (65 + n))) = true) :
    f c.toLower = f c := by
  by_cases hcapital : 65 ≤ c.toNat ∧ c.toNat ≤ 90
  · have hn := List.all_eq_true.mp h (c.toNat - 65) (List.mem_range.mpr (by omega))
    have hcode : Char.ofNat (65 + (c.toNat - 65)) = c := by
      rw [Nat.add_sub_cancel' hcapital.1, Char.ofNat_toNat]
    rw [hcode] at hn
    exact beq_iff_eq.mp hn
  · rw [toLower_of_not_capital hcapital]

/-- A small letter is its own small letter. -/
theorem toLower_toLower : c.toLower.toLower = c.toLower := apply_toLower c Char.toLower (by rfl)

/-- Case folding does not see the case of letters. -/
theorem foldCase_toLower : foldCase c.toLower = foldCase c := apply_toLower c foldCase (by rfl)

/-- Being a digit does not depend on case. -/
theorem isDigit_toLower : c.toLower.isDigit = c.isDigit := apply_toLower c Char.isDigit (by rfl)

/-- Being blank does not depend on case. -/
theorem isBlank_toLower : isBlank c.toLower = isBlank c := apply_toLower c isBlank (by rfl)

/-- Being a letter does not depend on case. -/
theorem isLatin_toLower : isLatin c.toLower = isLatin c := apply_toLower c isLatin (by rfl)

/-- Being a letter of ASCII does not depend on case. -/
theorem isAlpha_toLower : c.toLower.isAlpha = c.isAlpha := apply_toLower c Char.isAlpha (by rfl)

/-- Being a control character to strip does not depend on case. -/
theorem isStrippedControl_toLower : isStrippedControl c.toLower = isStrippedControl c :=
  apply_toLower c isStrippedControl (by rfl)

/-- Being a character of notation does not depend on case. -/
theorem isNotationCharacter_toLower : isNotationCharacter c.toLower = isNotationCharacter c :=
  apply_toLower c isNotationCharacter (by rfl)

/-- Being a character of a phrase does not depend on case. -/
theorem mem_punctuation_toLower : ".,!?%()+-*/^".toList.contains c.toLower =
    ".,!?%()+-*/^".toList.contains c :=
  apply_toLower c (fun c => ".,!?%()+-*/^".toList.contains c) (by rfl)

/-- Being a letter or a number does not depend on case. -/
theorem isAlphanumeric_toLower : isAlphanumeric c.toLower = isAlphanumeric c :=
  apply_toLower c isAlphanumeric (by rfl)

/-- Being a word character does not depend on case. -/
theorem isWordCharacter_toLower : isWordCharacter c.toLower = isWordCharacter c := by
  by_cases hcapital : 65 ≤ c.toNat ∧ c.toNat ≤ 90
  · have hlatin : isLatin c = true := isLatin_of_capital hcapital
    rw [isWordCharacter_of_isLatin hlatin,
      isWordCharacter_of_isLatin ((isLatin_toLower c).trans hlatin)]
  · rw [toLower_of_not_capital hcapital]

/-- The small form of a character does not depend on case. -/
theorem smallForm_toLower : smallForm c.toLower = smallForm c := apply_toLower c smallForm (by rfl)

/-- The size of a character in UTF-8 does not depend on case. -/
theorem utf8Size_toLower : c.toLower.utf8Size = c.utf8Size :=
  apply_toLower c Char.utf8Size (by rfl)

end Characters

/-- Patterns do not see the case of letters. -/
theorem keepsClasses_toLower : KeepsClasses Char.toLower where
  accepts_eq set c := by
    cases set with
    | char x => simp only [CharSet.accepts, foldCase_toLower]
    | blank => exact isBlank_toLower c
    | digit => exact isDigit_toLower c
    | latin => exact isLatin_toLower c
  isWordCharacter_eq := isWordCharacter_toLower

/-- The text with small letters in the place of the capitals of ASCII. -/
def Text.uncased (t : Text) : Text := t.map Char.toLower

namespace Text

variable {s t : Text}

/-- Two texts differ at most in the case of ASCII letters exactly when they are the same in small
letters. -/
theorem eqIgnoringCase_iff : eqIgnoringCase s t = true ↔ s.uncased = t.uncased := beq_iff_eq

/-- Small letters are their own small letters. -/
theorem uncased_uncased (t : Text) : t.uncased.uncased = t.uncased := by
  rw [uncased, uncased, List.map_map]
  exact List.map_congr_left fun c _ => toLower_toLower c

/-- Taking small letters keeps the number of characters. -/
theorem length_uncased (t : Text) : t.uncased.length = t.length := List.length_map _

/-- Taking small letters keeps the size in UTF-8. -/
theorem utf8Length_uncased (t : Text) : utf8Length t.uncased = utf8Length t := by
  induction t with
  | nil => rfl
  | cons c t ih =>
    rw [uncased, List.map_cons, utf8Length, utf8Length, utf8Size_toLower]
    exact congrArg _ ih

/-- A test of characters that does not see their case may be made before or after taking small
letters. -/
theorem all_uncased (test : Char → Bool) (h : ∀ c, test c.toLower = test c) (t : Text) :
    t.uncased.all test = t.all test := by
  rw [uncased, List.all_map]
  exact congrArg t.all (funext h)

/-- Trimming and taking small letters can be interchanged. -/
theorem trim_uncased (t : Text) : trim t.uncased = (trim t).uncased := by
  have hblank : ExprGate.isBlank ∘ Char.toLower = ExprGate.isBlank := funext isBlank_toLower
  simp only [trim, trimEnd, trimStart, uncased, List.dropWhile_map, hblank, ← List.map_reverse]

end Text

/-- Sanitizing and taking small letters can be interchanged. -/
theorem sanitize_uncased (t : Text) : sanitize t.uncased = (sanitize t).uncased := by
  rw [sanitize, sanitize, ← Text.trim_uncased, Text.uncased, Text.uncased, List.filter_map]
  congr 3
  funext c
  simp [isStrippedControl_toLower]

section Tests

variable (t : Text)

/-- Having a numeric operand does not depend on case. -/
theorem hasNumericOperand_uncased : hasNumericOperand t.uncased = hasNumericOperand t := by
  rw [hasNumericOperand, hasNumericOperand, Text.uncased,
    Pattern.occursIn_map keepsClasses_toLower, Pattern.occursIn_map keepsClasses_toLower]

/-- Having only the characters of a phrase does not depend on case. -/
theorem hasPhraseCharacters_uncased : hasPhraseCharacters t.uncased = hasPhraseCharacters t := by
  have hall := Text.all_uncased
    (fun c => isLatin c || c.isDigit || isBlank c || ".,!?%()+-*/^".toList.contains c)
    (fun c => by simp only [isLatin_toLower, isDigit_toLower, isBlank_toLower,
      mem_punctuation_toLower]) t
  rw [hasPhraseCharacters, hasPhraseCharacters, hall, Text.uncased, List.isEmpty_map]

/-- Having only valid characters does not depend on case. -/
theorem hasValidCharacters_uncased : hasValidCharacters t.uncased = hasValidCharacters t := by
  have hall := Text.all_uncased (fun c => isLatin c || isNotationCharacter c)
    (fun c => by simp only [isLatin_toLower, isNotationCharacter_toLower]) t
  rw [hasValidCharacters, hasValidCharacters, hall, Text.uncased, List.isEmpty_map]

/-- Reading like a phrase does not depend on case. -/
theorem looksLikeNaturalLanguage_uncased :
    looksLikeNaturalLanguage t.uncased = looksLikeNaturalLanguage t := by
  rw [looksLikeNaturalLanguage, looksLikeNaturalLanguage, hasValidCharacters_uncased, Text.uncased,
    Pattern.occursIn_map keepsClasses_toLower, Pattern.occursIn_map keepsClasses_toLower,
    Pattern.occursIn_map keepsClasses_toLower]

/-- Validation does not depend on case. Lower-casing looks at what stands around a letter, but a
text of valid characters has no letter for which that matters. -/
theorem validateExpression_uncased : validateExpression t.uncased = validateExpression t := by
  have hvalid := hasValidCharacters_uncased t
  rw [validateExpression, validateExpression, hvalid]
  cases hcharacters : hasValidCharacters t with
  | false => simp [ensure, Bind.bind, Except.bind]
  | true =>
    have hlower : Text.lower t.uncased = Text.lower t := by
      rw [lower_eq_map_smallForm (hvalid.trans hcharacters), lower_eq_map_smallForm hcharacters,
        Text.uncased, List.map_map]
      exact List.map_congr_left fun c _ => smallForm_toLower c
    rw [leftoverText, leftoverText, eraseNames, eraseNames, hlower]

end Tests

/-- The evidence with the matched text in small letters. -/
def SignatureMatch.uncased (m : SignatureMatch) : SignatureMatch :=
  { m with matched := m.matched.uncased }

/-- The same signature is found in small letters, at the same offsets. -/
theorem findBlocked_uncased (t : Text) (checkpoint : Checkpoint) :
    findBlocked t.uncased checkpoint = (findBlocked t checkpoint).map SignatureMatch.uncased := by
  have hreport (s : Signature) (m : Match) : s.report checkpoint (m.map Char.toLower) =
      (s.report checkpoint m).uncased := by
    have hbefore := Text.utf8Length_uncased m.before
    have hmatched := Text.utf8Length_uncased m.matched
    rw [Text.uncased] at hbefore hmatched
    simp only [Signature.report, SignatureMatch.uncased, Match.start, Match.stop, Match.map,
      hbefore, hmatched, Text.uncased]
  rw [findBlocked, findBlocked, List.map_findSome?]
  congr 1
  funext s
  rw [Text.uncased, Pattern.find_map keepsClasses_toLower, Option.map_map]
  simp only [Function.comp_apply, Option.map_map]
  congr 1
  funext m
  exact hreport s m

namespace TranslationRule

variable (r : TranslationRule)

/-- The last word of a text in small letters is the last word in small letters. -/
theorem lastWord_uncased (t : Text) : lastWord t.uncased = (lastWord t).uncased := by
  have hblank : isBlank ∘ Char.toLower = isBlank := funext isBlank_toLower
  have hword : isAlphanumeric ∘ Char.toLower = isAlphanumeric := funext isAlphanumeric_toLower
  simp only [lastWord, Text.trimEnd, Text.uncased, ← List.map_reverse, List.dropWhile_map, hblank,
    List.takeWhile_map, hword]

/-- Whether a match is disqualified does not depend on case. -/
theorem disqualifies_map_toLower (m : Match) :
    r.disqualifies (m.map Char.toLower) = r.disqualifies m := by
  have hword (word : Text) : Text.eqIgnoringCase (lastWord m.before.uncased) word =
      Text.eqIgnoringCase (lastWord m.before) word := by
    rw [Bool.eq_iff_iff, Text.eqIgnoringCase_iff, Text.eqIgnoringCase_iff, lastWord_uncased,
      Text.uncased_uncased]
  have hbefore : (m.map Char.toLower).before = m.before.uncased := rfl
  simp only [disqualifies, hbefore, hword]

/-- The first match that counts in small letters is the first one that counts. -/
theorem firstMatch_uncased (t : Text) :
    r.firstMatch t.uncased = (r.firstMatch t).map (Match.map Char.toLower) := by
  rw [firstMatch, firstMatch, Text.uncased, Pattern.findAll_map keepsClasses_toLower,
    List.find?_map]
  congr 2
  funext m
  simp [disqualifies_map_toLower]

/-- A decimal literal has no letters. -/
theorem uncased_of_isDecimalLiteral {t : Text} (h : IsDecimalLiteral t) : t.uncased = t := by
  refine (List.map_congr_left fun c hc => ?_).trans (List.map_id t)
  rw [toLower_of_not_capital (not_capital_of_isNotationCharacter
    (h.isNotationCharacter_of_mem hc).1)]
  rfl

/-- A rule of the table gives the same notation for a text in small letters. -/
theorem apply_uncased {r : TranslationRule} (hr : r ∈ table) (t : Text) :
    r.apply t.uncased = r.apply t := by
  rw [apply, apply, firstMatch_uncased, Option.map_map]
  cases hfirst : r.firstMatch t with
  | none => rfl
  | some m =>
    have hmem : m ∈ r.pattern.findAll t := List.mem_of_find?_eq_some hfirst
    obtain ⟨n, hcount, _⟩ := decimalCount_of_mem_table r hr
    obtain ⟨_, hliterals, _⟩ :=
      Pattern.operands_of_reads hcount (Pattern.readIn_of_mem_findAll hmem).reads
    have hoperands : (m.map Char.toLower).operands = m.operands :=
      (List.map_congr_left fun operand hoperand =>
        uncased_of_isDecimalLiteral (hliterals operand hoperand)).trans (List.map_id _)
    simp only [Option.map_some, Function.comp_apply, hoperands]

end TranslationRule

/-- Translation does not depend on case. -/
theorem translate_uncased (t : Text) : translate t.uncased = translate t := by
  rw [translate, translate, Text.trim_uncased, ← List.head?_filterMap, ← List.head?_filterMap]
  congr 1
  refine List.filterMap_congr fun r hr => ?_
  rw [TranslationRule.apply_uncased hr]

end ExprGate
