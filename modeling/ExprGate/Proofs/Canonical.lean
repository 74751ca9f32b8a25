import ExprGate.Proofs.Operands
import ExprGate.Proofs.SignatureFreedom
import ExprGate.Proofs.Spelling

/-!
# Translations are canonical

The template of a rule, filled with decimal literals, is a concatenation of recognized names and
characters of notation in lower case. It therefore passes the validation of expressions, which in
turn keeps every signature out of it. So the checks after a translation never turn it away, and a
phrase that is blocked is blocked for a signature in the input.
-/

namespace ExprGate

/-- The recognized names are valid and in lower case. -/
theorem valid_of_mem_recognizedNames {name : String} (hname : name ∈ recognizedNames) {c : Char}
    (hc : c ∈ name.toList) : isLatin c = true ∧ smallForm c = c := by
  have hall : (recognizedNames.all fun name => name.toList.all fun c =>
      isLatin c && smallForm c == c) = true := by rfl
  simpa using List.all_eq_true.mp (List.all_eq_true.mp hall name hname) c hc

/-- Validation accepts every concatenation of recognized names and notation that is not empty. -/
theorem validateExpression_of_spelled {t : Text} (h : Spelled recognizedNames t) (hne : t ≠ []) :
    validateExpression t = .ok () := by
  have hvalid : hasValidCharacters t = true := by
    simp only [hasValidCharacters, Bool.and_eq_true, Bool.not_eq_true', List.isEmpty_eq_false_iff,
      List.all_eq_true, Bool.or_eq_true]
    refine ⟨hne, fun c hc => ?_⟩
    rcases h.notation_or_mem_name hc with hsymbol | ⟨name, hname, hinside⟩
    · exact Or.inr hsymbol
    · exact Or.inl (valid_of_mem_recognizedNames hname hinside).1
  have hlower : Text.lower t = t := by
    rw [lower_eq_map_smallForm hvalid]
    refine (List.map_congr_left fun c hc => ?_).trans (List.map_id t)
    rcases h.notation_or_mem_name hc with hsymbol | ⟨name, hname, hinside⟩
    · exact smallForm_of_isNotationCharacter hsymbol
    · exact (valid_of_mem_recognizedNames hname hinside).2
  rw [validateExpression_eq_ok_iff_woven, hlower]
  exact ⟨hvalid, h.woven⟩

namespace IsDecimalLiteral

variable {t : Text}

/-- A decimal literal has a digit. -/
theorem exists_digit (h : IsDecimalLiteral t) : ∃ c ∈ t, c.isDigit = true := by
  obtain ⟨digit, rest, rfl, hdigit⟩ := h.exists_first_digit
  exact ⟨digit, List.mem_cons_self, hdigit⟩

/-- A decimal literal is made of digits and points. -/
theorem digit_or_point (h : IsDecimalLiteral t) {c : Char} (hc : c ∈ t) :
    c.isDigit = true ∨ c = '.' := by
  obtain ⟨whole, ⟨_, hwhole⟩, rfl | ⟨fraction, ⟨_, hfraction⟩, rfl⟩⟩ := h
  · exact Or.inl (hwhole c hc)
  · rcases List.mem_append.mp hc with hfirst | hlast
    · exact Or.inl (hwhole c hfirst)
    · rcases List.mem_cons.mp hlast with rfl | hlater
      · exact Or.inr rfl
      · exact Or.inl (hfraction c hlater)

/-- A decimal literal is notation without blanks. -/
theorem isNotationCharacter_of_mem (h : IsDecimalLiteral t) {c : Char} (hc : c ∈ t) :
    isNotationCharacter c = true ∧ isBlank c = false := by
  rcases h.digit_or_point hc with hdigit | rfl
  · have hlow : 48 ≤ c.toNat := (Char.isDigit_iff_toNat.mp hdigit).1
    have hhigh : c.toNat ≤ 57 := (Char.isDigit_iff_toNat.mp hdigit).2
    refine ⟨by simp [isNotationCharacter, hdigit], ?_⟩
    rw [← Bool.not_eq_true]
    intro hblank
    simp only [isBlank, Bool.or_eq_true, Bool.and_eq_true, decide_eq_true_eq,
      beq_iff_eq] at hblank
    omega
  · decide

/-- A decimal literal is solid. -/
theorem solid (h : IsDecimalLiteral t) : t.Solid := by
  constructor
  · cases hhead : t.head? with
    | none => rfl
    | some c => exact (h.isNotationCharacter_of_mem (List.mem_of_head? hhead)).2
  · cases hlast : t.getLast? with
    | none => rfl
    | some c => exact (h.isNotationCharacter_of_mem (List.mem_of_getLast? hlast)).2

end IsDecimalLiteral

namespace TemplatePart

/-- The text that stands for a part of a template once the operands are known. -/
def fill (operands : List Text) : TemplatePart → Text
  | fixed t => t.toList
  | operand index => operands.getD index []

/-- Whether the part is a concatenation of recognized names and notation. -/
def isSpelled : TemplatePart → Bool
  | fixed t => (Text.blankAll recognizedNames t.toList).all isNotationCharacter
  | operand _ => true

/-- Whether the part is not empty and has no blank at either end. -/
def isSolid : TemplatePart → Bool
  | fixed t => !t.toList.isEmpty && !t.toList.head?.any isBlank && !t.toList.getLast?.any isBlank
  | operand _ => true

/-- Whether filling the template with decimal literals gives canonical notation. -/
def areCanonical (parts : List TemplatePart) : Bool :=
  parts.all isSpelled && parts.head?.any isSolid && parts.getLast?.any isSolid &&
    parts.contains (operand 0)

section Filling

variable {parts : List TemplatePart} {operands : List Text}

/-- A filled template is the filled parts one after another. -/
theorem fillTemplate_eq_flatMap : fillTemplate parts operands = parts.flatMap (fill operands) := rfl

variable (hplaces : parts.filterMap place? = List.range operands.length)
  (hliterals : ∀ o ∈ operands, IsDecimalLiteral o)
include hplaces hliterals

/-- What stands in the place of an operand is a decimal literal. -/
theorem isDecimalLiteral_of_mem {index : Nat} (hmem : operand index ∈ parts) :
    IsDecimalLiteral ((operand index).fill operands) := by
  have hplace : index ∈ parts.filterMap place? := List.mem_filterMap.mpr ⟨_, hmem, rfl⟩
  rw [hplaces, List.mem_range] at hplace
  rw [fill, List.getD, List.getElem?_eq_getElem hplace, Option.getD_some]
  exact hliterals _ (List.getElem_mem hplace)

/-- Filling parts that are spelled gives a concatenation of names and notation. -/
theorem spelled_fill (hspelled : parts.all isSpelled = true) {part : TemplatePart}
    (hmem : part ∈ parts) : Spelled recognizedNames (part.fill operands) := by
  cases part with
  | fixed t =>
    have hblanked := List.all_eq_true.mp hspelled _ hmem
    exact (spelled_iff_blankAll separable_recognizedNames).mpr (List.all_eq_true.mp hblanked)
  | operand index =>
    have hliteral := isDecimalLiteral_of_mem hplaces hliterals hmem
    exact Spelled.of_notation fun c hc => (hliteral.isNotationCharacter_of_mem hc).1

/-- Filling a solid part gives a solid text. -/
theorem solid_fill {part : TemplatePart} (hmem : part ∈ parts) (hsolid : part.isSolid = true) :
    part.fill operands ≠ [] ∧ (part.fill operands).Solid := by
  cases part with
  | fixed t =>
    simp only [isSolid, Bool.and_eq_true, Bool.not_eq_true', List.isEmpty_eq_false_iff] at hsolid
    exact ⟨hsolid.1.1, hsolid.1.2, hsolid.2⟩
  | operand index =>
    have hliteral := isDecimalLiteral_of_mem hplaces hliterals hmem
    exact ⟨hliteral.ne_nil, hliteral.solid⟩

/-- A filled template is spelled when its parts are. -/
theorem spelled_fillTemplate (hspelled : parts.all isSpelled = true) :
    Spelled recognizedNames (fillTemplate parts operands) := by
  rw [fillTemplate_eq_flatMap]
  exact Spelled.flatMap fun _ hmem => spelled_fill hplaces hliterals hspelled hmem

/-- A filled template is solid when its outer parts are. -/
theorem solid_fillTemplate (hfirst : parts.head?.any isSolid = true)
    (hlast : parts.getLast?.any isSolid = true) : (fillTemplate parts operands).Solid := by
  rw [fillTemplate_eq_flatMap]
  constructor
  · cases parts with
    | nil => rfl
    | cons part parts =>
      obtain ⟨hne, hsolid⟩ := solid_fill hplaces hliterals List.mem_cons_self hfirst
      rw [List.flatMap_cons, List.head?_append_of_ne_nil _ hne]
      exact hsolid.1
  · rcases List.eq_nil_or_concat' parts with rfl | ⟨before, part, rfl⟩
    · rfl
    · rw [List.getLast?_concat] at hlast
      obtain ⟨hne, hsolid⟩ := solid_fill hplaces hliterals (by simp) hlast
      rw [List.flatMap_append, List.flatMap_singleton, List.getLast?_append_of_ne_nil _ hne]
      exact hsolid.2

end Filling

end TemplatePart

/-- Notation as it may be handed to the evaluator without another look at it. -/
structure Canonical (e : Text) : Prop where
  /-- Validation accepts it. -/
  valid : validateExpression e = .ok ()
  /-- It has a numeric operand. -/
  operand : hasNumericOperand e = true
  /-- No blank stands at either end of it. -/
  trimmed : Text.trim e = e
  /-- None of the signatures is found in it. -/
  unblocked : ∀ s ∈ Signature.table, s.pattern.find e = none

namespace Canonical

variable {e : Text}

/-- No checkpoint finds a signature in canonical notation. -/
theorem findBlocked_eq_none (h : Canonical e) (checkpoint : Checkpoint) :
    findBlocked e checkpoint = none :=
  findBlocked_eq_none_iff.mpr fun s hs _ => h.unblocked s hs

/-- Canonical notation passes the last checks before dispatch. -/
theorem clear_eq_ok (h : Canonical e) : clear e = .ok () :=
  clear_eq_ok_iff.mpr
    ⟨h.findBlocked_eq_none .dispatch, h.operand, validateExpression_eq_ok_iff.mp h.valid⟩

/-- Filling a canonical template with decimal literals gives canonical notation. -/
theorem of_fillTemplate {parts : List TemplatePart} {operands : List Text}
    (hparts : TemplatePart.areCanonical parts = true)
    (hplaces : parts.filterMap TemplatePart.place? = List.range operands.length)
    (hliterals : ∀ o ∈ operands, IsDecimalLiteral o) :
    Canonical (fillTemplate parts operands) := by
  simp only [TemplatePart.areCanonical, Bool.and_eq_true, List.contains_iff_mem] at hparts
  obtain ⟨⟨⟨hspelled, hfirst⟩, hlast⟩, hoperand⟩ := hparts
  have hliteral := TemplatePart.isDecimalLiteral_of_mem hplaces hliterals hoperand
  obtain ⟨digit, hdigit, hisDigit⟩ := hliteral.exists_digit
  have hmem : digit ∈ fillTemplate parts operands :=
    List.mem_flatMap.mpr ⟨.operand 0, hoperand, hdigit⟩
  have hvalid : validateExpression (fillTemplate parts operands) = .ok () :=
    validateExpression_of_spelled (TemplatePart.spelled_fillTemplate hplaces hliterals hspelled)
      (List.ne_nil_of_mem hmem)
  refine ⟨hvalid, ?_, ?_, find_eq_none_of_isClean (validateExpression_eq_ok_iff.mp hvalid)⟩
  · rw [hasNumericOperand, Bool.or_eq_true]
    exact Or.inl (Pattern.occursIn_one_iff.mpr ⟨digit, hmem, hisDigit⟩)
  · exact Text.trim_eq_self_iff.mpr
      (TemplatePart.solid_fillTemplate hplaces hliterals hfirst hlast)

end Canonical

/-- The templates of the table are canonical. -/
theorem areCanonical_of_mem_table : ∀ rule ∈ TranslationRule.table,
    TemplatePart.areCanonical rule.template = true := by
  simpa only [List.all_eq_true] using
    (by rfl : (TranslationRule.table.all fun rule =>
      TemplatePart.areCanonical rule.template) = true)

/-- The notation of a filled template of the table is canonical. -/
theorem Translation.FilledIn.canonical {phrase : Text} {rule : TranslationRule}
    {operands : List Text} {t : Translation} (h : t.FilledIn phrase rule operands) :
    Canonical t.expression := by
  rw [h.expression_eq]
  exact Canonical.of_fillTemplate
    (areCanonical_of_mem_table rule (List.mem_of_find?_eq_some h.rule_eq)) h.places_eq h.literals

/-- The notation of every translation is canonical. -/
theorem canonical_of_translate {phrase : Text} {t : Translation} (h : translate phrase = some t) :
    Canonical t.expression := by
  obtain ⟨_, _, hfilled⟩ := exists_filledIn_of_translate h
  exact hfilled.canonical

/-- What holds of digits, of points and of the fixed parts of the templates holds of all characters
that a translation is made of. -/
theorem forall_mem_translation (holds : Char → Bool)
    (hdigit : ∀ c, c.isDigit = true → holds c = true) (hpoint : holds '.' = true)
    (hfixed : (TranslationRule.table.all fun rule => rule.template.all fun part =>
      (part.fill []).all holds) = true)
    {phrase : Text} {t : Translation} (h : translate phrase = some t) :
    ∀ c ∈ t.expression, holds c = true := by
  obtain ⟨rule, operands, hfilled⟩ := exists_filledIn_of_translate h
  have hrule : rule ∈ TranslationRule.table := List.mem_of_find?_eq_some hfilled.rule_eq
  have hparts := List.all_eq_true.mp (List.all_eq_true.mp hfixed rule hrule)
  intro c hc
  rw [hfilled.expression_eq, TemplatePart.fillTemplate_eq_flatMap, List.mem_flatMap] at hc
  obtain ⟨part, hmem, hc⟩ := hc
  cases part with
  | fixed text => exact List.all_eq_true.mp (hparts _ hmem) c hc
  | operand index =>
    have hliteral :=
      TemplatePart.isDecimalLiteral_of_mem hfilled.places_eq hfilled.literals hmem
    rcases hliteral.digit_or_point hc with hc | rfl
    · exact hdigit c hc
    · exact hpoint

/-- A share of a number is translated by the first rule. -/
theorem translate_share : translate "12.5% of 80".toList =
    some ⟨"N1", "percent of", "(12.5 / 100) * 80".toList⟩ := by
  decide +kernel

/-- Every translation is the template of its rule, filled with decimal literals that stand in the
phrase in their order, and is canonical notation. So no phrase is turned away for a signature in its
translation. -/
theorem translations_are_filled_and_canonical :
    (∀ (phrase : Text) (t : Translation), translate phrase = some t →
      ∃ rule operands, t.FilledIn phrase rule operands ∧ Canonical t.expression) ∧
    ∀ (policy : Policy) (input : Text) (evidence : SignatureMatch),
      parsePhrase policy input = .error (.blocked evidence) → evidence.checkpoint = .input := by
  constructor
  · intro phrase t ht
    obtain ⟨rule, operands, hfilled⟩ := exists_filledIn_of_translate ht
    exact ⟨rule, operands, hfilled, hfilled.canonical⟩
  · intro policy input evidence hblocked
    rcases findBlocked_of_parsePhrase hblocked with hinput | ⟨t, ht, hconverted⟩
    · exact checkpoint_of_findBlocked hinput
    · rw [(canonical_of_translate ht).findBlocked_eq_none] at hconverted
      exact absurd hconverted (by simp)

/-- A share of a decimal number is translated to canonical notation, and a phrase with a signature
is turned away for the input. -/
theorem share_of_decimal_is_canonical :
    translate "12.5% of 80".toList = some ⟨"N1", "percent of", "(12.5 / 100) * 80".toList⟩ ∧
      Canonical "(12.5 / 100) * 80".toList ∧
      ∃ evidence, parsePhrase .standard "run 5 plus 5".toList = .error (.blocked evidence) ∧
        evidence.checkpoint = .input := by
  obtain ⟨_, _, _, hcanonical⟩ := translations_are_filled_and_canonical.1 _ _ translate_share
  refine ⟨translate_share, hcanonical,
    ⟨"S4".toList, .commandExecution, .input, 0, 3, "run".toList⟩, ?_, ?_⟩
  · rfl
  · exact translations_are_filled_and_canonical.2 .standard "run 5 plus 5".toList _ (by rfl)

end ExprGate
