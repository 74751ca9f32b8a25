import ExprGate.Proofs.Letters
import ExprGate.Proofs.Readings
import ExprGate.Proofs.Trimming
import ExprGate.Translation

/-!
# Operands

Every rule of the translation takes decimal literals out of a phrase, in the order in which they
stand there, and its template has one place for each of them. Which operands a reading of a pattern
has is found by recursion on the pattern, so it is enough to look at the patterns of the table.
-/

namespace ExprGate

/-- One or more digits. -/
def IsNumeral (t : Text) : Prop := t ≠ [] ∧ ∀ c ∈ t, c.isDigit = true

/-- One or more digits, possibly followed by a point and one or more digits. -/
def IsDecimalLiteral (t : Text) : Prop :=
  ∃ whole, IsNumeral whole ∧ (t = whole ∨ ∃ fraction, IsNumeral fraction ∧
    t = whole ++ '.' :: fraction)

namespace IsDecimalLiteral

variable {t : Text}

/-- A decimal literal begins with a digit. -/
theorem exists_first_digit (h : IsDecimalLiteral t) :
    ∃ digit rest, t = digit :: rest ∧ digit.isDigit = true := by
  obtain ⟨whole, ⟨hne, hdigits⟩, hcases⟩ := h
  obtain ⟨digit, rest, rfl⟩ := List.exists_cons_of_ne_nil hne
  have hdigit : digit.isDigit = true := hdigits digit List.mem_cons_self
  rcases hcases with rfl | ⟨fraction, _, rfl⟩
  · exact ⟨digit, rest, rfl, hdigit⟩
  · exact ⟨digit, rest ++ '.' :: fraction, rfl, hdigit⟩

/-- A decimal literal ends with a digit. -/
theorem exists_last_digit (h : IsDecimalLiteral t) :
    ∃ init digit, t = init ++ [digit] ∧ digit.isDigit = true := by
  have hnumeral {whole : Text} (hwhole : IsNumeral whole) :
      ∃ init digit, whole = init ++ [digit] ∧ digit.isDigit = true := by
    obtain ⟨init, digit, rfl⟩ := (List.eq_nil_or_concat' whole).resolve_left hwhole.1
    exact ⟨init, digit, rfl, hwhole.2 digit (by simp)⟩
  obtain ⟨whole, hwhole, rfl | ⟨fraction, hfraction, rfl⟩⟩ := h
  · exact hnumeral hwhole
  · obtain ⟨init, digit, rfl, hdigit⟩ := hnumeral hfraction
    exact ⟨whole ++ '.' :: init, digit, by simp, hdigit⟩

/-- A decimal literal is not empty. -/
theorem ne_nil (h : IsDecimalLiteral t) : t ≠ [] := by
  obtain ⟨digit, rest, rfl, _⟩ := h.exists_first_digit
  exact List.cons_ne_nil digit rest

end IsDecimalLiteral

/-- The texts stand in another one, one after another and without overlap. -/
def Text.HasInOrder : List Text → Text → Prop
  | [], _ => True
  | part :: parts, t => ∃ before after, t = before ++ part ++ after ∧ HasInOrder parts after

namespace Text.HasInOrder

variable {parts : List Text} {t : Text}

/-- Text after the last part makes no difference. -/
theorem append_right (h : HasInOrder parts t) (after : Text) : HasInOrder parts (t ++ after) := by
  induction parts generalizing t with
  | nil => trivial
  | cons part parts ih =>
    obtain ⟨before, rest, rfl, hrest⟩ := h
    exact ⟨before, rest ++ after, by simp, ih hrest⟩

/-- Text before the first part makes no difference. -/
theorem append_left (h : HasInOrder parts t) (before : Text) : HasInOrder parts (before ++ t) := by
  cases parts with
  | nil => trivial
  | cons part parts =>
    obtain ⟨first, rest, rfl, hrest⟩ := h
    exact ⟨before ++ first, rest, by simp, hrest⟩

/-- Parts of two texts stand in the one followed by the other. -/
theorem append (h : HasInOrder parts t) {parts' : List Text} {t' : Text}
    (h' : HasInOrder parts' t') : HasInOrder (parts ++ parts') (t ++ t') := by
  induction parts generalizing t with
  | nil => exact h'.append_left t
  | cons part parts ih =>
    obtain ⟨before, rest, rfl, hrest⟩ := h
    exact ⟨before, rest ++ t', by simp, ih hrest⟩

end Text.HasInOrder

namespace TranslationRule

variable {behind m after : Text} {operands : List Text}

/-- What reads as digits is a numeral, without operands. -/
theorem isNumeral_of_reads_digits (h : digits.Reads behind m after operands) :
    IsNumeral m ∧ operands = [] := by
  obtain ⟨_, rest, _, _, rfl, rfl, ⟨⟨c, rfl, hc⟩, rfl⟩, hrest, rfl⟩ := h
  exact ⟨⟨List.cons_ne_nil c rest, List.forall_mem_cons.mpr ⟨hc, hrest⟩⟩, rfl⟩

/-- What reads as a point is a point, without operands. -/
private theorem eq_of_reads_point (h : (Pattern.char '.').Reads behind m after operands) :
    m = ['.'] ∧ operands = [] := by
  obtain ⟨⟨c, rfl, hc⟩, rfl⟩ := h
  have hfold : foldCase c = '.' := beq_iff_eq.mp hc
  have hlatin : isLatin c = false := by
    rw [isLatin, hfold]
    decide
  rw [foldCase_of_not_isLatin hlatin] at hfold
  exact ⟨by rw [hfold], rfl⟩

/-- What reads as a decimal literal is one, and it is the one operand. -/
theorem isDecimalLiteral_of_reads (h : decimal.Reads behind m after operands) :
    IsDecimalLiteral m ∧ operands = [m] := by
  obtain ⟨_, rfl, whole, rest, operands₁, operands₂, rfl, rfl, hwhole, hrest⟩ := h
  obtain ⟨hnumeral, rfl⟩ := isNumeral_of_reads_digits hwhole
  rcases hrest with hfraction | ⟨rfl, rfl⟩
  · obtain ⟨_, fraction, _, _, rfl, rfl, hpoint, hdigits⟩ := hfraction
    obtain ⟨rfl, rfl⟩ := eq_of_reads_point hpoint
    obtain ⟨hfraction, rfl⟩ := isNumeral_of_reads_digits hdigits
    exact ⟨⟨whole, hnumeral, Or.inr ⟨fraction, hfraction, rfl⟩⟩, rfl⟩
  · exact ⟨⟨whole, hnumeral, Or.inl (List.append_nil whole)⟩, rfl⟩

end TranslationRule

namespace Pattern

/-- How many operands each reading of the pattern has, when all of them are decimal literals. -/
def decimalCount : Pattern → Option Nat
  | never | nothing | boundary | one _ | many _ => some 0
  | seq p q => do return (← p.decimalCount) + (← q.decimalCount)
  | either p q => if p.decimalCount = q.decimalCount then p.decimalCount else none
  | operand p => if operand p = TranslationRule.decimal then some 1 else none

/-- The operands of a reading are decimal literals that stand in it in their order. -/
theorem operands_of_reads {p : Pattern} {n : Nat} {behind m after : Text} {operands : List Text}
    (hp : p.decimalCount = some n) (h : p.Reads behind m after operands) :
    operands.length = n ∧ (∀ operand ∈ operands, IsDecimalLiteral operand) ∧
      Text.HasInOrder operands m := by
  induction p generalizing n behind m after operands with
  | never => exact h.elim
  | nothing | one _ | many _ =>
    obtain ⟨_, rfl⟩ := h
    exact ⟨Option.some.inj hp, by simp, trivial⟩
  | boundary =>
    obtain ⟨_, rfl, _⟩ := h
    exact ⟨Option.some.inj hp, by simp, trivial⟩
  | seq p q ihp ihq =>
    obtain ⟨n₁, hn₁, n₂, hn₂, rfl⟩ : ∃ n₁, p.decimalCount = some n₁ ∧ ∃ n₂,
        q.decimalCount = some n₂ ∧ n₁ + n₂ = n := by
      simpa [decimalCount, Option.bind_eq_some_iff] using hp
    obtain ⟨m₁, m₂, operands₁, operands₂, rfl, rfl, hfirst, hsecond⟩ := h
    obtain ⟨hlength₁, hliterals₁, horder₁⟩ := ihp hn₁ hfirst
    obtain ⟨hlength₂, hliterals₂, horder₂⟩ := ihq hn₂ hsecond
    refine ⟨?_, List.forall_mem_append.mpr ⟨hliterals₁, hliterals₂⟩, horder₁.append horder₂⟩
    rw [List.length_append, hlength₁, hlength₂]
  | either p q ihp ihq =>
    rw [decimalCount] at hp
    split at hp
    · next heq => exact h.elim (ihp hp) (ihq (heq ▸ hp))
    · exact absurd hp (by simp)
  | operand p =>
    rw [decimalCount] at hp
    split at hp
    · next heq =>
      rw [heq] at h
      obtain ⟨hliteral, rfl⟩ := TranslationRule.isDecimalLiteral_of_reads h
      exact ⟨Option.some.inj hp, by simpa using hliteral, [], [], by simp, trivial⟩
    · exact absurd hp (by simp)

end Pattern

/-- The operand that a part of a template has a place for. -/
def TemplatePart.place? : TemplatePart → Option Nat
  | .fixed _ => none
  | .operand index => some index

/-- Each rule reads as many decimal literals as its template has places, and uses them in order. -/
theorem decimalCount_of_mem_table : ∀ rule ∈ TranslationRule.table, ∃ n,
    rule.pattern.decimalCount = some n ∧
      rule.template.filterMap TemplatePart.place? = List.range n := by
  have hall : (TranslationRule.table.all fun rule => rule.pattern.decimalCount.any fun n =>
      rule.template.filterMap TemplatePart.place? == List.range n) = true := by rfl
  intro rule hrule
  have hcount := List.all_eq_true.mp hall rule hrule
  cases hn : rule.pattern.decimalCount with
  | none => simp [hn] at hcount
  | some n => exact ⟨n, rfl, by simpa [hn] using hcount⟩

/-- A rule of the table is found by its identifier. -/
theorem find?_id_of_mem_table : ∀ rule ∈ TranslationRule.table,
    TranslationRule.table.find? (fun r => r.id == rule.id) = some rule := by
  have hall : (TranslationRule.table.all fun rule =>
      TranslationRule.table.find? (fun r => r.id == rule.id) == some rule) = true := by rfl
  exact fun rule hrule => beq_iff_eq.mp (List.all_eq_true.mp hall rule hrule)

/-- Two rules of the table with the same identifier are the same. -/
theorem TranslationRule.eq_of_id_eq {rule other : TranslationRule} (hrule : rule ∈ table)
    (hother : other ∈ table) (h : rule.id = other.id) : rule = other := by
  have hfind := find?_id_of_mem_table rule hrule
  rw [h, find?_id_of_mem_table other hother] at hfind
  exact (Option.some.inj hfind).symm

/-- The translation of the phrase by the rule: its template, with the operands from the phrase. -/
structure Translation.FilledIn (phrase : Text) (rule : TranslationRule) (operands : List Text)
    (t : Translation) : Prop where
  /-- The rule is the one of the table that the translation names. -/
  rule_eq : TranslationRule.table.find? (fun r => r.id == t.ruleId) = some rule
  /-- The translation gives the name of the rule. -/
  ruleName_eq : t.ruleName = rule.name
  /-- The template has a place for each operand, in their order. -/
  places_eq : rule.template.filterMap TemplatePart.place? = List.range operands.length
  /-- The operands are decimal literals. -/
  literals : ∀ operand ∈ operands, IsDecimalLiteral operand
  /-- The operands stand in the phrase, one after another and without overlap. -/
  inOrder : Text.HasInOrder operands phrase
  /-- The notation is the template with the operands in their places. -/
  expression_eq : t.expression = fillTemplate rule.template operands

/-- A translation is due to a rule of the table and its first match in the trimmed phrase that is
not disqualified. -/
theorem exists_firstMatch_of_translate {phrase : Text} {t : Translation}
    (h : translate phrase = some t) : ∃ rule ∈ TranslationRule.table,
      ∃ m, rule.firstMatch (Text.trim phrase) = some m ∧
        t = ⟨rule.id, rule.name, fillTemplate rule.template m.operands⟩ := by
  obtain ⟨rule, hrule, happly⟩ := List.exists_of_findSome?_eq_some h
  obtain ⟨expression, hexpression, rfl⟩ := Option.map_eq_some_iff.mp happly
  obtain ⟨m, hm, rfl⟩ := Option.map_eq_some_iff.mp hexpression
  exact ⟨rule, hrule, m, hm, rfl⟩

/-- A translation is due to a rule of the table and a match of it in the trimmed phrase. -/
theorem exists_match_of_translate {phrase : Text} {t : Translation}
    (h : translate phrase = some t) : ∃ rule ∈ TranslationRule.table,
      ∃ m ∈ rule.pattern.findAll (Text.trim phrase),
        t = ⟨rule.id, rule.name, fillTemplate rule.template m.operands⟩ := by
  obtain ⟨rule, hrule, m, hm, rfl⟩ := exists_firstMatch_of_translate h
  exact ⟨rule, hrule, m, List.mem_of_find?_eq_some hm, rfl⟩

/-- Every translation is the template of its rule, filled with operands from the phrase. -/
theorem exists_filledIn_of_translate {phrase : Text} {t : Translation}
    (h : translate phrase = some t) : ∃ rule operands, t.FilledIn phrase rule operands := by
  obtain ⟨rule, hrule, m, hm, rfl⟩ := exists_match_of_translate h
  obtain ⟨n, hcount, hplaces⟩ := decimalCount_of_mem_table rule hrule
  obtain ⟨htrim, hreads⟩ := Pattern.readIn_of_mem_findAll hm
  obtain ⟨hlength, hliterals, horder⟩ := Pattern.operands_of_reads hcount hreads
  obtain ⟨before, after, hphrase, _, _⟩ := Text.exists_trim phrase
  refine ⟨rule, m.operands, find?_id_of_mem_table rule hrule, rfl, ?_, hliterals, ?_, rfl⟩
  · rw [hlength, hplaces]
  · have htrimmed := (horder.append_left m.before).append_right m.after
    rw [hphrase, htrim]
    exact (htrimmed.append_left before).append_right after

end ExprGate
