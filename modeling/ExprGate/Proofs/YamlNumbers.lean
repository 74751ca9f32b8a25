import ExprGate.Proofs.JsonTokens
import ExprGate.Proofs.YamlNodes

/-!
# Reading back numbers in YAML

A number is written in decimal digits. They are a plain text, and a plain text of digits without a
zero in front is read as the number.
-/

namespace ExprGate.Yaml

/-- Decimal digits are read as the number that they write. -/
theorem numberFrom?_digits {digits : Text} (h : ∀ c ∈ digits, c.isDigit = true) (n : Nat) :
    numberFrom? 10 n digits = some (digits.foldl (fun n c => n * 10 + digitValue c) n) := by
  induction digits generalizing n with
  | nil => rfl
  | cons c digits ih =>
    obtain ⟨hc, hdigits⟩ := List.forall_mem_cons.mp h
    have hdigit : digit? 10 c = some (digitValue c) :=
      beq_iff_eq.mp (holds_of_isDigit (fun c => digit? 10 c == some (digitValue c)) (by rfl) hc)
    rw [numberFrom?, hdigit]
    exact ih hdigits _

/-- The digits of a natural number are read as that number. -/
theorem natural?_natText (n : Nat) : natural? (natText n) = some n := by
  have hvalue := natOfDigits_natText n
  have hnumeral := isNumeral_natText n
  obtain ⟨c, digits, htext⟩ := List.exists_cons_of_ne_nil hnumeral.1
  by_cases hzero : c = '0'
  · subst hzero
    rw [eq_nil_of_natText htext] at htext
    rw [htext] at hvalue ⊢
    rw [← hvalue]
    rfl
  · have hdigits := hnumeral.2
    rw [htext] at hvalue hdigits ⊢
    have hc := hdigits c List.mem_cons_self
    have hnumber : number? 10 (c :: digits) = some n := by
      rw [number?.eq_2 _ _ (List.cons_ne_nil c digits), numberFrom?_digits hdigits, ← hvalue]
      rfl
    have hmagnitude : magnitude? (c :: digits) = some n := by
      have hleading : hasLeadingZero (c :: digits) = false := by
        unfold hasLeadingZero
        split
        · exact absurd (List.cons.inj ‹_›).1 hzero
        · rfl
      unfold magnitude?
      split
      · exact absurd (List.cons.inj ‹_›).1 hzero
      · exact absurd (List.cons.inj ‹_›).1 hzero
      · exact absurd (List.cons.inj ‹_›).1 hzero
      · rw [hleading]
        exact hnumber
    unfold natural?
    split
    · next hplus =>
      rw [(List.cons.inj hplus).1] at hc
      exact absurd hc (by decide)
    · next hminus =>
      rw [(List.cons.inj hminus).1] at hc
      exact absurd hc (by decide)
    · exact hmagnitude

/-- Without colons and number signs, nothing in a text is structure. -/
private theorem holdsStructure_eq_false {t : Text} (h : ∀ c ∈ t, c ≠ ':' ∧ c ≠ '#') :
    holdsStructure t = false := by
  match t, h with
  | [], _ => rfl
  | [_], _ => rfl
  | b :: c :: t, h =>
    obtain ⟨-, hrest⟩ := List.forall_mem_cons.mp h
    obtain ⟨hcolon, hcomment⟩ := hrest c List.mem_cons_self
    rw [holdsStructure, beq_eq_false_iff_ne.mpr hcolon, beq_eq_false_iff_ne.mpr hcomment,
      holdsStructure_eq_false hrest]
    rfl

/-- A text of printable letters that have no other meaning is plain. -/
theorem plain_of_isKeyLetter {t : Text}
    (h : ∀ c ∈ t, (isKeyLetter c && isPrintable c) = true) : Plain t := by
  have hletter (c : Char) (hc : c ∈ t) : isPrintable c = true ∧ isBreak c = false ∧
      isSpace c = false ∧ isMark c = false ∧ c ≠ ':' ∧ c ≠ '-' ∧ c ≠ '?' ∧ c ≠ '.' := by
    have hkey := h c hc
    simp only [isKeyLetter, isGap, Bool.and_eq_true, Bool.not_eq_true', Bool.or_eq_false_iff,
      beq_eq_false_iff_ne] at hkey
    obtain ⟨⟨⟨⟨⟨⟨⟨⟨⟨hspace, -⟩, hbreak⟩, hmark⟩, hcolon⟩, hdash⟩, hquestion⟩, hpoint⟩, -⟩,
      hprint⟩ := hkey
    exact ⟨hprint, hbreak, beq_eq_false_iff_ne.mpr hspace, hmark, hcolon, hdash, hquestion, hpoint⟩
  refine ⟨fun c hc => (hletter c hc).1, fun c hc => (hletter c hc).2.1, ?_, ?_, ?_, ?_⟩
  · rw [firstIs, Option.any_eq_false]
    intro c hc
    exact (hletter c (List.mem_of_head? hc)).2.2.1
  · rw [lastIs, Option.any_eq_false]
    intro c hc
    exact (hletter c (List.mem_of_getLast? hc)).2.2.1
  · cases t with
    | nil => rfl
    | cons c t =>
      obtain ⟨-, -, -, hmark, hcolon, hdash, hquestion, hpoint⟩ := hletter c List.mem_cons_self
      have htriple : startsWithTriple (c :: t) = false := by
        unfold startsWithTriple
        split
        · next hdashes => exact absurd (List.cons.inj hdashes).1 hdash
        · next hpoints => exact absurd (List.cons.inj hpoints).1 hpoint
        · rfl
      simp [startsLikeStructure, hmark, hcolon, hdash, hquestion, htriple]
  · refine holdsStructure_eq_false fun c hc => ⟨(hletter c hc).2.2.2.2.1, ?_⟩
    rintro rfl
    exact absurd (hletter '#' hc).2.2.2.1 (by decide)

/-- The digits of a natural number are a plain text. -/
theorem plain_natText (n : Nat) : Plain (natText n) :=
  plain_of_isKeyLetter fun _ hc =>
    holds_of_isDigit (fun c => isKeyLetter c && isPrintable c) (by rfl)
      ((isNumeral_natText n).2 _ hc)

end ExprGate.Yaml
