import ExprGate.Notation
import ExprGate.Text.Alphanumeric
import Mathlib.Data.List.Basic

/-!
# Letters and blanks of valid texts

The characters that validation lets through are those of ASCII, the long s and the Kelvin sign,
which fold to letters of ASCII, and the blanks of every script. This file lists them, finds the
letters but no blank among the word characters and the alphanumeric ones, and computes the lower
case of a text made of them.
-/

namespace ExprGate

/-- Characters that are not capitals of ASCII are their own lower case there. -/
theorem toLower_of_not_capital {c : Char} (hc : ¬ (65 ≤ c.toNat ∧ c.toNat ≤ 90)) :
    c.toLower = c := by
  have hupper : ¬ (c.val ≥ 'A'.val ∧ c.val ≤ 'Z'.val) := by
    rintro ⟨hge, hle⟩
    exact hc ⟨UInt32.le_iff_toNat_le.mp hge, UInt32.le_iff_toNat_le.mp hle⟩
  exact dif_neg hupper

/-- Characters beyond ASCII have no other lower case there. -/
private theorem toLower_of_not_ascii {c : Char} (hc : 128 ≤ c.toNat) : c.toLower = c :=
  toLower_of_not_capital (by omega)

/-- The letters a to z in any case are the long s, the Kelvin sign, and the letters of ASCII. -/
theorem letter_cases_of_isLatin {c : Char} (h : isLatin c = true) : c = '\u017F' ∨ c = '\u212A' ∨
    65 ≤ c.toNat ∧ c.toNat ≤ 90 ∨ 97 ≤ c.toNat ∧ c.toNat ≤ 122 := by
  by_cases hs : c = '\u017F'
  · exact Or.inl hs
  by_cases hk : c = '\u212A'
  · exact Or.inr (Or.inl hk)
  simp only [isLatin, foldCase, if_neg hs, if_neg hk, Bool.and_eq_true, decide_eq_true_eq] at h
  right
  right
  by_cases hupper : c.val ≥ 'A'.val ∧ c.val ≤ 'Z'.val
  · exact Or.inl ⟨UInt32.le_iff_toNat_le.mp hupper.1, UInt32.le_iff_toNat_le.mp hupper.2⟩
  · have hlower : c.toLower = c := dif_neg hupper
    rw [hlower] at h
    exact Or.inr h

/-- The characters that fold to the letters a to z. -/
def latinForms : List Char :=
  "ſ\u212AabcdefghijklmnopqrstuvwxyzABCDEFGHIJKLMNOPQRSTUVWXYZ".toList

/-- Every character that folds to a letter is among the forms of the letters. -/
theorem mem_latinForms_of_isLatin {c : Char} (h : isLatin c = true) : c ∈ latinForms := by
  rcases letter_cases_of_isLatin h with rfl | rfl | hascii
  · decide
  · decide
  · have hall : ((List.range 128).all fun n => !(65 ≤ n && n ≤ 90 || 97 ≤ n && n ≤ 122) ||
        latinForms.contains (Char.ofNat n)) = true := by rfl
    have hc := List.all_eq_true.mp hall c.toNat (List.mem_range.mpr (by omega))
    simp only [Bool.or_eq_true, Bool.not_eq_true', Bool.or_eq_false_iff, Bool.and_eq_false_iff,
      decide_eq_false_iff_not, Char.ofNat_toNat, List.contains_iff_mem] at hc
    exact hc.resolve_left (by omega)

/-- What holds of every form of a letter holds of every character that folds to one. -/
theorem holds_of_isLatin {holds : Char → Bool} (hforms : latinForms.all holds = true) {c : Char}
    (h : isLatin c = true) : holds c = true :=
  List.all_eq_true.mp hforms c (mem_latinForms_of_isLatin h)

set_option maxRecDepth 8000 in
/-- Every character that folds to a letter of ASCII is a word character. -/
theorem isWordCharacter_of_isLatin {c : Char} (h : isLatin c = true) :
    isWordCharacter c = true :=
  holds_of_isLatin (by rfl) h

/-- The blanks, one by one. -/
def blankForms : List Char :=
  [0x09, 0x0A, 0x0B, 0x0C, 0x0D, 0x20, 0x85, 0xA0, 0x1680, 0x2000, 0x2001, 0x2002, 0x2003, 0x2004,
    0x2005, 0x2006, 0x2007, 0x2008, 0x2009, 0x200A, 0x2028, 0x2029, 0x202F, 0x205F, 0x3000].map
      Char.ofNat

/-- What holds of each of the blanks holds of every blank character. -/
theorem holds_of_isBlank {holds : Char → Bool} (hforms : blankForms.all holds = true) {c : Char}
    (h : isBlank c = true) : holds c = true := by
  refine List.all_eq_true.mp hforms c (List.mem_map.mpr ⟨c.toNat, ?_, Char.ofNat_toNat c⟩)
  simp only [isBlank, Bool.or_eq_true, Bool.and_eq_true, decide_eq_true_eq, beq_iff_eq] at h
  simp only [List.mem_cons, List.not_mem_nil, or_false]
  omega

set_option maxRecDepth 8000 in
/-- Every character that folds to a letter of ASCII is alphanumeric. -/
theorem isAlphanumeric_of_isLatin {c : Char} (h : isLatin c = true) : isAlphanumeric c = true :=
  holds_of_isLatin (by rfl) h

set_option maxRecDepth 8000 in
/-- No blank is alphanumeric. -/
theorem isAlphanumeric_of_isBlank {c : Char} (h : isBlank c = true) :
    isAlphanumeric c = false := by
  have hforms : (blankForms.all fun c => !isAlphanumeric c) = true := by rfl
  simpa using holds_of_isBlank hforms h

/-- What holds of each of the ten digits holds of every digit. -/
theorem holds_of_isDigit (holds : Char → Bool)
    (hdigits : ((List.range 10).all fun n => holds (Char.ofNat (48 + n))) = true) {c : Char}
    (h : c.isDigit = true) : holds c = true := by
  have hlow : 48 ≤ c.toNat := (Char.isDigit_iff_toNat.mp h).1
  have hhigh : c.toNat ≤ 57 := (Char.isDigit_iff_toNat.mp h).2
  have hc := List.all_eq_true.mp hdigits (c.toNat - 48) (List.mem_range.mpr (by omega))
  rwa [Nat.add_sub_cancel' hlow, Char.ofNat_toNat] at hc

set_option maxRecDepth 8000 in
/-- No blank is a word character. -/
theorem isWordCharacter_of_isBlank {c : Char} (h : isBlank c = true) :
    isWordCharacter c = false := by
  have hforms : (blankForms.all fun c => !isWordCharacter c) = true := by rfl
  simpa using holds_of_isBlank hforms h

/-- The capitals of ASCII are letters. -/
theorem isLatin_of_capital {c : Char} (hc : 65 ≤ c.toNat ∧ c.toNat ≤ 90) :
    isLatin c = true := by
  have hall : ((List.range 128).all fun n => !(65 ≤ n && n ≤ 90) ||
      isLatin (Char.ofNat n)) = true := by rfl
  have hn := List.all_eq_true.mp hall c.toNat (List.mem_range.mpr (by omega))
  rw [Char.ofNat_toNat] at hn
  simpa [hc] using hn

/-- Case folding changes letters only. -/
theorem foldCase_of_not_isLatin {c : Char} (h : isLatin c = false) : foldCase c = c := by
  have hs : c ≠ '\u017F' := by
    rintro rfl
    exact absurd h (by decide)
  have hk : c ≠ '\u212A' := by
    rintro rfl
    exact absurd h (by decide)
  have hcapital : ¬ (65 ≤ c.toNat ∧ c.toNat ≤ 90) := fun hc =>
    Bool.false_ne_true (h.symm.trans (isLatin_of_capital hc))
  rw [foldCase, if_neg hs, if_neg hk, toLower_of_not_capital hcapital]

/-- A character of notation is no capital of ASCII. -/
theorem not_capital_of_isNotationCharacter {c : Char} (h : isNotationCharacter c = true) :
    ¬ (65 ≤ c.toNat ∧ c.toNat ≤ 90) := by
  simp only [isNotationCharacter, Bool.or_eq_true] at h
  rcases h with (hdigit | hsymbol) | hblank
  · have hle : c.toNat ≤ 57 := (Char.isDigit_iff_toNat.mp hdigit).2
    omega
  · have hall : ("+-*/().^,".toList.all fun d => !(65 ≤ d.toNat && d.toNat ≤ 90)) = true := by
      decide
    have hc := List.all_eq_true.mp hall c (by simpa using hsymbol)
    simp only [Bool.not_eq_true', Bool.and_eq_false_iff, decide_eq_false_iff_not] at hc
    omega
  · simp only [isBlank, Bool.or_eq_true, Bool.and_eq_true, decide_eq_true_eq, beq_iff_eq] at hblank
    omega

/-- A character of notation beyond ASCII is a blank. -/
theorem isBlank_of_isNotationCharacter {c : Char} (h : isNotationCharacter c = true)
    (hc : 128 ≤ c.toNat) : isBlank c = true := by
  simp only [isNotationCharacter, Bool.or_eq_true] at h
  rcases h with (hdigit | hsymbol) | hblank
  · have hle : c.toNat ≤ 57 := (Char.isDigit_iff_toNat.mp hdigit).2
    omega
  · have hsmall : ("+-*/().^,".toList.all fun d => d.toNat < 128) = true := by decide
    have hlt := List.all_eq_true.mp hsmall c (by simpa using hsymbol)
    rw [decide_eq_true_eq] at hlt
    omega
  · exact hblank

/-- No blank lies in a run of capitals. -/
private theorem capitalRuns_avoid_blanks : (capitalRuns.all fun r => r.last < 0x85 ||
    0xA0 < r.first && r.last < 0x1680 || 0x1680 < r.first && r.last < 0x2000 ||
    0x205F < r.first && r.last < 0x3000 || 0x3000 < r.first) = true := by
  decide +kernel

/-- Blanks beyond ASCII are their own small letters. -/
theorem smallLetter_of_isBlank {c : Char} (h : isBlank c = true) (hc : 128 ≤ c.toNat) :
    smallLetter c = c := by
  have hnone : capitalRuns.find? (fun r => r.first ≤ c.toNat && c.toNat ≤ r.last &&
      (c.toNat - r.first) % r.step == 0) = none := by
    rw [List.find?_eq_none]
    intro r hr hinside
    simp only [Bool.and_eq_true, decide_eq_true_eq] at hinside
    simp only [isBlank, Bool.or_eq_true, Bool.and_eq_true, decide_eq_true_eq, beq_iff_eq] at h
    have havoid := List.all_eq_true.mp capitalRuns_avoid_blanks r hr
    simp only [Bool.or_eq_true, Bool.and_eq_true, decide_eq_true_eq] at havoid
    omega
  simp only [smallLetter, hnone]

/-- The lower case of a valid character: that of ASCII, except that the Kelvin sign becomes a k. -/
def smallForm (c : Char) : Char := if c = '\u212A' then 'k' else c.toLower

/-- Characters of notation have no other small form. -/
theorem smallForm_of_isNotationCharacter {c : Char} (h : isNotationCharacter c = true) :
    smallForm c = c := by
  have hk : c ≠ '\u212A' := by
    rintro rfl
    exact absurd h (by decide)
  rw [smallForm, if_neg hk, toLower_of_not_capital (not_capital_of_isNotationCharacter h)]

section Lowering

variable {c : Char} (behind ahead : Text)

/-- Lower-casing takes a character of ASCII to its small form. -/
theorem lowerAt_of_ascii (hc : c.toNat < 128) : lowerAt behind c ahead = [smallForm c] := by
  have hk : c ≠ '\u212A' := by
    rintro rfl
    revert hc
    decide
  rw [lowerAt, if_pos hc, smallForm, if_neg hk]

/-- Lower-casing takes a letter a to z in any case to its small form. -/
theorem lowerAt_of_isLatin (h : isLatin c = true) : lowerAt behind c ahead = [smallForm c] := by
  rcases letter_cases_of_isLatin h with rfl | rfl | hascii
  · have hsmall : smallLetter '\u017F' = '\u017F' := by rfl
    simp [lowerAt, hsmall, smallForm, toLower_of_not_ascii]
  · have hsmall : smallLetter '\u212A' = 'k' := by rfl
    simp [lowerAt, hsmall, smallForm]
  · exact lowerAt_of_ascii behind ahead (by omega)

/-- Lower-casing leaves a blank beyond ASCII as it is. -/
theorem lowerAt_of_isBlank (h : isBlank c = true) (hc : 128 ≤ c.toNat) :
    lowerAt behind c ahead = [smallForm c] := by
  have hne (d : Char) (hd : isBlank d = false) : c ≠ d := by
    rintro rfl
    rw [h] at hd
    exact Bool.noConfusion hd
  rw [lowerAt, if_neg (by omega), if_neg (hne 'İ' (by decide)), if_neg (hne 'Σ' (by decide)),
    smallLetter_of_isBlank h hc, smallForm, if_neg (hne '\u212A' (by decide)),
    toLower_of_not_ascii hc]

/-- Lower-casing takes a valid character to its small form, whatever stands around it. -/
theorem lowerAt_of_valid (h : (isLatin c || isNotationCharacter c) = true) :
    lowerAt behind c ahead = [smallForm c] := by
  rcases (Bool.or_eq_true _ _).mp h with hlatin | hsymbol
  · exact lowerAt_of_isLatin behind ahead hlatin
  by_cases hascii : c.toNat < 128
  · exact lowerAt_of_ascii behind ahead hascii
  · have hblank := isBlank_of_isNotationCharacter hsymbol (by omega)
    exact lowerAt_of_isBlank behind ahead hblank (by omega)

end Lowering

/-- Lower-casing takes valid characters to their small forms, whatever stands before them. -/
private theorem lowerFrom_eq_map_smallForm {t : Text}
    (h : ∀ c ∈ t, (isLatin c || isNotationCharacter c) = true) (behind : Text) :
    lowerFrom behind t = t.map smallForm := by
  induction t generalizing behind with
  | nil => rfl
  | cons c t ih =>
    obtain ⟨hc, ht⟩ := List.forall_mem_cons.mp h
    rw [lowerFrom, lowerAt_of_valid behind t hc, ih ht, List.map_cons, List.singleton_append]

/-- Lower-casing a text of valid characters takes each of them to its small form. -/
theorem lower_eq_map_smallForm {t : Text} (h : hasValidCharacters t = true) :
    Text.lower t = t.map smallForm :=
  lowerFrom_eq_map_smallForm (List.all_eq_true.mp ((Bool.and_eq_true _ _).mp h).2) []

end ExprGate
