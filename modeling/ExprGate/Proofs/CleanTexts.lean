import ExprGate.Proofs.Erasure
import ExprGate.Proofs.Letters
import ExprGate.Proofs.Occurrences
import ExprGate.Proofs.Stages

/-!
# Clean texts

A clean text passes both passes of validation. The second pass leaves neither the long s nor the
Kelvin sign, so lower-casing, case folding and the lower case of ASCII agree on a clean text, and a
fragment that lasts through the erasure of the recognized names does not occur in it in any case.
-/

namespace ExprGate

/-- A text is clean exactly when its characters are valid and the erasure of the recognized names
reduces its lower case to notation. -/
theorem isClean_iff {t : Text} : isClean t = true ↔ hasValidCharacters t = true ∧
    ∀ c ∈ Text.eraseAll recognizedNames (Text.lower t), isNotationCharacter c = true := by
  simp only [isClean, leftoverText, Bool.and_eq_true, List.isEmpty_iff, List.filter_eq_nil_iff,
    Bool.not_eq_true', Bool.not_eq_false]
  rfl

/-- A fragment that lasts does not occur in the lower case of a clean text. -/
theorem not_infix_lower_of_lasts {t fragment : Text} (h : isClean t = true)
    (hlasts : Text.lasts recognizedNames fragment = true) : ¬ fragment <:+: Text.lower t :=
  Text.not_infix_of_lasts hlasts (isClean_iff.mp h).2

/-- Fragments that last through the erasure of the recognized names. -/
def foreignFragments : List String :=
  ["ſ", "u", "d", "v", "y", "x", "m", "h", "w", "k", "j", ":", "<", "%", "cr", "ar", "er", "ap",
    "pr", "ig", "rg", "act", "of", "ro", "cosine", "tangent"]

/-- Every foreign fragment lasts. -/
theorem lasts_of_mem_foreignFragments : ∀ f ∈ foreignFragments,
    Text.lasts recognizedNames f.toList = true := by
  decide +kernel

/-- A clean text has neither a long s nor a Kelvin sign. -/
theorem ne_of_mem_clean {t : Text} (h : isClean t = true) {c : Char} (hc : c ∈ t) :
    c ≠ '\u017F' ∧ c ≠ '\u212A' := by
  have hsmall (d : Char) (hd : d ∈ t) : [smallForm d] <:+: Text.lower t := by
    rw [lower_eq_map_smallForm (isClean_iff.mp h).1, List.singleton_infix_iff]
    exact List.mem_map_of_mem hd
  constructor
  · rintro rfl
    exact not_infix_lower_of_lasts h (lasts_of_mem_foreignFragments "ſ" (by decide)) (hsmall _ hc)
  · rintro rfl
    exact not_infix_lower_of_lasts h (lasts_of_mem_foreignFragments "k" (by decide)) (hsmall _ hc)

/-- Lower-casing a clean text is lower-casing its letters of ASCII. -/
theorem lower_of_isClean {t : Text} (h : isClean t = true) : Text.lower t = t.map Char.toLower := by
  rw [lower_eq_map_smallForm (isClean_iff.mp h).1]
  refine List.map_congr_left fun c hc => ?_
  rw [smallForm, if_neg (ne_of_mem_clean h hc).2]

/-- Case folding takes a clean text to its lower case. -/
theorem map_foldCase_of_isClean {t : Text} (h : isClean t = true) :
    t.map foldCase = Text.lower t := by
  rw [lower_of_isClean h]
  refine List.map_congr_left fun c hc => ?_
  rw [foldCase, if_neg (ne_of_mem_clean h hc).1, if_neg (ne_of_mem_clean h hc).2]

/-- Whether one of the foreign fragments lies in the text. -/
def hasForeign (t : Text) : Bool := foreignFragments.any fun f => f.toList <:+: t

/-- No text with a foreign fragment occurs in a clean text, in any case. -/
theorem not_infix_of_hasForeign {t f : Text} (h : isClean t = true) (hf : hasForeign f = true) :
    ¬ f <:+: t.map foldCase := by
  obtain ⟨fragment, hmem, hfragment⟩ := List.any_eq_true.mp hf
  intro hinside
  rw [map_foldCase_of_isClean h] at hinside
  exact not_infix_lower_of_lasts h (lasts_of_mem_foreignFragments fragment hmem)
    ((decide_eq_true_eq.mp hfragment).trans hinside)

/-- A pattern that is barred by the foreign fragments occurs in no clean text. -/
theorem occursIn_eq_false_of_isClean {p : Pattern} {t : Text}
    (hp : p.barredBy hasForeign = true) (h : isClean t = true) : p.occursIn t = false :=
  Pattern.occursIn_eq_false_of_barredBy hp fun _ hf => not_infix_of_hasForeign h hf

end ExprGate
