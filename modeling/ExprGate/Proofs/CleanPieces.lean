import ExprGate.Proofs.CaseBlindness

/-!
# Clean texts, piece by piece

No recognized name has a character of notation in it, so no step of the erasure reaches over such a
character: what stands on its two sides is cleaned independently, however unclean it may be. Names
that stand side by side without such a character between them are cleaned as well, since no copy of
a name begins in one of them and ends in the next.
-/

namespace ExprGate

namespace Text

variable {word : Text} {c : Char}

/-- A word that a text begins with ends before a character that the word does not have. -/
theorem prefix_of_prefix_append_cons (hc : c ∉ word) {before after : Text}
    (h : word <+: before ++ c :: after) : word <+: before := by
  rcases List.prefix_or_prefix_of_prefix h (List.prefix_append before (c :: after)) with h' | h'
  · exact h'
  · obtain ⟨rest, rfl⟩ := h'
    have hrest : rest <+: c :: after := (List.prefix_append_right_inj before).mp h
    cases rest with
    | nil => rw [List.append_nil]
    | cons d rest =>
      obtain ⟨rfl, _⟩ := List.cons_prefix_cons.mp hrest
      exact absurd (by simp) hc

/-- Erasing a word does not reach over a character that the word does not have. -/
theorem erase_append_cons (hword : word ≠ []) (hc : c ∉ word) (before after : Text) :
    erase word (before ++ c :: after) = erase word before ++ c :: erase word after := by
  have hstay {t : Text} (h : ¬ word <+: t) : ¬ word <+: t ++ c :: after :=
    fun hstart => h (prefix_of_prefix_append_cons hc hstart)
  simp only [erase_eq_substitute]
  induction before using scan_induction hword with
  | nil =>
    have hnone : ¬ word <+: [] := fun h => hword (List.prefix_nil.mp h)
    exact substitute_cons (hstay hnone) []
  | copy t ih =>
    rw [List.append_assoc, substitute_append_self hword, substitute_append_self hword, ih,
      List.append_assoc]
  | cons d t hcopy ih =>
    have hcopy' : ¬ word <+: d :: (t ++ c :: after) := hstay hcopy
    rw [List.cons_append, substitute_cons hcopy', substitute_cons hcopy, ih, List.cons_append]

/-- There is nothing to erase in the empty text. -/
@[simp] theorem eraseAll_nil (names : List String) : eraseAll names [] = [] := by
  induction names with
  | nil => rfl
  | cons name names ih => exact ih

/-- Erasing names one after another does not reach over a character that none of them has. -/
theorem eraseAll_append_cons {names : List String}
    (hnames : ∀ name ∈ names, name.toList ≠ [] ∧ c ∉ name.toList) (before after : Text) :
    eraseAll names (before ++ c :: after) =
      eraseAll names before ++ c :: eraseAll names after := by
  induction names generalizing before after with
  | nil => rfl
  | cons name names ih =>
    obtain ⟨⟨hne, hc⟩, hlater⟩ := List.forall_mem_cons.mp hnames
    simp only [eraseAll, List.foldl_cons, erase_append_cons hne hc]
    exact ih hlater _ _

end Text

/-- A recognized name is not empty and has no character of notation in it. -/
theorem not_mem_of_mem_recognizedNames {c : Char} (hc : isNotationCharacter c = true) :
    ∀ name ∈ recognizedNames, name.toList ≠ [] ∧ c ∉ name.toList := by
  intro name hname
  refine ⟨?_, fun hmem => ?_⟩
  · have hall : (recognizedNames.all fun name => !name.toList.isEmpty) = true := by rfl
    simpa using List.all_eq_true.mp hall name hname
  · rw [not_notation_of_separable separable_recognizedNames name hname c hmem] at hc
    exact Bool.false_ne_true hc

/-- The characters of the text are valid, and the erasure of the recognized names reduces its small
letters to notation. The clean texts and the empty one are like this. -/
def ErasesToNotation (t : Text) : Prop :=
  (∀ c ∈ t, (isLatin c || isNotationCharacter c) = true) ∧
    ∀ c ∈ Text.eraseAll recognizedNames (t.map smallForm), isNotationCharacter c = true

/-- The texts that reduce to notation are the clean ones and the empty one. -/
theorem erasesToNotation_iff {t : Text} : ErasesToNotation t ↔ t = [] ∨ isClean t = true := by
  by_cases hne : t = []
  · subst hne
    simp only [true_or, iff_true]
    exact ⟨by simp, by simp⟩
  · have hcharacters : hasValidCharacters t = true ↔
        ∀ c ∈ t, (isLatin c || isNotationCharacter c) = true := by
      simp [hasValidCharacters, hne]
    rw [isClean_iff, ErasesToNotation, ← hcharacters, or_iff_right hne]
    exact and_congr_right fun hvalid => by rw [lower_eq_map_smallForm hvalid]

/-- Two texts with a character of notation between them reduce to notation exactly when both do. -/
theorem erasesToNotation_append_cons_iff {c : Char} (hc : isNotationCharacter c = true)
    {before after : Text} : ErasesToNotation (before ++ c :: after) ↔
      ErasesToNotation before ∧ ErasesToNotation after := by
  have hsmall : (before ++ c :: after).map smallForm =
      before.map smallForm ++ c :: after.map smallForm := by
    rw [List.map_append, List.map_cons, smallForm_of_isNotationCharacter hc]
  simp only [ErasesToNotation, hsmall,
    Text.eraseAll_append_cons (not_mem_of_mem_recognizedNames hc), List.forall_mem_append,
    List.forall_mem_cons, hc, Bool.or_true, true_and]
  exact and_and_and_comm

/-- Cleanliness is local. Whatever stands on the two sides of a character of notation, the whole is
clean exactly when each of the two sides is empty or clean. -/
theorem cleanliness_is_local {c : Char} (hc : isNotationCharacter c = true) (before after : Text) :
    isClean (before ++ [c] ++ after) = true ↔
      (before = [] ∨ isClean before = true) ∧ (after = [] ∨ isClean after = true) := by
  have hne : before ++ c :: after ≠ [] := by simp
  have hwhole : isClean (before ++ c :: after) = true ↔ ErasesToNotation (before ++ c :: after) :=
    (or_iff_right hne).symm.trans erasesToNotation_iff.symm
  rw [List.append_assoc, List.singleton_append, hwhole, erasesToNotation_append_cons_iff hc,
    erasesToNotation_iff, erasesToNotation_iff]

/-- Two clean sides of a comma make up a clean text. Next to a sigma no text is clean, although what
the sigma is lower-cased to depends on the other side. -/
theorem comma_joins_clean_sides_only :
    isNotationCharacter ',' = true ∧ isClean "floor(2.7),CEIL\u2003e".toList = true ∧
      isClean "e,Σ".toList = false := by
  have hcomma : isNotationCharacter ',' = true := by decide
  have hfloor : isClean "floor(2.7)".toList = true := by rfl
  have hceil : isClean "CEIL\u2003e".toList = true := by rfl
  have hsigma : isClean "Σ".toList = false := by rfl
  refine ⟨hcomma, ?_, ?_⟩
  · exact (cleanliness_is_local hcomma "floor(2.7)".toList "CEIL\u2003e".toList).mpr
      ⟨Or.inr hfloor, Or.inr hceil⟩
  · rw [← Bool.not_eq_true]
    intro hclean
    have hsides := (cleanliness_is_local hcomma "e".toList "Σ".toList).mp hclean
    rcases hsides.2 with hnil | hright
    · exact absurd hnil (by decide)
    · exact Bool.false_ne_true (hsigma.symm.trans hright)

/-- Every text but the empty one whose small letters are a concatenation of recognized names and
characters of notation, in any order and without anything between them, is accepted. -/
theorem concatenations_are_accepted {t : Text} (hne : t ≠ [])
    (h : Spelled recognizedNames t.uncased) : validateExpression t = .ok () := by
  have hsmall : t.uncased ≠ [] := fun hnil => hne (List.map_eq_nil_iff.mp hnil)
  rw [← validateExpression_uncased]
  exact validateExpression_of_spelled h hsmall

/-- Names run together in mixed case, one of them with another one inside, are accepted. -/
theorem run_of_names_accepted :
    Spelled recognizedNames (Text.uncased "eCEILesINlnPi\u3000Log,".toList) ∧
      validateExpression "eCEILesINlnPi\u3000Log,".toList = .ok () := by
  have hspelled : Spelled recognizedNames (Text.uncased "eCEILesINlnPi\u3000Log,".toList) := by
    rw [spelled_iff_blankAll separable_recognizedNames, ← List.all_eq_true]
    decide
  exact ⟨hspelled, concatenations_are_accepted (by decide) hspelled⟩

end ExprGate
