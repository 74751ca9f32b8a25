import ExprGate.Proofs.Letters
import ExprGate.Proofs.Occurrences

/-!
# Whole words

Two stages look for words from a list that stand between word boundaries. A boundary next to a
letter means that there is no word character on its other side, so such a pattern occurs exactly
when one of the words, in any case, stands in the text without a word character next to it.
-/

namespace ExprGate

/-- The word stands in the text, in any case, and no word character is next to it. -/
def HasWholeWord (word : String) (t : Text) : Prop :=
  ∃ before m after, t = before ++ m ++ after ∧ m.map foldCase = word.toList ∧
    before.getLast?.any isWordCharacter = false ∧ after.head?.any isWordCharacter = false

/-- A whole word of a text lies in the folded text. -/
theorem HasWholeWord.infix_map_foldCase {word : String} {t : Text} (h : HasWholeWord word t) :
    word.toList <:+: t.map foldCase := by
  obtain ⟨before, m, after, rfl, hm, _, _⟩ := h
  rw [List.map_append, List.map_append, hm]
  exact List.infix_append _ _ _

/-- Whether the word has a letter and nothing but letters a to z. -/
def isPlainWord (word : String) : Bool :=
  !word.toList.isEmpty && word.toList.all fun c => 97 ≤ c.toNat && c.toNat ≤ 122

section PlainWords

variable {word : String} (hword : isPlainWord word = true)
include hword

/-- A plain word is not empty and has only letters a to z. -/
theorem letters_of_isPlainWord : word.toList ≠ [] ∧
    ∀ c ∈ word.toList, 97 ≤ c.toNat ∧ c.toNat ≤ 122 := by
  simpa [isPlainWord] using hword

/-- A plain word has no blank. -/
theorem blank_not_mem_of_isPlainWord : ' ' ∉ word.toList := by
  intro hmem
  have hlow := ((letters_of_isPlainWord hword).2 ' ' hmem).1
  exact absurd hlow (by decide)

/-- A text that folds to a plain word is not empty. -/
theorem ne_nil_of_map_foldCase {m : Text} (hm : m.map foldCase = word.toList) : m ≠ [] := by
  rintro rfl
  exact (letters_of_isPlainWord hword).1 hm.symm

/-- A text that folds to a plain word has only word characters. -/
theorem isWordCharacter_of_map_foldCase {m : Text} (hm : m.map foldCase = word.toList) :
    ∀ c ∈ m, isWordCharacter c = true := by
  intro c hc
  have hrange := (letters_of_isPlainWord hword).2 (foldCase c) (hm ▸ List.mem_map_of_mem hc)
  refine isWordCharacter_of_isLatin ?_
  simp only [isLatin, Bool.and_eq_true, decide_eq_true_eq]
  exact hrange

end PlainWords

namespace Pattern

variable {s e : Place}

/-- The letters one after another, in any case, match exactly the texts that fold to them. -/
theorem mem_ends_letters {letters : Text} :
    e ∈ (all (letters.map char)).ends s ↔
      ∃ m, m.map foldCase = letters ∧ s.Passes m e ∧ e.operands = s.operands := by
  induction letters generalizing s with
  | nil =>
    simp only [List.map_nil, List.map_eq_nil_iff, exists_eq_left]
    constructor
    · intro h
      obtain rfl : e = s := mem_ends_nothing.mp h
      exact ⟨Place.Passes.refl e, rfl⟩
    · rintro ⟨⟨hahead, hbehind⟩, hoperands⟩
      have heq : e = s := by
        cases e
        cases s
        simp_all
      exact mem_ends_nothing.mpr heq
  | cons c letters ih =>
    refine mem_ends_seq.trans ?_
    constructor
    · rintro ⟨mid, hmid, hend⟩
      obtain ⟨d, hd, hpasses, hoperands⟩ := Place.mem_step_iff.mp hmid
      obtain ⟨m, hm, hlater, hlast⟩ := ih.mp hend
      have hfold : foldCase d = c := beq_iff_eq.mp hd
      exact ⟨d :: m, by rw [List.map_cons, hfold, hm], hpasses.trans hlater, hlast.trans hoperands⟩
    · rintro ⟨m, hm, ⟨hahead, hbehind⟩, hoperands⟩
      obtain ⟨d, m, rfl, hd, hletters⟩ := List.map_eq_cons_iff.mp hm
      refine ⟨⟨d :: s.behind, m ++ e.ahead, s.operands⟩, ?_, ?_⟩
      · exact Place.mem_step_iff.mpr ⟨d, beq_iff_eq.mpr hd, ⟨hahead, rfl⟩, rfl⟩
      · refine ih.mpr ⟨m, hletters, ⟨rfl, ?_⟩, hoperands⟩
        rw [hbehind, List.reverse_cons, List.append_assoc, List.singleton_append]

/-- A phrase of one word matches exactly the texts that fold to it. -/
theorem mem_ends_phrase {word : String} (hword : ' ' ∉ word.toList) :
    e ∈ (phrase word).ends s ↔
      ∃ m, m.map foldCase = word.toList ∧ s.Passes m e ∧ e.operands = s.operands := by
  have hletters : phrase word = all (word.toList.map char) := by
    rw [phrase]
    congr 1
    refine List.map_congr_left fun c hc => if_neg ?_
    rintro rfl
    exact hword hc
  rw [hletters, mem_ends_letters]

/-- A choice of phrases matches what one of them matches. -/
theorem mem_ends_phrases {choices : List String} :
    e ∈ (phrases choices).ends s ↔ ∃ word ∈ choices, e ∈ (phrase word).ends s := by
  induction choices with
  | nil => simp [phrases, any, ends]
  | cons word choices ih =>
    refine mem_ends_either.trans ?_
    rw [List.exists_mem_cons_iff]
    exact or_congr Iff.rfl ih

/-- A pattern between two word boundaries matches what it matches from one boundary to another. -/
theorem mem_ends_between_boundaries {p : Pattern} :
    e ∈ (all [boundary, p, boundary]).ends s ↔
      s.atBoundary = true ∧ e ∈ p.ends s ∧ e.atBoundary = true := by
  simp only [all, List.foldr, mem_ends_seq, mem_ends_boundary, mem_ends_nothing]
  constructor
  · rintro ⟨_, ⟨rfl, hfirst⟩, mid, hmid, _, ⟨rfl, hlast⟩, rfl⟩
    exact ⟨hfirst, hmid, hlast⟩
  · rintro ⟨hfirst, hend, hlast⟩
    exact ⟨s, ⟨rfl, hfirst⟩, e, hend, e, ⟨rfl, hlast⟩, rfl⟩

/-- Before word characters there is a boundary when no word character is behind. -/
theorem atBoundary_before {before m after : Text} {operands : List Stretch} (hne : m ≠ [])
    (hm : ∀ c ∈ m, isWordCharacter c = true) :
    Place.atBoundary ⟨before.reverse, m ++ after, operands⟩ = true ↔
      before.getLast?.any isWordCharacter = false := by
  obtain ⟨c, rest, rfl⟩ := List.exists_cons_of_ne_nil hne
  rw [List.cons_append, Place.atBoundary_cons_iff (hm c List.mem_cons_self), List.head?_reverse]

/-- After word characters there is a boundary when no word character is ahead. -/
private theorem atBoundary_after {before m after : Text} {operands : List Stretch} (hne : m ≠ [])
    (hm : ∀ c ∈ m, isWordCharacter c = true) :
    Place.atBoundary ⟨m.reverse ++ before.reverse, after, operands⟩ = true ↔
      after.head?.any isWordCharacter = false := by
  have hlast := hm (m.getLast hne) (List.getLast_mem hne)
  simp [Place.atBoundary, List.getLast?_eq_some_getLast hne, hlast]

/-- Words between boundaries occur exactly when one of them stands as a whole word. -/
theorem occursIn_words_iff {words : List String} (hwords : words.all isPlainWord = true)
    {t : Text} : (all [boundary, phrases words, boundary]).occursIn t = true ↔
      ∃ word ∈ words, HasWholeWord word t := by
  rw [occursIn_iff]
  constructor
  · rintro ⟨before, ahead, ⟨behind, after, operands⟩, rfl, he⟩
    obtain ⟨hfirst, hend, hlast⟩ := mem_ends_between_boundaries.mp he
    obtain ⟨word, hmem, hphrase⟩ := mem_ends_phrases.mp hend
    have hword : isPlainWord word = true := List.all_eq_true.mp hwords word hmem
    obtain ⟨m, hm, ⟨hahead, hbehind⟩, _⟩ :=
      (mem_ends_phrase (blank_not_mem_of_isPlainWord hword)).mp hphrase
    obtain rfl : ahead = m ++ after := hahead
    obtain rfl : behind = m.reverse ++ before.reverse := hbehind
    have hne := ne_nil_of_map_foldCase hword hm
    have hletters := isWordCharacter_of_map_foldCase hword hm
    exact ⟨word, hmem, before, m, after, (List.append_assoc _ _ _).symm, hm,
      (atBoundary_before hne hletters).mp hfirst, (atBoundary_after hne hletters).mp hlast⟩
  · rintro ⟨word, hmem, before, m, after, rfl, hm, hbefore, hafter⟩
    have hword : isPlainWord word = true := List.all_eq_true.mp hwords word hmem
    have hne := ne_nil_of_map_foldCase hword hm
    have hletters := isWordCharacter_of_map_foldCase hword hm
    refine ⟨before, m ++ after, ⟨m.reverse ++ before.reverse, after, []⟩,
      List.append_assoc _ _ _, mem_ends_between_boundaries.mpr ⟨?_, ?_, ?_⟩⟩
    · exact (atBoundary_before hne hletters).mpr hbefore
    · exact mem_ends_phrases.mpr ⟨word, hmem,
        (mem_ends_phrase (blank_not_mem_of_isPlainWord hword)).mpr ⟨m, hm, ⟨rfl, rfl⟩, rfl⟩⟩
    · exact (atBoundary_after hne hletters).mpr hafter

end Pattern

end ExprGate
