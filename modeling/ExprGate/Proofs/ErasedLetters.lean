import ExprGate.Proofs.CleanPieces

/-!
# What erasure takes out of a clean text

The recognized names consist of letters of ASCII, so their erasure leaves every other character of a
text where it is, among the others. In a clean text nothing but notation is left in the end, hence
all letters are gone: whichever names were put inside which, a clean text is erased to the text
without its letters. That text is notation, and there is nothing in it to erase a second time.
-/

namespace ExprGate

/-- Putting in copies of a word that has none of the characters of a class adds none of them. -/
theorem Inserted.filter_eq {holds : Char → Bool} {word u t : Text} (h : Inserted word u t)
    (hword : ∀ c ∈ word, holds c = false) : t.filter holds = u.filter holds := by
  have hnone : word.filter holds = [] := by
    rw [List.filter_eq_nil_iff]
    intro c hc
    rw [hword c hc]
    exact Bool.false_ne_true
  induction h with
  | nil => rfl
  | put _ ih => rw [List.filter_append, hnone, List.nil_append, ih]
  | keep c _ ih => rw [List.filter_cons, List.filter_cons, ih]

/-- Erasing names that have none of the characters of a class keeps all of these characters, in
order. -/
theorem Text.filter_eraseAll {holds : Char → Bool} {names : List String}
    (hnames : ∀ name ∈ names, name.toList ≠ [] ∧ ∀ c ∈ name.toList, holds c = false) (t : Text) :
    (Text.eraseAll names t).filter holds = t.filter holds := by
  induction names generalizing t with
  | nil => rfl
  | cons name names ih =>
    obtain ⟨⟨hne, hname⟩, hlater⟩ := List.forall_mem_cons.mp hnames
    have hfirst : t.filter holds = (Text.erase name.toList t).filter holds :=
      (Inserted.of_erase hne t).filter_eq hname
    rw [hfirst]
    exact ih hlater (Text.erase name.toList t)

/-- The text without its letters of ASCII. -/
def Text.withoutLetters (t : Text) : Text := t.filter fun c => !c.isAlpha

/-- The recognized names consist of letters. -/
theorem isAlpha_of_mem_recognizedNames : ∀ name ∈ recognizedNames,
    name.toList ≠ [] ∧ ∀ c ∈ name.toList, (!c.isAlpha) = false := by
  have hall : (recognizedNames.all fun name => !name.toList.isEmpty &&
      name.toList.all Char.isAlpha) = true := by rfl
  intro name hname
  simpa using List.all_eq_true.mp hall name hname

/-- The letters of ASCII by their codes. -/
theorem isAlpha_iff {c : Char} : c.isAlpha = true ↔
    65 ≤ c.toNat ∧ c.toNat ≤ 90 ∨ 97 ≤ c.toNat ∧ c.toNat ≤ 122 := by
  have hupper : c.isUpper = true ↔ 65 ≤ c.toNat ∧ c.toNat ≤ 90 := decide_eq_true_iff
  have hlower : c.isLower = true ↔ 97 ≤ c.toNat ∧ c.toNat ≤ 122 :=
    Bool.and_eq_true_iff.trans (and_congr decide_eq_true_iff decide_eq_true_iff)
  exact Bool.or_eq_true_iff.trans (or_congr hupper hlower)

/-- A character of notation is no letter. -/
theorem isAlpha_of_isNotationCharacter {c : Char} (h : isNotationCharacter c = true) :
    c.isAlpha = false := by
  have hall : ((List.range 128).all fun n => !(65 ≤ n && n ≤ 90 || 97 ≤ n && n ≤ 122) ||
      !isNotationCharacter (Char.ofNat n)) = true := by rfl
  rw [← Bool.not_eq_true]
  intro halpha
  have hcode := isAlpha_iff.mp halpha
  have hc := List.all_eq_true.mp hall c.toNat (List.mem_range.mpr (by omega))
  simp only [Char.ofNat_toNat, h, Bool.not_true, Bool.or_false, Bool.not_eq_true',
    Bool.or_eq_false_iff, Bool.and_eq_false_iff, decide_eq_false_iff_not] at hc
  omega

/-- Taking small letters makes no difference to the characters that are no letters. -/
theorem Text.withoutLetters_uncased (t : Text) : t.uncased.withoutLetters = t.withoutLetters := by
  have hclass : (fun c => !c.isAlpha) ∘ Char.toLower = fun c : Char => !c.isAlpha := by
    funext c
    exact congrArg not (isAlpha_toLower c)
  rw [Text.withoutLetters, Text.withoutLetters, Text.uncased, List.filter_map, hclass]
  refine (List.map_congr_left fun c hc => ?_).trans (List.map_id _)
  refine toLower_of_not_capital fun hcapital => ?_
  have hother : c.isAlpha = false := by simpa using (List.mem_filter.mp hc).2
  exact Bool.false_ne_true (hother.symm.trans (isAlpha_iff.mpr (Or.inl hcapital)))

/-- Notation has no letters to leave out. -/
theorem Text.withoutLetters_of_notation {t : Text} (h : ∀ c ∈ t, isNotationCharacter c = true) :
    t.withoutLetters = t := by
  rw [Text.withoutLetters, List.filter_eq_self]
  intro c hc
  rw [isAlpha_of_isNotationCharacter (h c hc)]
  rfl

/-- A clean text is erased to the text without its letters. -/
theorem eraseNames_of_isClean {t : Text} (h : isClean t = true) :
    eraseNames t = t.withoutLetters := by
  have hleft : ∀ c ∈ eraseNames t, isNotationCharacter c = true := (isClean_iff.mp h).2
  calc
    eraseNames t = (eraseNames t).withoutLetters := (Text.withoutLetters_of_notation hleft).symm
    _ = (Text.lower t).withoutLetters :=
      Text.filter_eraseAll isAlpha_of_mem_recognizedNames (Text.lower t)
    _ = t.uncased.withoutLetters := by rw [lower_of_isClean h, Text.uncased]
    _ = t.withoutLetters := Text.withoutLetters_uncased t

/-- On clean texts erasure deletes the letters of ASCII and nothing else: every other character is
kept, in order. A second erasure finds nothing to delete. -/
theorem erasure_deletes_letters {t : Text} (h : isClean t = true) :
    eraseNames t = t.filter (fun c => !c.isAlpha) ∧ eraseNames (eraseNames t) = eraseNames t := by
  refine ⟨eraseNames_of_isClean h, ?_⟩
  have hleft : ∀ c ∈ eraseNames t, isNotationCharacter c = true := (isClean_iff.mp h).2
  by_cases hne : eraseNames t = []
  · rw [hne]
    rfl
  · have hclean : isClean (eraseNames t) = true :=
      validateExpression_eq_ok_iff.mp
        (validateExpression_of_spelled (Spelled.of_notation hleft) hne)
    rw [eraseNames_of_isClean hclean, Text.withoutLetters_of_notation hleft]

/-- Of names put one inside the other, and of names in capitals, all letters are erased, and the
blanks between the other characters stay. -/
theorem letters_of_nested_names_erased :
    isClean "csinoS(2)\u2003+ .5e,LOG".toList = true ∧
      eraseNames "csinoS(2)\u2003+ .5e,LOG".toList = "(2)\u2003+ .5,".toList ∧
      eraseNames "(2)\u2003+ .5,".toList = "(2)\u2003+ .5,".toList := by
  have hclean : isClean "csinoS(2)\u2003+ .5e,LOG".toList = true := by rfl
  obtain ⟨hletters, hagain⟩ := erasure_deletes_letters hclean
  have hleft : eraseNames "csinoS(2)\u2003+ .5e,LOG".toList = "(2)\u2003+ .5,".toList :=
    hletters.trans (by rfl)
  rw [hleft] at hagain
  exact ⟨hclean, hleft, hagain⟩

end ExprGate
