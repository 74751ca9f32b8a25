import ExprGate.Proofs.PhraseBook

/-!
# Spellings of the phrases

Every spelling of a wording in the phrase book passes the checks that come before the rules: it has
the characters of a phrase and a numeric operand, no blank stands at either end of it, and it is
free of signatures, since no word of the book begins as a signature does.
-/

namespace ExprGate

namespace WordingPart

/-- Whether the part is a letter or a sign. -/
def isLetter : WordingPart → Bool
  | letter _ => true
  | blanks | number => false

/-- Whether the part is one of the letters a to z. -/
def isLatinLetter : WordingPart → Bool
  | letter c => 97 ≤ c.toNat && c.toNat ≤ 122
  | blanks | number => false

/-- Whether the part is a blank, a number, a letter a to z, or a sign that the phrases use. -/
def isPlain : WordingPart → Bool
  | letter c => (letter c).isLatinLetter || "%-".toList.contains c
  | blanks | number => true

variable {part : WordingPart} {c : Char}

/-- A letter a to z covers letters only. -/
theorem isLatin_of_covers (hpart : part.isLatinLetter = true) (h : part.covers c = true) :
    isLatin c = true := by
  cases part with
  | letter d => rwa [isLatin, beq_iff_eq.mp h]
  | blanks | number => exact absurd hpart Bool.false_ne_true

/-- The characters that a plain part covers are those of a phrase. -/
theorem phraseCharacter_of_covers (hpart : part.isPlain = true) (h : part.covers c = true) :
    (isLatin c || c.isDigit || isBlank c || ".,!?%()+-*/^".toList.contains c) = true := by
  simp only [Bool.or_eq_true]
  cases part with
  | letter d =>
    rcases (Bool.or_eq_true _ _).mp hpart with hletter | hsign
    · exact Or.inl (Or.inl (Or.inl (isLatin_of_covers hletter h)))
    · have hfold : foldCase c = d := beq_iff_eq.mp h
      have hsigns : d = '%' ∨ d = '-' := by simpa using hsign
      have hlatin : isLatin c = false := by
        rw [isLatin, hfold]
        rcases hsigns with rfl | rfl <;> rfl
      rw [foldCase_of_not_isLatin hlatin] at hfold
      right
      rcases hsigns with rfl | rfl <;> exact hfold ▸ (by decide)
  | blanks => exact Or.inl (Or.inr h)
  | number =>
    rcases (Bool.or_eq_true _ _).mp h with hdigit | hpoint
    · exact Or.inl (Or.inl (Or.inr hdigit))
    · rw [beq_iff_eq.mp hpoint]
      exact Or.inr (by decide)

end WordingPart

namespace Wording

/-- The places from one on where a word of the wording begins, each with the parts behind it, the
nearest first, and the parts ahead. -/
def wordStartsFrom (behind : Wording) : Wording → List (Wording × Wording)
  | [] => []
  | part :: rest =>
    if part.isLetter && !behind.head?.any WordingPart.isLatinLetter then
      (behind, part :: rest) :: wordStartsFrom (part :: behind) rest
    else wordStartsFrom (part :: behind) rest

/-- The places where a word of the wording begins: a letter or a sign comes next, and no letter a to
z stands directly before it. -/
def wordStarts (w : Wording) : List (Wording × Wording) := wordStartsFrom [] w

/-- The letters and signs that a wording begins with. -/
def firstWord : Wording → Text
  | .letter c :: rest => c :: firstWord rest
  | _ => []

variable {w w₁ w₂ behind rest : Wording} {t before : Text} {numbers : List Text}

/-- From one place on, words begin where the wording can be split so. -/
private theorem mem_wordStartsFrom_iff {place : Wording × Wording} :
    place ∈ wordStartsFrom behind w ↔ ∃ w₁ w₂, w = w₁ ++ w₂ ∧ place = (w₁.reverse ++ behind, w₂) ∧
      w₂.head?.any WordingPart.isLetter = true ∧
      (w₁.reverse ++ behind).head?.any WordingPart.isLatinLetter = false := by
  induction w generalizing behind with
  | nil => simp [wordStartsFrom]
  | cons part w ih =>
    -- Either the word begins here, or it begins in the rest, with this part behind it.
    have hcases : (∃ w₁ w₂, part :: w = w₁ ++ w₂ ∧ place = (w₁.reverse ++ behind, w₂) ∧
          w₂.head?.any WordingPart.isLetter = true ∧
          (w₁.reverse ++ behind).head?.any WordingPart.isLatinLetter = false) ↔
        place = (behind, part :: w) ∧ part.isLetter = true ∧
            behind.head?.any WordingPart.isLatinLetter = false ∨
          place ∈ wordStartsFrom (part :: behind) w := by
      rw [ih]
      constructor
      · rintro ⟨w₁, w₂, heq, hplace, hletter, hlast⟩
        cases w₁ with
        | nil =>
          obtain rfl : part :: w = w₂ := heq
          exact Or.inl ⟨hplace, hletter, hlast⟩
        | cons first w₁ =>
          obtain ⟨rfl, rfl⟩ := List.cons.inj heq
          exact Or.inr ⟨w₁, w₂, rfl, by simpa using hplace, hletter, by simpa using hlast⟩
      · rintro (⟨hplace, hletter, hlast⟩ | ⟨w₁, w₂, rfl, hplace, hletter, hlast⟩)
        · exact ⟨[], part :: w, rfl, hplace, hletter, hlast⟩
        · exact ⟨part :: w₁, w₂, rfl, by simpa using hplace, hletter, by simpa using hlast⟩
    rw [hcases, wordStartsFrom]
    split
    · next hhere =>
      simp only [Bool.and_eq_true, Bool.not_eq_true'] at hhere
      simp [hhere]
    · next hhere =>
      simp only [Bool.and_eq_true, Bool.not_eq_true'] at hhere
      simp [hhere]

/-- A word begins wherever a letter or a sign comes next and no letter a to z stands before it. -/
theorem mem_wordStarts_iff {place : Wording × Wording} : place ∈ w.wordStarts ↔
    ∃ w₁ w₂, w = w₁ ++ w₂ ∧ place = (w₁.reverse, w₂) ∧
      w₂.head?.any WordingPart.isLetter = true ∧
      w₁.reverse.head?.any WordingPart.isLatinLetter = false := by
  simp only [wordStarts, mem_wordStartsFrom_iff, List.append_nil]

/-- Letters at the beginning of a wording are in its first word. -/
theorem prefix_firstWord (letters : Text) :
    letters <+: firstWord (letters.map WordingPart.letter ++ w) := by
  induction letters with
  | nil => exact List.nil_prefix
  | cons c letters ih => exact (List.prefix_cons_inj c).mpr ih

/-- The words of the phrases, with the signs that stand in a row with them. -/
def vocabulary : List Text :=
  ["%", "%of", "%from", "of", "from", "plus", "added", "to", "and", "minus", "subtract",
    "subtracted", "times", "multiplied", "by", "multiply", "divided", "divide", "over", "the",
    "power", "raised", "square", "root", "cube", "sine", "sin", "cosine", "cos", "tangent", "tan",
    "log", "logarithm", "natural", "absolute", "value", "abs", "-"].map String.toList

/-- A wording as the phrase book has them. -/
structure IsPhrase (w : Wording) : Prop where
  /-- Its letters are marks, and its runs stand apart. -/
  crisp : w.isCrisp = true
  /-- Its letters are those of the phrases. -/
  plain : ∀ part ∈ w, part.isPlain = true
  /-- It does not begin with a gap. -/
  head_ne : w.head? ≠ some .blanks
  /-- It ends with a number. -/
  last_eq : w.getLast? = some .number
  /-- Its words are in the vocabulary. -/
  words_mem : ∀ place ∈ w.wordStarts, firstWord place.2 ∈ vocabulary

end Wording

/-- The wordings of the phrase book are phrases. -/
theorem isPhrase_of_mem_wordingsOf {rule : TranslationRule} (hrule : rule ∈ TranslationRule.table)
    {w : Wording} (hw : w ∈ wordingsOf rule.id) : w.IsPhrase := by
  have hall : (TranslationRule.table.all fun rule => (wordingsOf rule.id).all fun w =>
      w.isCrisp && w.all WordingPart.isPlain && w.head? != some .blanks &&
        w.getLast? == some .number &&
        w.wordStarts.all fun place => Wording.vocabulary.contains (Wording.firstWord place.2)) =
      true := by
    decide +kernel
  have hshape := List.all_eq_true.mp (List.all_eq_true.mp hall rule hrule) w hw
  simp only [Bool.and_eq_true, List.all_eq_true, bne_iff_ne, beq_iff_eq,
    List.contains_iff_mem] at hshape
  obtain ⟨⟨⟨⟨hcrisp, hplain⟩, hhead⟩, hlast⟩, hwords⟩ := hshape
  exact ⟨hcrisp, hplain, hhead, hlast, hwords⟩

namespace Wording

variable {w : Wording} {t : Text} {numbers : List Text}

/-- A spelling ends with a text that fits the last part. -/
theorem SpelledBy.exists_last {part : WordingPart} (h : w.SpelledBy t numbers)
    (hlast : w.getLast? = some part) : ∃ before last numbers', t = before ++ last ∧
      part.Fits last numbers' := by
  obtain ⟨w', rfl⟩ := List.getLast?_eq_some_iff.mp hlast
  obtain ⟨before, last, _, numbers', rfl, _, _, hfits⟩ := spelledBy_append.mp h
  exact ⟨before, last, numbers', rfl, spelledBy_singleton.mp hfits⟩

section Phrases

variable (hw : w.IsPhrase) (h : w.SpelledBy t numbers)
include hw h

/-- A spelling of a phrase ends with a decimal literal. -/
theorem IsPhrase.exists_eq_append_literal : ∃ before n, t = before ++ n ∧ IsDecimalLiteral n := by
  obtain ⟨before, n, _, ht, hfits⟩ := h.exists_last hw.last_eq
  exact ⟨before, n, ht, hfits.1⟩

/-- A spelling of a phrase has its characters. -/
theorem IsPhrase.hasPhraseCharacters_eq : hasPhraseCharacters t = true := by
  obtain ⟨before, n, ht, hn⟩ := hw.exists_eq_append_literal h
  simp only [hasPhraseCharacters, Bool.and_eq_true, Bool.not_eq_true', List.isEmpty_eq_false_iff,
    List.all_eq_true]
  refine ⟨by simp [ht, hn.ne_nil], fun c hc => ?_⟩
  obtain ⟨part, hmem, hcovers⟩ := h.exists_covers hc
  exact WordingPart.phraseCharacter_of_covers (hw.plain part hmem) hcovers

/-- A spelling of a phrase has a numeric operand. -/
theorem IsPhrase.hasNumericOperand_eq : hasNumericOperand t = true := by
  obtain ⟨before, n, rfl, hn⟩ := hw.exists_eq_append_literal h
  obtain ⟨digit, hdigit, hisDigit⟩ := hn.exists_digit
  rw [hasNumericOperand, Bool.or_eq_true]
  exact Or.inl (Pattern.occursIn_one_iff.mpr
    ⟨digit, List.mem_append_right before hdigit, hisDigit⟩)

/-- No blank stands at either end of a spelling of a phrase. -/
theorem IsPhrase.solid : t.Solid := by
  constructor
  · cases w with
    | nil => exact absurd hw.last_eq (by simp)
    | cons part w =>
      obtain ⟨c, rest, rfl, hc⟩ := h.exists_head
      change isBlank c = false
      cases part with
      | letter d =>
        have hmark := WordingPart.isMark_of_covers_letter (isCrisp_cons_iff.mp hw.crisp).1 hc
        simp only [isMark, Bool.and_eq_true, Bool.not_eq_true'] at hmark
        exact hmark.1
      | blanks => exact absurd rfl hw.head_ne
      | number => exact isBlank_of_isNumeric hc
  · obtain ⟨before, n, rfl, hn⟩ := hw.exists_eq_append_literal h
    rw [List.getLast?_append_of_ne_nil _ hn.ne_nil]
    exact hn.solid.2

/-- The marks of a spelling of a phrase fold to plain letters. -/
theorem IsPhrase.isPlain_of_isMark {c : Char} (hc : c ∈ t) (hmark : isMark c = true) :
    (WordingPart.letter (foldCase c)).isPlain = true := by
  obtain ⟨part, hmem, hcovers⟩ := h.exists_covers hc
  exact WordingPart.eq_letter_of_covers hmark hcovers ▸ hw.plain part hmem

end Phrases

/-- A wording does not end with a letter a to z when a spelling of it does not. -/
theorem SpelledBy.last_isLatinLetter_eq_false (h : w.SpelledBy t numbers)
    (hlast : t.getLast?.any isLatin = false) :
    w.reverse.head?.any WordingPart.isLatinLetter = false := by
  rw [List.head?_reverse]
  cases hpart : w.getLast? with
  | none => rfl
  | some part =>
    obtain ⟨before, last, _, rfl, hfits⟩ := h.exists_last hpart
    rw [List.getLast?_append_of_ne_nil _ hfits.ne_nil,
      List.getLast?_eq_some_getLast hfits.ne_nil] at hlast
    change part.isLatinLetter = false
    rw [← Bool.not_eq_true]
    intro hletter
    have hcovers := hfits.covers _ (List.getLast_mem hfits.ne_nil)
    exact Bool.false_ne_true (hlast.symm.trans (WordingPart.isLatin_of_covers hletter hcovers))

end Wording

/-- No letter a to z stands directly before a word boundary where one comes next. -/
theorem Place.last_isLatin_eq_false_of_atBoundary {before ahead : Text} {operands : List Stretch}
    {c : Char} (h : Place.atBoundary ⟨before.reverse, c :: ahead, operands⟩ = true)
    (hc : isLatin c = true) : before.getLast?.any isLatin = false := by
  have hbehind := (Place.atBoundary_cons_iff (isWordCharacter_of_isLatin hc)).mp h
  rw [List.head?_reverse] at hbehind
  cases hlast : before.getLast? with
  | none => rfl
  | some d =>
    rw [hlast] at hbehind
    change isLatin d = false
    rw [← Bool.not_eq_true]
    intro hd
    exact Bool.false_ne_true (hbehind.symm.trans (isWordCharacter_of_isLatin hd))

/-- Where marks stand at a word boundary in a spelling of a phrase, the first of them a letter, a
word of the phrases begins with them. -/
theorem Wording.IsPhrase.exists_word_of_atBoundary {w : Wording} (hw : w.IsPhrase)
    {before first ahead : Text} {numbers : List Text} {operands : List Stretch}
    (h : w.SpelledBy (before ++ (first ++ ahead)) numbers) (hmark : ∀ c ∈ first, isMark c = true)
    (hfirst : first.head?.any isLatin = true)
    (hboundary : Place.atBoundary ⟨before.reverse, first ++ ahead, operands⟩ = true) :
    ∃ word ∈ Wording.vocabulary, first.map foldCase <+: word := by
  cases first with
  | nil => exact absurd hfirst Bool.false_ne_true
  | cons c first =>
    have hbefore := Place.last_isLatin_eq_false_of_atBoundary hboundary hfirst
    obtain ⟨w₁, w₂, _, _, rfl, _, hspelled₁, hspelled₂⟩ :=
      h.exists_split_at_mark (hmark c List.mem_cons_self)
    obtain ⟨tail, htail⟩ := Wording.SpelledBy.exists_eq_letters_append hspelled₂ hmark
    have hstart : (w₁.reverse, w₂) ∈ Wording.wordStarts (w₁ ++ w₂) :=
      Wording.mem_wordStarts_iff.mpr ⟨w₁, w₂, rfl, rfl, by rw [htail]; rfl,
        hspelled₁.last_isLatinLetter_eq_false hbefore⟩
    have hword := Wording.prefix_firstWord (w := tail) ((c :: first).map foldCase)
    rw [List.map_map] at hword
    exact ⟨Wording.firstWord w₂, hw.words_mem _ hstart, htail ▸ hword⟩

namespace Pattern

variable {p : Pattern} {w : Wording} {t : Text} {numbers : List Text}

/-- Whether every match of the pattern begins as no word of a phrase does: with a character that the
phrases do not use, or at a word boundary with letters that no word of theirs begins with. -/
def beginsForeign (p : Pattern) : Bool :=
  p.body.openings.all fun o => o.literal.all isMark &&
    (!(o.literal.all fun c => (WordingPart.letter c).isPlain) || p.isAnchored &&
      o.literal.head?.any (fun c => (WordingPart.letter c).isLatinLetter) &&
        Wording.vocabulary.all fun word => !o.literal.isPrefixOf word)

/-- A pattern that begins as no word of a phrase does occurs in no spelling of one. -/
theorem occursIn_eq_false_of_beginsForeign (hp : p.beginsForeign = true) (hw : w.IsPhrase)
    (h : w.SpelledBy t numbers) : p.occursIn t = false := by
  rw [← Bool.not_eq_true, occursIn_iff_reads]
  rintro ⟨before, m, after, operands, rfl, hreads⟩
  obtain ⟨hbody, hboundary⟩ := reads_iff_body.mp hreads
  obtain ⟨e, he, _⟩ := exists_mem_ends_of_reads hbody []
  obtain ⟨m', ⟨hm', _⟩, o, ho, hfits⟩ := exists_opening_of_mem_ends he
  obtain ⟨rest, hrest⟩ : o.literal <+: (m ++ after).map foldCase := by
    rw [show m ++ after = m' ++ e.ahead from hm', List.map_append]
    exact hfits.literal_prefix.trans (List.prefix_append _ _)
  obtain ⟨first, last, hahead, hfirst, _⟩ := List.map_eq_append_iff.mp hrest.symm
  have hforeign := List.all_eq_true.mp hp o ho
  simp only [Bool.and_eq_true, Bool.or_eq_true, Bool.not_eq_true'] at hforeign
  obtain ⟨hmarks, hcases⟩ := hforeign
  rw [← hfirst] at hmarks hcases
  have hmark : ∀ c ∈ first, isMark c = true := fun c hc =>
    isMark_of_foldCase (List.all_eq_true.mp hmarks _ (List.mem_map_of_mem hc))
  rw [List.append_assoc, hahead] at h
  rcases hcases with hunknown | ⟨⟨hanchored, hletter⟩, hwords⟩
  · obtain ⟨c, hc, hnot⟩ : ∃ c ∈ first, (WordingPart.letter (foldCase c)).isPlain = false := by
      simpa using hunknown
    have hplain := hw.isPlain_of_isMark h (by simp [hc]) (hmark c hc)
    exact Bool.false_ne_true (hnot.symm.trans hplain)
  · rw [List.head?_map, Option.any_map] at hletter
    rw [hahead] at hboundary
    obtain ⟨word, hword, hprefix⟩ :=
      hw.exists_word_of_atBoundary h hmark hletter (hboundary hanchored)
    have hforeign := List.all_eq_true.mp hwords word hword
    rw [Bool.not_eq_true', ← Bool.not_eq_true, List.isPrefixOf_iff_prefix] at hforeign
    exact hforeign hprefix

end Pattern

/-- Every signature begins as no word of a phrase does. -/
theorem beginsForeign_of_mem_table : ∀ s ∈ Signature.table, s.pattern.beginsForeign = true := by
  have hall : (Signature.table.all fun s => s.pattern.beginsForeign) = true := by
    decide +kernel
  exact List.all_eq_true.mp hall

/-- No signature is found in a spelling of a phrase. -/
theorem Wording.IsPhrase.findBlocked_eq_none {w : Wording} (hw : w.IsPhrase) {t : Text}
    {numbers : List Text} (h : w.SpelledBy t numbers) (checkpoint : Checkpoint) :
    findBlocked t checkpoint = none := by
  refine findBlocked_eq_none_iff.mpr fun s hs _ => ?_
  have hoccurs :=
    Pattern.occursIn_eq_false_of_beginsForeign (beginsForeign_of_mem_table s hs) hw h
  rwa [Pattern.occursIn, Option.isSome_eq_false_iff, Option.isNone_iff_eq_none] at hoccurs

end ExprGate
