import ExprGate.Proofs.Spellings

/-!
# Where a rule can read a phrase

Whatever a rule reads in a spelling of a phrase, the letters of one of its wordings begin with a
word of the phrase there. So a rule is out of reach of a phrase when none of its wordings goes on,
from its first letter, as the phrase does from the beginning of one of its words, except after a
word that disqualifies the match.
-/

namespace ExprGate

open Wording

/-- A text that ends with characters outside a class does not end with a character of the class. -/
theorem last_any_eq_false {holds : Char → Bool} {t : Text} (hne : t ≠ [])
    (h : ∀ c ∈ t, holds c = false) (before : Text) :
    (before ++ t).getLast?.any holds = false := by
  rw [List.getLast?_append_of_ne_nil _ hne, List.getLast?_eq_some_getLast hne]
  exact h _ (List.getLast_mem hne)

namespace Wording

variable {w : Wording} {t : Text} {numbers : List Text}

/-- A wording without the parts before its first letter. -/
def core (w : Wording) : Wording := w.dropWhile (!·.isLetter)

/-- The core of a wording begins with a letter, and no letter stands before it. -/
theorem exists_eq_append_core (h : w.core ≠ []) : ∃ lead c tail, w = lead ++ w.core ∧
    w.core = .letter c :: tail ∧ ∀ part ∈ lead, part.isLetter = false := by
  obtain ⟨part, tail, hcore⟩ := List.exists_cons_of_ne_nil h
  refine ⟨w.takeWhile (!·.isLetter), ?_⟩
  have hpart := List.head?_dropWhile_not (!·.isLetter) w
  rw [← core, hcore] at hpart
  cases part with
  | letter c =>
    refine ⟨c, tail, List.takeWhile_append_dropWhile.symm, hcore, fun part hmem => ?_⟩
    simpa using List.mem_takeWhile_imp hmem
  | blanks | number => simp [WordingPart.isLetter] at hpart

/-- What is spelled without letters and signs does not end with a letter a to z. -/
theorem SpelledBy.last_isLatin_eq_false (h : w.SpelledBy t numbers) (hne : w ≠ [])
    (hparts : ∀ part ∈ w, part.isLetter = false) (before : Text) :
    (before ++ t).getLast?.any isLatin = false := by
  have ht : t ≠ [] := by
    obtain ⟨part, w, rfl⟩ := List.exists_cons_of_ne_nil hne
    obtain ⟨c, rest, rfl, _⟩ := h.exists_head
    exact List.cons_ne_nil c rest
  refine last_any_eq_false ht (fun c hc => ?_) before
  rw [← Bool.not_eq_true]
  intro hlatin
  obtain ⟨part, hmem, hcovers⟩ := h.exists_covers hc
  obtain rfl := WordingPart.eq_letter_of_covers (isMark_of_isLatin hlatin) hcovers
  exact Bool.false_ne_true (hparts _ hmem).symm

end Wording

namespace TranslationRule

variable {rule : TranslationRule} {w g : Wording} {before m after : Text}
  {operands numbers : List Text}

/-- A rule that is anchored has wordings that begin with a letter a to z, and any other rule has
wordings that begin with a number and have a letter later. -/
theorem begins_of_mem_wordingsOf (hrule : rule ∈ table) (hg : g ∈ wordingsOf rule.id) :
    g.core ≠ [] ∧ if rule.pattern.isAnchored then g.head?.any WordingPart.isLatinLetter = true
      else g.head? = some .number := by
  have hall : (table.all fun rule => (wordingsOf rule.id).all fun g => !g.core.isEmpty &&
      if rule.pattern.isAnchored then g.head?.any WordingPart.isLatinLetter
      else g.head? == some .number) = true := by rfl
  have hbegins := List.all_eq_true.mp (List.all_eq_true.mp hall rule hrule) g hg
  simp only [Bool.and_eq_true, Bool.not_eq_true', List.isEmpty_eq_false_iff] at hbegins
  refine ⟨hbegins.1, ?_⟩
  cases hanchored : rule.pattern.isAnchored with
  | true => simpa [hanchored] using hbegins.2
  | false => simpa [hanchored] using hbegins.2

/-- Where a rule reads a text, no letter a to z stands directly before the first letter of the
wording. -/
private theorem last_isLatin_eq_false_before_letter (hrule : rule ∈ table)
    (hg : g ∈ wordingsOf rule.id) {lead tail : Wording} {c d : Char}
    (hsplit : g = lead ++ .letter c :: tail)
    (hlead : ∀ part ∈ lead, part.isLetter = false) (h : lead.SpelledBy m operands)
    (hd : (WordingPart.letter c).covers d = true) {ahead : Text}
    (hboundary : rule.pattern.isAnchored = true →
      Place.atBoundary ⟨before.reverse, m ++ d :: ahead, []⟩ = true) :
    (before ++ m).getLast?.any isLatin = false := by
  by_cases hnil : lead = []
  · -- The wording begins with this letter, so its rule asks for a word boundary here.
    subst hnil
    obtain ⟨rfl, _⟩ := h
    have hbegins := (begins_of_mem_wordingsOf hrule hg).2
    rw [hsplit] at hbegins
    have hanchored : rule.pattern.isAnchored = true := by
      by_contra hnot
      simp [hnot] at hbegins
    rw [if_pos hanchored] at hbegins
    have hfirst : (WordingPart.letter c).isLatinLetter = true := hbegins
    rw [List.append_nil]
    exact Place.last_isLatin_eq_false_of_atBoundary (hboundary hanchored)
      (WordingPart.isLatin_of_covers hfirst hd)
  · exact h.last_isLatin_eq_false hnil hlead before

/-- Where a rule reads a part of a spelling of a phrase, the core of one of its wordings begins with
a word of the phrase. If that is the whole wording, the word begins where the reading does. -/
theorem exists_wordStart_of_reads (hrule : rule ∈ table) (hw : w.IsPhrase)
    (h : w.SpelledBy (before ++ m ++ after) numbers)
    (hreads : rule.pattern.Reads before.reverse m after operands) :
    ∃ g ∈ wordingsOf rule.id, ∃ w₁ w₂ : Wording, (w₁.reverse, w₂) ∈ w.wordStarts ∧
      g.core <+: w₂ ∧
      (g.head?.any WordingPart.isLetter = true → ∃ numbers', w₁.SpelledBy before numbers') := by
  obtain ⟨⟨g, hg, hspelled⟩, hboundary⟩ := (reads_iff_spelledBy hrule).mp hreads
  have hcore := (begins_of_mem_wordingsOf hrule hg).1
  have hphrase := isPhrase_of_mem_wordingsOf hrule hg
  obtain ⟨lead, c, tail, hsplit, hletter, hlead⟩ := exists_eq_append_core hcore
  have hcrisp : g.core.isCrisp = true := isCrisp_of_append (hsplit ▸ hphrase.crisp)
  have hlast : g.core.getLast? = some .number := by
    have hlast := hphrase.last_eq
    rwa [hsplit, List.getLast?_append_of_ne_nil _ hcore] at hlast
  -- The core begins with a mark, and there the spelling of the phrase falls apart.
  obtain ⟨m₁, m₂, operands₁, operands₂, rfl, rfl, hspelled₁, hspelled₂⟩ :=
    spelledBy_append.mp (hsplit ▸ hspelled)
  obtain ⟨d, m₃, rfl, hd⟩ := (hletter ▸ hspelled₂).exists_head
  have hmark : isMark d = true :=
    WordingPart.isMark_of_covers_letter (isCrisp_cons_iff.mp (hletter ▸ hcrisp)).1 hd
  have htext : before ++ (m₁ ++ d :: m₃) ++ after = (before ++ m₁) ++ d :: (m₃ ++ after) := by simp
  obtain ⟨w₁, w₂, _, _, rfl, _, hbefore, hahead⟩ := (htext ▸ h).exists_split_at_mark hmark
  obtain ⟨w', _, _, _, _, _, rfl, _⟩ :=
    hspelled₂.exists_eq_append hahead hcrisp (isCrisp_of_append hw.crisp) hlast
  refine ⟨g, hg, w₁, g.core ++ w', mem_wordStarts_iff.mpr ⟨w₁, _, rfl, rfl, ?_, ?_⟩,
    List.prefix_append _ _, ?_⟩
  · rw [hletter]
    rfl
  · refine hbefore.last_isLatinLetter_eq_false ?_
    have hanchored (h : rule.pattern.isAnchored = true) :
        Place.atBoundary ⟨before.reverse, m₁ ++ d :: (m₃ ++ after), []⟩ = true := by
      simpa using hboundary h
    exact last_isLatin_eq_false_before_letter hrule hg (hletter ▸ hsplit) hlead hspelled₁ hd
      hanchored
  · intro hhead
    obtain rfl : lead = [] := by
      cases lead with
      | nil => rfl
      | cons part lead =>
        rw [hsplit, List.cons_append, List.head?_cons, Option.any_some,
          hlead part List.mem_cons_self] at hhead
        exact absurd hhead Bool.false_ne_true
    obtain ⟨rfl, _⟩ := hspelled₁
    exact ⟨_, List.append_nil before ▸ hbefore⟩

end TranslationRule

section LastWord

/-! ### The word before a match -/

variable {before word after : Text}

/-- Letters with blanks after them are the last word, when no letter and no number stands before
them. -/
theorem lastWord_append (hne : word ≠ []) (hword : ∀ c ∈ word, isLatin c = true)
    (hbefore : before.getLast?.any isAlphanumeric = false)
    (hafter : ∀ c ∈ after, isBlank c = true) : lastWord (before ++ word ++ after) = word := by
  have hlast : (before ++ word).getLast?.any isBlank = false := by
    refine last_any_eq_false hne (fun c hc => ?_) before
    have hmark := isMark_of_isLatin (hword c hc)
    simp only [isMark, Bool.and_eq_true, Bool.not_eq_true'] at hmark
    exact hmark.1
  have hblank : Text.trimEnd after = [] := by
    simpa [Text.trimEnd, List.dropWhile_eq_nil_iff] using hafter
  have hletters : ∀ c ∈ word.reverse, isAlphanumeric c = true := fun c hc =>
    isAlphanumeric_of_isLatin (hword c (List.mem_reverse.mp hc))
  have hstop : before.reverse.takeWhile isAlphanumeric = [] := by
    rw [← List.head?_reverse] at hbefore
    cases hreverse : before.reverse with
    | nil => rfl
    | cons c rest =>
      rw [hreverse] at hbefore
      exact List.takeWhile_cons_of_neg (by simpa using hbefore)
  rw [lastWord, Text.trimEnd_append hlast, hblank, List.append_nil, List.reverse_append,
    List.takeWhile_append_of_pos hletters, hstop, List.append_nil, List.reverse_reverse]

end LastWord

/-- The text that spells some letters folds to them. -/
theorem Wording.SpelledBy.map_foldCase {word t : Text} {numbers : List Text}
    (h : Wording.SpelledBy (word.map WordingPart.letter) t numbers) : t.map foldCase = word := by
  induction word generalizing t numbers with
  | nil => rw [h.1, List.map_nil]
  | cons c word ih =>
    obtain ⟨_, rest, _, _, rfl, _, ⟨⟨d, rfl, hd⟩, _⟩, hrest⟩ := h
    rw [List.singleton_append, List.map_cons, hd, ih hrest]

/-- What is spelled by nothing, or by parts that end with a gap, does not end with a character of a
class without blanks. -/
theorem Wording.SpelledBy.last_eq_false_of_gap {holds : Char → Bool}
    (hblanks : ∀ c, isBlank c = true → holds c = false) {w : Wording} {t : Text}
    {numbers : List Text} (h : w.SpelledBy t numbers)
    (hw : w = [] ∨ w.getLast? = some .blanks) : t.getLast?.any holds = false := by
  rcases hw with rfl | hlast
  · rw [h.1]
    rfl
  · obtain ⟨before, gap, _, rfl, ⟨hne, hblank⟩, _⟩ := h.exists_last hlast
    exact last_any_eq_false hne (fun c hc => hblanks c (hblank c hc)) before

namespace TranslationRule

variable {rule : TranslationRule} {w : Wording} {m : Match} {numbers : List Text}

/-- Whether, with these parts behind it, a place comes right after a word that disqualifies a match
of the rule, and a gap. -/
def disqualifiedAfter (rule : TranslationRule) (behind : Wording) : Bool :=
  rule.unlessAfter.any fun word =>
    let parts : Wording := .blanks :: (word.toList.map .letter).reverse
    behind == parts || (parts ++ [WordingPart.blanks]).isPrefixOf behind

/-- A word that disqualifies a match consists of letters, and it is compared with the last word as
the phrases are, up to case. -/
theorem toLower_of_mem_unlessAfter (hrule : rule ∈ table) {word : String}
    (hword : word ∈ rule.unlessAfter) : word.toList ≠ [] ∧ ∀ c ∈ word.toList, ∀ d, foldCase d = c →
      isLatin d = true ∧ d.toLower = c.toLower := by
  have hall : (table.all fun rule => rule.unlessAfter.all fun word => !word.toList.isEmpty &&
      word.toList.all fun c => (WordingPart.letter c).isLatinLetter &&
        latinForms.all fun d => foldCase d != c || d.toLower == c.toLower) = true := by rfl
  have hforms := List.all_eq_true.mp (List.all_eq_true.mp hall rule hrule) word hword
  simp only [Bool.and_eq_true, Bool.not_eq_true', List.isEmpty_eq_false_iff] at hforms
  refine ⟨hforms.1, fun c hc d hd => ?_⟩
  have hletter := List.all_eq_true.mp hforms.2 c hc
  simp only [Bool.and_eq_true] at hletter
  have hlatin : isLatin d = true := WordingPart.isLatin_of_covers hletter.1 (beq_iff_eq.mpr hd)
  have hlower := holds_of_isLatin hletter.2 hlatin
  simp only [hd, bne_self_eq_false, Bool.false_or, beq_iff_eq] at hlower
  exact ⟨hlatin, hlower⟩

/-- The parts behind a place after a disqualifying word are that word and a gap after it, with
nothing or a gap before them. -/
private theorem exists_of_disqualifiedAfter (h : rule.disqualifiedAfter w.reverse = true) :
    ∃ word ∈ rule.unlessAfter, ∃ lead : Wording, (lead = [] ∨ lead.getLast? = some .blanks) ∧
      w = lead ++ (word.toList.map .letter ++ [.blanks]) := by
  obtain ⟨word, hword, hbehind⟩ := List.any_eq_true.mp h
  refine ⟨word, hword, ?_⟩
  rcases (Bool.or_eq_true _ _).mp hbehind with hwhole | hlonger
  · refine ⟨[], Or.inl rfl, ?_⟩
    rw [List.reverse_eq_iff.mp (beq_iff_eq.mp hwhole)]
    simp
  · obtain ⟨rest, hrest⟩ := List.isPrefixOf_iff_prefix.mp hlonger
    refine ⟨rest.reverse ++ [WordingPart.blanks], Or.inr (by simp), ?_⟩
    rw [List.reverse_eq_iff.mp hrest.symm]
    simp

/-- A match is disqualified by the spelling of a disqualifying word and a gap before it. -/
theorem disqualifies_of_disqualifiedAfter (hrule : rule ∈ table)
    (h : w.SpelledBy m.before numbers) (hafter : rule.disqualifiedAfter w.reverse = true) :
    rule.disqualifies m = true := by
  obtain ⟨word, hword, lead, hlead, rfl⟩ := exists_of_disqualifiedAfter hafter
  obtain ⟨hne, hforms⟩ := toLower_of_mem_unlessAfter hrule hword
  obtain ⟨before, _, _, _, hbefore, _, hspelled, hrest⟩ := spelledBy_append.mp h
  obtain ⟨v, gap, _, _, rfl, _, hv, hgap⟩ := spelledBy_append.mp hrest
  have hfold : v.map foldCase = word.toList := hv.map_foldCase
  have hmem : ∀ c ∈ v, foldCase c ∈ word.toList := fun c hc => hfold ▸ List.mem_map_of_mem hc
  have hlast : lastWord m.before = v := by
    rw [hbefore, ← List.append_assoc]
    refine lastWord_append ?_ (fun c hc => (hforms _ (hmem c hc) c rfl).1) ?_
      (spelledBy_singleton.mp hgap).1.2
    · rintro rfl
      exact hne hfold.symm
    · exact hspelled.last_eq_false_of_gap (fun _ => isAlphanumeric_of_isBlank) hlead
  refine List.any_eq_true.mpr ⟨word, hword, ?_⟩
  rw [hlast, Text.eqIgnoringCase, ← hfold, List.map_map, beq_iff_eq]
  exact List.map_congr_left fun c hc => (hforms _ (hmem c hc) c rfl).2

/-- Whether no wording of the rule goes on, from its first letter, as the phrase does from the
beginning of one of its words, except where the wording begins with that letter and the word comes
right after a word that disqualifies the match. -/
def outOfReach (rule : TranslationRule) (w : Wording) : Bool :=
  (wordingsOf rule.id).all fun g => w.wordStarts.all fun (behind, ahead) =>
    !g.core.isPrefixOf ahead || g.head?.any (·.isLetter) && rule.disqualifiedAfter behind

/-- A rule that is out of reach of a phrase does not apply to any spelling of it. -/
theorem apply_eq_none_of_outOfReach (hrule : rule ∈ table) (hw : w.IsPhrase) {t : Text}
    (h : w.SpelledBy t numbers) (hreach : rule.outOfReach w = true) : rule.apply t = none := by
  rw [apply, Option.map_eq_none_iff, firstMatch, List.find?_eq_none]
  intro m hm
  obtain ⟨htext, hreads⟩ := Pattern.readIn_of_mem_findAll hm
  obtain ⟨g, hg, w₁, w₂, hstart, hprefix, hbefore⟩ :=
    exists_wordStart_of_reads hrule hw (htext ▸ h) hreads
  have hplace := List.all_eq_true.mp (List.all_eq_true.mp hreach g hg) _ hstart
  simp only [Bool.or_eq_true, Bool.not_eq_true', Bool.and_eq_true] at hplace
  rcases hplace with hno | ⟨hhead, hafter⟩
  · rw [← Bool.not_eq_true, List.isPrefixOf_iff_prefix] at hno
    exact absurd hprefix hno
  · obtain ⟨_, hspelled⟩ := hbefore hhead
    simpa using disqualifies_of_disqualifiedAfter hrule hspelled hafter

end TranslationRule

end ExprGate
