import ExprGate.Proofs.Canonical

/-!
# Wordings

A wording is a phrase with its letters fixed up to case, with gaps for blanks, and with places for
decimal literals. Many texts spell it, but each of them shows how: a letter stands for itself, and a
run of blanks, or of digits and points, is one part of the wording from end to end. So a wording
that is spelled inside the spelling of another one is part of that one, and the literals of the two
are the same, except that the last one may go on.
-/

namespace ExprGate

/-- Whether a character can stand in a decimal literal. -/
def isNumeric (c : Char) : Bool := c.isDigit || c == '.'

/-- Whether a character is neither a blank nor one that can stand in a decimal literal. -/
def isMark (c : Char) : Bool := !isBlank c && !isNumeric c

/-- The letters a to z in any case are marks. -/
theorem isMark_of_isLatin {c : Char} (h : isLatin c = true) : isMark c = true :=
  holds_of_isLatin (by rfl) h

/-- A character that folds to a mark is a mark. -/
theorem isMark_of_foldCase {c : Char} (h : isMark (foldCase c) = true) : isMark c = true := by
  cases hlatin : isLatin c with
  | true => exact isMark_of_isLatin hlatin
  | false => rwa [foldCase_of_not_isLatin hlatin] at h

/-- A digit or a point is no blank. -/
theorem isBlank_of_isNumeric {c : Char} (h : isNumeric c = true) : isBlank c = false := by
  rcases (Bool.or_eq_true _ _).mp h with hdigit | hpoint
  · have hlow : 48 ≤ c.toNat := (Char.isDigit_iff_toNat.mp hdigit).1
    have hhigh : c.toNat ≤ 57 := (Char.isDigit_iff_toNat.mp hdigit).2
    rw [← Bool.not_eq_true]
    simp only [isBlank, Bool.or_eq_true, Bool.and_eq_true, decide_eq_true_eq, beq_iff_eq]
    omega
  · rw [beq_iff_eq.mp hpoint]
    rfl

/-- A decimal literal consists of digits and points. -/
theorem IsDecimalLiteral.isNumeric {n : Text} (h : IsDecimalLiteral n) :
    ∀ c ∈ n, isNumeric c = true := by
  intro c hc
  simpa [ExprGate.isNumeric] using h.digit_or_point hc

/-- One part of a wording. -/
inductive WordingPart
  /-- A letter or a sign, as it is after case folding. -/
  | letter (c : Char)
  /-- At least one blank. -/
  | blanks
  /-- A decimal literal. -/
  | number
  deriving DecidableEq, Repr

namespace WordingPart

/-- `part.Fits t numbers`: the text is as the part says, and has these decimal literals. -/
def Fits : WordingPart → Text → List Text → Prop
  | letter c, t, numbers => (∃ d, t = [d] ∧ foldCase d = c) ∧ numbers = []
  | blanks, t, numbers => (t ≠ [] ∧ ∀ c ∈ t, isBlank c = true) ∧ numbers = []
  | number, t, numbers => IsDecimalLiteral t ∧ numbers = [t]

/-- Whether the character can stand in a text that fits the part. -/
def covers : WordingPart → Char → Bool
  | letter c, d => foldCase d == c
  | blanks, d => isBlank d
  | number, d => isNumeric d

variable {part : WordingPart} {t : Text} {numbers : List Text}

/-- A text that fits a part is not empty. -/
theorem Fits.ne_nil (h : part.Fits t numbers) : t ≠ [] := by
  cases part with
  | letter c =>
    obtain ⟨⟨d, rfl, _⟩, _⟩ := h
    exact List.cons_ne_nil d []
  | blanks => exact h.1.1
  | number => exact h.1.ne_nil

/-- The characters of a text that fits a part are covered by it. -/
theorem Fits.covers (h : part.Fits t numbers) : ∀ c ∈ t, part.covers c = true := by
  cases part with
  | letter c =>
    obtain ⟨⟨d, rfl, hd⟩, _⟩ := h
    simpa [WordingPart.covers] using hd
  | blanks => exact h.1.2
  | number => exact h.1.isNumeric

/-- The decimal literals of a text that fits a part are determined by the text. -/
theorem Fits.numbers_eq {numbers' : List Text} (h : part.Fits t numbers)
    (h' : part.Fits t numbers') : numbers = numbers' := by
  cases part with
  | letter _ | blanks | number => rw [h.2, h'.2]

/-- Whether the part is not a letter that could be mistaken for part of a run. -/
def isSound : WordingPart → Bool
  | letter c => isMark c
  | blanks | number => true

/-- Whether the part is as long as its characters go on. -/
def isRun : WordingPart → Bool
  | letter _ => false
  | blanks | number => true

/-- A mark is covered by the letter it folds to only. -/
theorem eq_letter_of_covers {c : Char} (hc : isMark c = true) (h : part.covers c = true) :
    part = letter (foldCase c) := by
  simp only [isMark, Bool.and_eq_true, Bool.not_eq_true'] at hc
  cases part with
  | letter d => rw [beq_iff_eq.mp h]
  | blanks => exact absurd (hc.1.symm.trans h) Bool.false_ne_true
  | number => exact absurd (hc.2.symm.trans h) Bool.false_ne_true

/-- The characters that a sound letter covers are marks. -/
theorem isMark_of_covers_letter {c d : Char} (hsound : (letter d).isSound = true)
    (h : (letter d).covers c = true) : isMark c = true :=
  isMark_of_foldCase ((beq_iff_eq.mp h).symm ▸ hsound)

/-- Different parts cover different characters. -/
theorem eq_of_covers {part' : WordingPart} {c : Char} (hsound : part.isSound = true)
    (hsound' : part'.isSound = true) (h : part.covers c = true) (h' : part'.covers c = true) :
    part = part' := by
  match part, part' with
  | letter d, _ =>
    have hmark := isMark_of_covers_letter hsound h
    rw [eq_letter_of_covers hmark h, eq_letter_of_covers hmark h']
  | _, letter d =>
    have hmark := isMark_of_covers_letter hsound' h'
    rw [eq_letter_of_covers hmark h, eq_letter_of_covers hmark h']
  | blanks, blanks | number, number => rfl
  | blanks, number => exact absurd ((isBlank_of_isNumeric h').symm.trans h) Bool.false_ne_true
  | number, blanks => exact absurd ((isBlank_of_isNumeric h).symm.trans h') Bool.false_ne_true

end WordingPart

/-- Some parts in a row. -/
abbrev Wording := List WordingPart

namespace Wording

/-- `w.SpelledBy t numbers`: the text is as the parts of the wording say, one after another, and has
these decimal literals in the places of the wording. -/
def SpelledBy : Wording → Text → List Text → Prop
  | [], t, numbers => t = [] ∧ numbers = []
  | part :: rest, t, numbers => ∃ t₁ t₂ numbers₁ numbers₂, t = t₁ ++ t₂ ∧
      numbers = numbers₁ ++ numbers₂ ∧ part.Fits t₁ numbers₁ ∧ SpelledBy rest t₂ numbers₂

/-- Whether every letter of the wording is a mark, and no two of its gaps and no two of its numbers
stand side by side. -/
def isCrisp : Wording → Bool
  | [] => true
  | part :: rest =>
    part.isSound && !(part.isRun && rest.head? == some part) && isCrisp rest

variable {w w₁ w₂ g : Wording} {t before m after : Text} {numbers operands : List Text}
  {part : WordingPart} {c : Char}

/-- A wording is crisp when its first part is sound and not a run that goes on, and the rest of it
is crisp. -/
theorem isCrisp_cons_iff : isCrisp (part :: w) = true ↔ part.isSound = true ∧
    (part.isRun = true → w.head? ≠ some part) ∧ w.isCrisp = true := by
  simp only [isCrisp, Bool.and_eq_true, Bool.not_eq_true', Bool.and_eq_false_imp,
    beq_eq_false_iff_ne, and_assoc]

/-- The end of a crisp wording is crisp. -/
theorem isCrisp_of_append (h : isCrisp (w₁ ++ w₂) = true) : w₂.isCrisp = true := by
  induction w₁ with
  | nil => exact h
  | cons part w₁ ih => exact ih (isCrisp_cons_iff.mp h).2.2

/-- A text spells two wordings in a row when it is one spelling after another. -/
theorem spelledBy_append : SpelledBy (w₁ ++ w₂) t numbers ↔ ∃ t₁ t₂ numbers₁ numbers₂,
    t = t₁ ++ t₂ ∧ numbers = numbers₁ ++ numbers₂ ∧ SpelledBy w₁ t₁ numbers₁ ∧
      SpelledBy w₂ t₂ numbers₂ := by
  induction w₁ generalizing t numbers with
  | nil =>
    constructor
    · intro h
      exact ⟨[], t, [], numbers, rfl, rfl, ⟨rfl, rfl⟩, h⟩
    · rintro ⟨_, _, _, _, rfl, rfl, ⟨rfl, rfl⟩, h⟩
      exact h
  | cons part w₁ ih =>
    constructor
    · rintro ⟨t₁, _, numbers₁, _, rfl, rfl, hfits, hrest⟩
      obtain ⟨t₂, t₃, numbers₂, numbers₃, rfl, rfl, hfirst, hsecond⟩ := ih.mp hrest
      exact ⟨t₁ ++ t₂, t₃, numbers₁ ++ numbers₂, numbers₃, by simp, by simp,
        ⟨t₁, t₂, numbers₁, numbers₂, rfl, rfl, hfits, hfirst⟩, hsecond⟩
    · rintro ⟨_, t₃, _, numbers₃, rfl, rfl, ⟨t₁, t₂, numbers₁, numbers₂, rfl, rfl, hfits, hfirst⟩,
        hsecond⟩
      exact ⟨t₁, t₂ ++ t₃, numbers₁, numbers₂ ++ numbers₃, by simp, by simp, hfits,
        ih.mpr ⟨t₂, t₃, numbers₂, numbers₃, rfl, rfl, hfirst, hsecond⟩⟩

namespace SpelledBy

/-- Every character of a spelling is covered by a part of the wording. -/
theorem exists_covers (h : SpelledBy w t numbers) (hc : c ∈ t) :
    ∃ part ∈ w, part.covers c = true := by
  induction w generalizing t numbers with
  | nil => exact absurd hc (h.1 ▸ List.not_mem_nil)
  | cons part w ih =>
    obtain ⟨t₁, t₂, _, _, rfl, rfl, hfits, hrest⟩ := h
    rcases List.mem_append.mp hc with hfirst | hlater
    · exact ⟨part, List.mem_cons_self, hfits.covers c hfirst⟩
    · obtain ⟨part', hmem, hcovers⟩ := ih hrest hlater
      exact ⟨part', List.mem_cons_of_mem _ hmem, hcovers⟩

/-- The numbers of a spelling are decimal literals, one for each place of the wording. -/
theorem literals (h : SpelledBy w t numbers) :
    numbers.length = w.count .number ∧ ∀ n ∈ numbers, IsDecimalLiteral n := by
  induction w generalizing t numbers with
  | nil =>
    obtain ⟨_, rfl⟩ := h
    exact ⟨rfl, by simp⟩
  | cons part w ih =>
    obtain ⟨_, _, _, numbers₂, _, rfl, hfits, hrest⟩ := h
    obtain ⟨hlength, hliterals⟩ := ih hrest
    cases part with
    | letter c =>
      obtain ⟨_, rfl⟩ := hfits
      exact ⟨by simpa using hlength, hliterals⟩
    | blanks =>
      obtain ⟨_, rfl⟩ := hfits
      exact ⟨by simpa using hlength, hliterals⟩
    | number =>
      obtain ⟨hliteral, rfl⟩ := hfits
      exact ⟨by simpa using hlength, List.forall_mem_cons.mpr ⟨hliteral, hliterals⟩⟩

/-- A spelling begins with a character that the first part covers. -/
theorem exists_head (h : SpelledBy (part :: w) t numbers) :
    ∃ c rest, t = c :: rest ∧ part.covers c = true := by
  obtain ⟨t₁, t₂, _, _, rfl, _, hfits, _⟩ := h
  obtain ⟨c, rest, rfl⟩ := List.exists_cons_of_ne_nil hfits.ne_nil
  exact ⟨c, rest ++ t₂, rfl, hfits.covers c List.mem_cons_self⟩

section FirstPart

/-! ### Reading the first part off the text -/

/-- Where a spelling begins with a mark, the wording begins with the letter it folds to. -/
theorem letter_of_mark (h : SpelledBy w (c :: t) numbers) (hc : isMark c = true) :
    ∃ rest, w = .letter (foldCase c) :: rest ∧ SpelledBy rest t numbers := by
  cases w with
  | nil => exact absurd h.1 (List.cons_ne_nil c t)
  | cons part rest =>
    obtain ⟨d, _, heq, hcovers⟩ := h.exists_head
    obtain ⟨rfl, rfl⟩ := List.cons.inj heq
    obtain rfl := WordingPart.eq_letter_of_covers hc hcovers
    obtain ⟨_, t₂, _, _, htext, rfl, ⟨⟨_, rfl, _⟩, rfl⟩, hrest⟩ := h
    obtain ⟨rfl, rfl⟩ := List.cons.inj htext
    exact ⟨rest, rfl, hrest⟩

/-- A crisp wording begins with the part that covers the first character of a spelling. -/
theorem exists_eq_cons (hw : w.isCrisp = true) (h : SpelledBy w (c :: t) numbers)
    (hsound : part.isSound = true) (hc : part.covers c = true) : ∃ rest, w = part :: rest := by
  cases w with
  | nil => exact absurd h.1 (List.cons_ne_nil c t)
  | cons first rest =>
    obtain ⟨d, _, heq, hcovers⟩ := h.exists_head
    obtain ⟨rfl, rfl⟩ := List.cons.inj heq
    have hfirst := (isCrisp_cons_iff.mp hw).1
    exact ⟨rest, by rw [WordingPart.eq_of_covers hfirst hsound hcovers hc]⟩

/-- What follows a run in a crisp wording does not begin with a character of the run. -/
theorem covers_eq_false_of_run {rest : Wording} (hw : isCrisp (part :: rest) = true)
    (hrun : part.isRun = true) (h : SpelledBy rest (c :: t) numbers) : part.covers c = false := by
  obtain ⟨hsound, hnext, hcrisp⟩ := isCrisp_cons_iff.mp hw
  rw [← Bool.not_eq_true]
  intro hcovers
  obtain ⟨_, rfl⟩ := h.exists_eq_cons hcrisp hsound hcovers
  exact hnext hrun rfl

/-- In a spelling of a crisp wording a run goes on as long as its characters do. -/
theorem run_fits {rest : Wording} (hw : isCrisp (part :: rest) = true) (hrun : part.isRun = true)
    (h : SpelledBy (part :: rest) t numbers) : ∃ numbers₁ numbers₂, numbers = numbers₁ ++ numbers₂ ∧
      part.Fits (t.takeWhile part.covers) numbers₁ ∧
      SpelledBy rest (t.dropWhile part.covers) numbers₂ := by
  obtain ⟨t₁, t₂, numbers₁, numbers₂, rfl, rfl, hfits, hrest⟩ := h
  have hstop : t₂.takeWhile part.covers = [] ∧ t₂.dropWhile part.covers = t₂ := by
    cases t₂ with
    | nil => exact ⟨rfl, rfl⟩
    | cons c t₂ =>
      have hc : ¬ part.covers c = true := by
        rw [covers_eq_false_of_run hw hrun hrest]
        exact Bool.false_ne_true
      exact ⟨List.takeWhile_cons_of_neg hc, List.dropWhile_cons_of_neg hc⟩
  refine ⟨numbers₁, numbers₂, rfl, ?_, ?_⟩
  · rwa [List.takeWhile_append_of_pos hfits.covers, hstop.1, List.append_nil]
  · rwa [List.dropWhile_append_of_pos hfits.covers, hstop.2]

end FirstPart

/-- A spelling falls apart where a mark stands in it, and the wording with it. -/
theorem exists_split_at_mark (h : SpelledBy w (before ++ c :: after) numbers)
    (hc : isMark c = true) : ∃ w₁ w₂ numbers₁ numbers₂, w = w₁ ++ w₂ ∧
      numbers = numbers₁ ++ numbers₂ ∧ SpelledBy w₁ before numbers₁ ∧
      SpelledBy w₂ (c :: after) numbers₂ := by
  induction w generalizing before numbers with
  | nil => exact absurd h.1 (by simp)
  | cons part w ih =>
    obtain ⟨t₁, t₂, numbers₁, numbers₂, htext, rfl, hfits, hrest⟩ := h
    rcases List.append_eq_append_iff.mp htext with ⟨inner, rfl, hinner⟩ | ⟨later, rfl, rfl⟩
    · cases inner with
      | nil =>
        rw [List.append_nil] at hfits
        refine ⟨[part], w, numbers₁, numbers₂, rfl, rfl, ?_, hinner ▸ hrest⟩
        exact ⟨before, [], numbers₁, [], by simp, by simp, hfits, rfl, rfl⟩
      | cons d inner =>
        -- The mark lies inside the first part, which is then a letter and nothing else.
        obtain ⟨rfl, rfl⟩ := List.cons.inj hinner
        obtain rfl := WordingPart.eq_letter_of_covers hc (hfits.covers c (by simp))
        obtain ⟨⟨d, hd, _⟩, _⟩ := id hfits
        obtain ⟨rfl, hd⟩ : before = [] ∧ c :: inner = [d] := by
          cases before with
          | nil => exact ⟨rfl, hd⟩
          | cons _ _ => simp at hd
        exact ⟨[], _, [], numbers₁ ++ numbers₂, rfl, rfl, ⟨rfl, rfl⟩, c :: inner, t₂, numbers₁,
          numbers₂, rfl, rfl, hfits, hrest⟩
    · obtain ⟨w₁, w₂, numbers₃, numbers₄, rfl, rfl, hfirst, hsecond⟩ := ih hrest
      exact ⟨part :: w₁, w₂, numbers₁ ++ numbers₃, numbers₄, rfl, by simp,
        ⟨t₁, later, numbers₁, numbers₃, rfl, rfl, hfits, hfirst⟩, hsecond⟩

/-- Where a mark begins a spelling, the letters of the marks there begin the wording. -/
theorem exists_eq_letters_append (h : SpelledBy w (m ++ after) numbers)
    (hm : ∀ c ∈ m, isMark c = true) :
    ∃ rest, w = m.map (fun c => .letter (foldCase c)) ++ rest := by
  induction m generalizing w numbers with
  | nil => exact ⟨w, rfl⟩
  | cons c m ih =>
    obtain ⟨hc, hm⟩ := List.forall_mem_cons.mp hm
    obtain ⟨w, rfl, hrest⟩ := h.letter_of_mark hc
    obtain ⟨rest, rfl⟩ := ih hrest hm
    exact ⟨rest, rfl⟩

/-- If a text that fits the first part is followed by a spelling, of whatever can follow that part,
then that text is what stands for the first part in any longer spelling. -/
theorem exists_rest (hgcrisp : isCrisp (part :: g) = true) (hwcrisp : isCrisp (part :: w) = true)
    (hg : g ≠ []) (hfits : part.Fits m operands) {m' : Text} {operands' : List Text}
    (hrest : SpelledBy g m' operands') (hw : SpelledBy (part :: w) (m ++ (m' ++ after)) numbers) :
    ∃ numbers', numbers = operands ++ numbers' ∧ SpelledBy w (m' ++ after) numbers' := by
  cases hrun : part.isRun with
  | false =>
    cases part with
    | letter d =>
      obtain ⟨⟨e, rfl, _⟩, rfl⟩ := hfits
      obtain ⟨_, t, _, numbers', htext, rfl, ⟨⟨e', rfl, _⟩, rfl⟩, hspelled⟩ := hw
      obtain ⟨rfl, rfl⟩ := List.cons.inj htext
      exact ⟨numbers', rfl, hspelled⟩
    | blanks | number => exact absurd hrun.symm Bool.false_ne_true
  | true =>
    obtain ⟨first, g, rfl⟩ := List.exists_cons_of_ne_nil hg
    obtain ⟨c, m', rfl, _⟩ := hrest.exists_head
    have hstop : ¬ part.covers c = true := by
      rw [covers_eq_false_of_run hgcrisp hrun hrest]
      exact Bool.false_ne_true
    obtain ⟨numbers₁, numbers₂, rfl, hfits', hspelled⟩ := run_fits hwcrisp hrun hw
    rw [List.takeWhile_append_of_pos hfits.covers, List.cons_append,
      List.takeWhile_cons_of_neg hstop, List.append_nil] at hfits'
    rw [List.dropWhile_append_of_pos hfits.covers, List.cons_append,
      List.dropWhile_cons_of_neg hstop] at hspelled
    exact ⟨numbers₂, by rw [hfits.numbers_eq hfits'], hspelled⟩

/-- Where one spelling begins with another one, so do their wordings, and the numbers of the two are
the same, but the last one of the shorter spelling may go on in the longer one. -/
theorem exists_eq_append (hg : SpelledBy g m operands) (hw : SpelledBy w (m ++ after) numbers)
    (hgcrisp : g.isCrisp = true) (hwcrisp : w.isCrisp = true)
    (hlast : g.getLast? = some .number) : ∃ w' operands' n more rest numbers',
      w = g ++ w' ∧ operands = operands' ++ [n] ∧ numbers = operands' ++ (n ++ more) :: numbers' ∧
      after = more ++ rest := by
  induction g generalizing w m operands numbers with
  | nil => simp at hlast
  | cons part g ih =>
    obtain ⟨hsound, _, hgrest⟩ := isCrisp_cons_iff.mp hgcrisp
    obtain ⟨w, rfl⟩ : ∃ rest, w = part :: rest := by
      obtain ⟨c, m, rfl, hc⟩ := hg.exists_head
      exact exists_eq_cons hwcrisp hw hsound hc
    obtain ⟨_, _, hwrest⟩ := isCrisp_cons_iff.mp hwcrisp
    obtain ⟨m₁, m₂, operands₁, operands₂, rfl, rfl, hfits, hrest⟩ := hg
    by_cases hnil : g = []
    · subst hnil
      obtain rfl : part = .number := Option.some.inj hlast
      obtain ⟨⟨hliteral, rfl⟩, rfl, rfl⟩ := And.intro hfits hrest
      obtain ⟨_, numbers', rfl, ⟨_, rfl⟩, _⟩ := run_fits hwcrisp rfl hw
      refine ⟨w, [], m₁, after.takeWhile isNumeric, after.dropWhile isNumeric, numbers', rfl, rfl,
        ?_, List.takeWhile_append_dropWhile.symm⟩
      rw [List.append_nil, List.takeWhile_append_of_pos hfits.covers]
      rfl
    · have hlast' : g.getLast? = some .number := by
        rwa [List.getLast?_cons_of_ne_nil hnil] at hlast
      rw [List.append_assoc] at hw
      obtain ⟨numbers₂, rfl, hwords⟩ := exists_rest hgcrisp hwcrisp hnil hfits hrest hw
      obtain ⟨w', operands', n, more, rest, numbers', rfl, rfl, rfl, rfl⟩ :=
        ih hrest hwords hgrest hwrest hlast'
      exact ⟨w', operands₁ ++ operands', n, more, rest, numbers', rfl, by simp, by simp, rfl⟩

end SpelledBy

end Wording

end ExprGate
