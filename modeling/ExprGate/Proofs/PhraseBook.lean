import ExprGate.Proofs.Surroundings
import ExprGate.Proofs.Wordings

/-!
# The phrase book

The patterns of the rules are made for the matcher. Here the phrases of each rule are written down
as one would list them for a reader, with the choices in each place, and it is shown that a rule
reads exactly the spellings of its phrases.
-/

namespace ExprGate

/-- A text spells a wording of one part when it fits that part. -/
theorem Wording.spelledBy_singleton {part : WordingPart} {t : Text} {numbers : List Text} :
    Wording.SpelledBy [part] t numbers ↔ part.Fits t numbers := by
  constructor
  · rintro ⟨t₁, _, numbers₁, _, rfl, rfl, hfits, rfl, rfl⟩
    rwa [List.append_nil, List.append_nil]
  · intro h
    exact ⟨t, [], numbers, [], by simp, by simp, h, rfl, rfl⟩

namespace Pattern

variable {p : Pattern} {behind m after : Text} {operands : List Text}

/-- Blanks are read in a text exactly when it is a gap. -/
theorem reads_blanks_iff :
    blanks.Reads behind m after operands ↔ WordingPart.blanks.Fits m operands := by
  constructor
  · rintro ⟨_, rest, _, _, rfl, rfl, ⟨⟨c, rfl, hc⟩, rfl⟩, hrest, rfl⟩
    exact ⟨⟨List.cons_ne_nil c rest, List.forall_mem_cons.mpr ⟨hc, hrest⟩⟩, rfl⟩
  · rintro ⟨⟨hne, hblank⟩, rfl⟩
    obtain ⟨c, rest, rfl⟩ := List.exists_cons_of_ne_nil hne
    obtain ⟨hc, hrest⟩ := List.forall_mem_cons.mp hblank
    exact ⟨[c], rest, [], [], rfl, rfl, ⟨⟨c, rfl, hc⟩, rfl⟩, hrest, rfl⟩

/-- Digits are read in every numeral. -/
private theorem reads_digits_of_isNumeral (h : IsNumeral m) :
    TranslationRule.digits.Reads behind m after [] := by
  obtain ⟨c, rest, rfl⟩ := List.exists_cons_of_ne_nil h.1
  obtain ⟨hc, hrest⟩ := List.forall_mem_cons.mp h.2
  exact ⟨[c], rest, [], [], rfl, rfl, ⟨⟨c, rfl, hc⟩, rfl⟩, hrest, rfl⟩

/-- A decimal is read in a text exactly when it is a decimal literal. -/
theorem reads_decimal_iff :
    TranslationRule.decimal.Reads behind m after operands ↔ WordingPart.number.Fits m operands := by
  constructor
  · exact TranslationRule.isDecimalLiteral_of_reads
  · rintro ⟨⟨whole, hwhole, hcases⟩, rfl⟩
    refine ⟨[], rfl, ?_⟩
    rcases hcases with rfl | ⟨fraction, hfraction, rfl⟩
    · exact ⟨m, [], [], [], by simp, rfl, reads_digits_of_isNumeral hwhole, Or.inr ⟨rfl, rfl⟩⟩
    · refine ⟨whole, '.' :: fraction, [], [], rfl, rfl, reads_digits_of_isNumeral hwhole,
        Or.inl ⟨['.'], fraction, [], [], rfl, rfl, ⟨⟨'.', rfl, rfl⟩, rfl⟩, ?_⟩⟩
      exact reads_digits_of_isNumeral hfraction

/-- The wordings of the texts that the pattern reads, wherever these are letters, gaps and decimal
literals. -/
def wordings : Pattern → Option (List Wording)
  | never => some []
  | nothing | boundary => some [[]]
  | one (.char c) => some [[.letter c]]
  | many .blank => some [[.blanks], []]
  | one _ | many _ => none
  | seq p q =>
    if seq p q = blanks then some [[.blanks]] else do
      let firsts ← p.wordings
      let seconds ← q.wordings
      return firsts.flatMap fun w => seconds.map (w ++ ·)
  | either p q => do return (← p.wordings) ++ (← q.wordings)
  | operand p => if operand p = TranslationRule.decimal then some [[.number]] else none

/-- A text spells one of the wordings of two patterns in a row when it is a spelling of one of the
first pattern and then one of the second. -/
private theorem exists_spelledBy_products_iff {firsts seconds : List Wording} :
    (∃ w ∈ firsts.flatMap fun w => seconds.map (w ++ ·), w.SpelledBy m operands) ↔
      ∃ m₁ m₂ operands₁ operands₂, m = m₁ ++ m₂ ∧ operands = operands₁ ++ operands₂ ∧
        (∃ w ∈ firsts, w.SpelledBy m₁ operands₁) ∧ ∃ w ∈ seconds, w.SpelledBy m₂ operands₂ := by
  constructor
  · rintro ⟨w, hw, hspelled⟩
    obtain ⟨w₁, hw₁, hmap⟩ := List.mem_flatMap.mp hw
    obtain ⟨w₂, hw₂, rfl⟩ := List.mem_map.mp hmap
    obtain ⟨m₁, m₂, operands₁, operands₂, hm, hoperands, h₁, h₂⟩ :=
      Wording.spelledBy_append.mp hspelled
    exact ⟨m₁, m₂, operands₁, operands₂, hm, hoperands, ⟨w₁, hw₁, h₁⟩, w₂, hw₂, h₂⟩
  · rintro ⟨m₁, m₂, operands₁, operands₂, hm, hoperands, ⟨w₁, hw₁, h₁⟩, w₂, hw₂, h₂⟩
    refine ⟨w₁ ++ w₂, List.mem_flatMap.mpr ⟨w₁, hw₁, List.mem_map_of_mem hw₂⟩, ?_⟩
    exact Wording.spelledBy_append.mpr ⟨m₁, m₂, operands₁, operands₂, hm, hoperands, h₁, h₂⟩

/-- An unanchored pattern reads exactly the spellings of its wordings. -/
theorem reads_iff_spelledBy {ws : List Wording} (hp : p.unanchored = true)
    (hws : p.wordings = some ws) :
    p.Reads behind m after operands ↔ ∃ w ∈ ws, w.SpelledBy m operands := by
  induction p generalizing ws behind m after operands with
  | never =>
    obtain rfl := Option.some.inj hws
    simp [Reads]
  | nothing =>
    obtain rfl := Option.some.inj hws
    simp [Reads, Wording.SpelledBy]
  | boundary => exact absurd hp Bool.false_ne_true
  | one set =>
    cases set with
    | char c =>
      obtain rfl := Option.some.inj hws
      simp [Reads, Wording.spelledBy_singleton, WordingPart.Fits, CharSet.accepts]
    | blank | digit | latin => exact absurd hws (by simp [wordings])
  | many set =>
    cases set with
    | blank =>
      obtain rfl := Option.some.inj hws
      have hnone : Wording.SpelledBy [] m operands ↔ m = [] ∧ operands = [] := Iff.rfl
      simp only [List.mem_cons, List.not_mem_nil, or_false, exists_eq_or_imp, exists_eq_left,
        Wording.spelledBy_singleton, WordingPart.Fits, hnone, ← or_and_right]
      by_cases hnil : m = []
      · simp [hnil, Reads]
      · simp [hnil, Reads, CharSet.accepts]
    | char _ | digit | latin => exact absurd hws (by simp [wordings])
  | seq p q ihp ihq =>
    rw [wordings] at hws
    split at hws
    · next hblanks =>
      obtain rfl := Option.some.inj hws
      rw [hblanks, reads_blanks_iff]
      simp [Wording.spelledBy_singleton]
    · obtain ⟨firsts, hfirsts, seconds, hseconds, rfl⟩ : ∃ firsts, p.wordings = some firsts ∧
          ∃ seconds, q.wordings = some seconds ∧
            (firsts.flatMap fun w => seconds.map (w ++ ·)) = ws := by
        simpa [Option.bind_eq_some_iff] using hws
      obtain ⟨hpfree, hqfree⟩ := (Bool.and_eq_true _ _).mp hp
      rw [exists_spelledBy_products_iff]
      simp only [Reads, ihp hpfree hfirsts, ihq hqfree hseconds]
  | either p q ihp ihq =>
    obtain ⟨firsts, hfirsts, seconds, hseconds, rfl⟩ : ∃ firsts, p.wordings = some firsts ∧
        ∃ seconds, q.wordings = some seconds ∧ firsts ++ seconds = ws := by
      simpa [wordings, Option.bind_eq_some_iff] using hws
    obtain ⟨hpfree, hqfree⟩ := (Bool.and_eq_true _ _).mp hp
    rw [Reads, ihp hpfree hfirsts, ihq hqfree hseconds]
    simp only [List.mem_append, or_and_right, exists_or]
  | operand p =>
    rw [wordings] at hws
    split at hws
    · next hdecimal =>
      obtain rfl := Option.some.inj hws
      rw [hdecimal, reads_decimal_iff]
      simp [Wording.spelledBy_singleton]
    · exact absurd hws (by simp)

/-- Whether the pattern asks for a word boundary first of all. -/
def isAnchored : Pattern → Bool
  | seq boundary _ => true
  | _ => false

/-- What the pattern asks for after the word boundary at its start, if there is one. -/
def body : Pattern → Pattern
  | seq boundary q => q
  | p => p

/-- A pattern reads what its body reads, after a word boundary if it is anchored. -/
theorem reads_iff_body : p.Reads behind m after operands ↔ p.body.Reads behind m after operands ∧
    (p.isAnchored = true → Place.atBoundary ⟨behind, m ++ after, []⟩ = true) := by
  unfold body isAnchored
  split
  · next q =>
    constructor
    · rintro ⟨_, _, _, _, rfl, rfl, ⟨rfl, rfl, hboundary⟩, hreads⟩
      exact ⟨hreads, fun _ => hboundary⟩
    · rintro ⟨hreads, hboundary⟩
      exact ⟨[], m, [], operands, rfl, rfl, ⟨rfl, rfl, hboundary rfl⟩, hreads⟩
  · simp

end Pattern

/-- The wording that a line of the phrase book gives: a space stands for a gap and a number sign for
a decimal literal. -/
def Wording.ofString (line : String) : Wording :=
  line.toList.map fun c => if c = ' ' then .blanks else if c = '#' then .number else .letter c

/-- The phrases of each rule, with the choices for each place one after another. -/
def phraseBook : List (String × List (List String)) := [
  ("N1", [["#"], [" ", ""], ["%"], [" ", ""], ["of", "from"], [" ", ""], ["#"]]),
  ("N2", [["#"], [" ", ""], ["%"], [" ", ""], ["#"]]),
  ("N3", [["# "], ["plus", "added to", "and"], [" #"]]),
  ("N4", [["# "], ["minus", "subtract", "subtracted from"], [" #"]]),
  ("N5", [["# "], ["times", "multiplied by", "multiply"], [" #"]]),
  ("N6", [["# "], ["divided by", "divide", "over"], [" #"]]),
  ("N7", [["# "], ["to the power of", "raised to", "power"], [" #"]]),
  ("N8", [["the ", ""], ["square ", ""], ["root of #"]]),
  ("N9", [["the ", ""], ["cube root of #"]]),
  ("N10", [["the ", ""], ["sine", "sin"], [" of #"]]),
  ("N11", [["the ", ""], ["cosine", "cos"], [" of #"]]),
  ("N12", [["the ", ""], ["tangent", "tan"], [" of #"]]),
  ("N13", [["the ", ""], ["log", "logarithm"], [" "], ["of ", ""], ["#"]]),
  ("N14", [["the ", ""], ["natural ", ""], ["log "], ["of ", ""], ["#"]]),
  ("N15", [["the ", ""], ["absolute value", "abs"], [" "], ["of ", ""], ["-#"]]),
  ("N16", [["the ", ""], ["absolute value", "abs"], [" "], ["of ", ""], ["#"]])]

/-- The wordings that result from the choices for each place. -/
def Wording.ofChoices (places : List (List String)) : List Wording :=
  places.foldr (fun choices rest => choices.flatMap fun line => rest.map (ofString line ++ ·)) [[]]

/-- The wordings that the phrase book has for a rule. -/
def wordingsOf (ruleId : String) : List Wording :=
  Wording.ofChoices ((phraseBook.lookup ruleId).getD [])

/-- The phrase book has for each rule the wordings of its pattern. -/
theorem wordings_of_mem_table : ∀ rule ∈ TranslationRule.table,
    rule.pattern.body.unanchored = true ∧
      rule.pattern.body.wordings = some (wordingsOf rule.id) := by
  have hall : (TranslationRule.table.all fun rule => rule.pattern.body.unanchored &&
      rule.pattern.body.wordings == some (wordingsOf rule.id)) = true := by rfl
  intro rule hrule
  simpa using List.all_eq_true.mp hall rule hrule

/-- A rule reads exactly the spellings of its wordings, after a word boundary if it is anchored. -/
theorem TranslationRule.reads_iff_spelledBy {rule : TranslationRule} (hrule : rule ∈ table)
    {behind m after : Text} {operands : List Text} :
    rule.pattern.Reads behind m after operands ↔
      (∃ w ∈ wordingsOf rule.id, w.SpelledBy m operands) ∧
        (rule.pattern.isAnchored = true →
          Place.atBoundary ⟨behind, m ++ after, []⟩ = true) := by
  obtain ⟨hfree, hwordings⟩ := wordings_of_mem_table rule hrule
  rw [Pattern.reads_iff_body, Pattern.reads_iff_spelledBy hfree hwordings]

end ExprGate
