import ExprGate.Proofs.Evidence

/-!
# Operands are whole runs of digits

The patterns of the rules ask for no boundary around a number. Still, no operand begins or ends in
the middle of a run of digits. Within a match, what comes before and after an operand consists of
other characters; this can be read off the pattern, once it is known that no digit stands right
before the match and none right after it. Before a match that begins with an operand, none does
because matching is leftmost. After a match none does because its last operand goes on as far as
possible, and for the same reason a point with a digit after it is only left behind when the operand
has a point already.
-/

namespace ExprGate

/-- Whether no character of the set is a digit. -/
def CharSet.excludesDigits : CharSet → Bool
  | char x => !x.isDigit
  | digit => false
  | blank | latin => true

/-- A set without digits accepts no digit. -/
theorem CharSet.isDigit_eq_false_of_accepts {set : CharSet} (hset : set.excludesDigits = true)
    {c : Char} (hc : set.accepts c = true) : c.isDigit = false := by
  rw [← Bool.not_eq_true]
  intro hdigit
  cases set with
  | char x =>
    have hfold := holds_of_isDigit (fun c => foldCase c == c) (by rfl) hdigit
    obtain rfl : c = x := (beq_iff_eq.mp hfold).symm.trans (beq_iff_eq.mp hc)
    simp [excludesDigits, hdigit] at hset
  | blank =>
    have hblank := holds_of_isDigit (fun c => !isBlank c) (by rfl) hdigit
    simp [show isBlank c = true from hc] at hblank
  | digit => exact Bool.false_ne_true hset
  | latin =>
    have hlatin := holds_of_isDigit (fun c => !isLatin c) (by rfl) hdigit
    simp [show isLatin c = true from hc] at hlatin

/-- The text of a place: what is behind it and what lies ahead. -/
def Place.text (s : Place) : Text := s.behind.reverse ++ s.ahead

/-- Passing over a part of a text stays in that text. -/
theorem Place.Passes.text_eq {s e : Place} {m : Text} (h : s.Passes m e) : e.text = s.text := by
  rw [Place.text, Place.text, h.1, h.2, List.reverse_append, List.reverse_reverse,
    List.append_assoc]

/-- Whether a digit stands right behind the place. -/
def Place.digitBehind (s : Place) : Bool := s.behind.head?.any Char.isDigit

/-- Whether a digit stands right ahead of the place. -/
def Place.digitAhead (s : Place) : Bool := s.ahead.head?.any Char.isDigit

/-- The stretch lies in the text, and no digit stands right before it or right after it. -/
def Stretch.UncutIn (text : Text) (s : Stretch) : Prop :=
  ∃ before, text = before ++ s.first ∧ s.first = s.text ++ s.last ∧
    before.getLast?.any Char.isDigit = false ∧ s.last.head?.any Char.isDigit = false

/-- Between two places without digits outside of what is passed over, the stretch is not cut. -/
theorem Place.Passes.uncutIn {s e : Place} {m : Text} (h : s.Passes m e)
    (hbehind : s.digitBehind = false) (hahead : e.digitAhead = false) :
    (s.stretchTo e).UncutIn s.text := by
  refine ⟨s.behind.reverse, rfl, ?_, ?_, hahead⟩
  · rw [h.text_stretchTo]
    exact h.1
  · rw [List.getLast?_reverse]
    exact hbehind

namespace Pattern

variable {p : Pattern} {s e : Place} {start stop : Bool}

/-- Whether no digit stands right behind the end of a match, when `start` says so of its start. -/
def clearsBehind : Pattern → Bool → Bool
  | never, _ => true
  | nothing, start | boundary, start => start
  | one set, _ => set.excludesDigits
  | many set, start => start && set.excludesDigits
  | seq p q, start => q.clearsBehind (p.clearsBehind start)
  | either p q, start => p.clearsBehind start && q.clearsBehind start
  | operand p, start => p.clearsBehind start

/-- Whether no digit stands right ahead of the start of a match, when `stop` says so of its end. -/
def clearsAhead : Pattern → Bool → Bool
  | never, _ => true
  | nothing, stop | boundary, stop => stop
  | one set, _ => set.excludesDigits
  | many set, stop => stop && set.excludesDigits
  | seq p q, stop => p.clearsAhead (q.clearsAhead stop)
  | either p q, stop => p.clearsAhead stop && q.clearsAhead stop
  | operand p, stop => p.clearsAhead stop

/-- Whether no digit stands right before or after an operand of a match, when `start` and `stop` say
so of the match itself. -/
def keepsOperandsApart : Pattern → Bool → Bool → Bool
  | seq p q, start, stop =>
    p.keepsOperandsApart start (q.clearsAhead stop) &&
      q.keepsOperandsApart (p.clearsBehind start) stop
  | either p q, start, stop => p.keepsOperandsApart start stop && q.keepsOperandsApart start stop
  | operand p, start, stop => start && stop && p.keepsOperandsApart start stop
  | _, _, _ => true

/-- No digit stands right behind the end of a match of a pattern that clears it. -/
theorem digitBehind_of_clearsBehind (h : e ∈ p.ends s) (hp : p.clearsBehind start = true)
    (hstart : start = true → s.digitBehind = false) : e.digitBehind = false := by
  induction p generalizing s e start with
  | never => simp [ends] at h
  | nothing =>
    obtain rfl : e = s := mem_ends_nothing.mp h
    exact hstart hp
  | boundary =>
    obtain ⟨rfl, _⟩ := mem_ends_boundary.mp h
    exact hstart hp
  | one set =>
    obtain ⟨c, hc, hpasses, _⟩ := Place.mem_step_iff.mp h
    rw [Place.digitBehind, hpasses.2]
    exact CharSet.isDigit_eq_false_of_accepts hp hc
  | many set =>
    obtain ⟨hbehind, hset⟩ := (Bool.and_eq_true _ _).mp hp
    obtain ⟨m, hpasses, hrun, _⟩ := Place.exists_run_of_mem_stations (List.mem_reverse.mp h)
    rw [Place.digitBehind, hpasses.2]
    -- The nearest character is the last one of the run, if there is one.
    cases hm : m.reverse with
    | nil => exact hstart hbehind
    | cons c rest =>
      have hc : c ∈ m := List.mem_reverse.mp (hm ▸ List.mem_cons_self)
      exact CharSet.isDigit_eq_false_of_accepts hset (hrun c hc)
  | seq p q ihp ihq =>
    obtain ⟨mid, hmid, hend⟩ := mem_ends_seq.mp h
    exact ihq hend hp fun hclear => ihp hmid hclear hstart
  | either p q ihp ihq =>
    obtain ⟨hfirst, hsecond⟩ := (Bool.and_eq_true _ _).mp hp
    rcases mem_ends_either.mp h with h | h
    · exact ihp h hfirst hstart
    · exact ihq h hsecond hstart
  | operand p ih =>
    obtain ⟨last, hlast, rfl⟩ := mem_ends_operand.mp h
    have hbehind : last.digitBehind = false := ih hlast hp hstart
    exact hbehind

/-- No digit stands right ahead of the start of a match of a pattern that clears it. -/
theorem digitAhead_of_clearsAhead (h : e ∈ p.ends s) (hp : p.clearsAhead stop = true)
    (hstop : stop = true → e.digitAhead = false) : s.digitAhead = false := by
  induction p generalizing s e stop with
  | never => simp [ends] at h
  | nothing =>
    obtain rfl : e = s := mem_ends_nothing.mp h
    exact hstop hp
  | boundary =>
    obtain ⟨rfl, _⟩ := mem_ends_boundary.mp h
    exact hstop hp
  | one set =>
    obtain ⟨c, hc, hpasses, _⟩ := Place.mem_step_iff.mp h
    rw [Place.digitAhead, hpasses.1]
    exact CharSet.isDigit_eq_false_of_accepts hp hc
  | many set =>
    obtain ⟨hahead, hset⟩ := (Bool.and_eq_true _ _).mp hp
    obtain ⟨m, hpasses, hrun, _⟩ := Place.exists_run_of_mem_stations (List.mem_reverse.mp h)
    have hsplit : s.ahead = m ++ e.ahead := hpasses.1
    rw [Place.digitAhead, hsplit]
    cases m with
    | nil => exact hstop hahead
    | cons c rest => exact CharSet.isDigit_eq_false_of_accepts hset (hrun c List.mem_cons_self)
  | seq p q ihp ihq =>
    obtain ⟨mid, hmid, hend⟩ := mem_ends_seq.mp h
    exact ihp hmid hp fun hclear => ihq hend hclear hstop
  | either p q ihp ihq =>
    obtain ⟨hfirst, hsecond⟩ := (Bool.and_eq_true _ _).mp hp
    rcases mem_ends_either.mp h with h | h
    · exact ihp h hfirst hstop
    · exact ihq h hsecond hstop
  | operand p ih =>
    obtain ⟨last, hlast, rfl⟩ := mem_ends_operand.mp h
    exact ih hlast hp hstop

/-- The operands that a match records are not cut, when the pattern keeps them apart from digits. -/
theorem uncutIn_of_keepsOperandsApart (h : e ∈ p.ends s)
    (hp : p.keepsOperandsApart start stop = true)
    (hstart : start = true → s.digitBehind = false) (hstop : stop = true → e.digitAhead = false)
    {operand : Stretch} (hoperand : operand ∈ e.operands) :
    operand ∈ s.operands ∨ operand.UncutIn s.text := by
  induction p generalizing s e start stop with
  | never => simp [ends] at h
  | nothing =>
    obtain rfl : e = s := mem_ends_nothing.mp h
    exact Or.inl hoperand
  | boundary =>
    obtain ⟨rfl, _⟩ := mem_ends_boundary.mp h
    exact Or.inl hoperand
  | one set =>
    obtain ⟨_, _, _, hsame⟩ := Place.mem_step_iff.mp h
    exact Or.inl (hsame ▸ hoperand)
  | many set =>
    obtain ⟨_, _, _, hsame⟩ := Place.exists_run_of_mem_stations (List.mem_reverse.mp h)
    have hkept : e.operands = s.operands := hsame
    exact Or.inl (hkept ▸ hoperand)
  | seq p q ihp ihq =>
    obtain ⟨hfirst, hsecond⟩ := (Bool.and_eq_true _ _).mp hp
    obtain ⟨mid, hmid, hend⟩ := mem_ends_seq.mp h
    have hbehind (hclear : p.clearsBehind start = true) : mid.digitBehind = false :=
      digitBehind_of_clearsBehind hmid hclear hstart
    have hahead (hclear : q.clearsAhead stop = true) : mid.digitAhead = false :=
      digitAhead_of_clearsAhead hend hclear hstop
    rcases ihq hend hsecond hbehind hstop hoperand with hearlier | huncut
    · exact ihp hmid hfirst hstart hahead hearlier
    · obtain ⟨_, _, hpasses, _⟩ := reads_of_mem_ends hmid
      exact Or.inr (hpasses.text_eq ▸ huncut)
  | either p q ihp ihq =>
    obtain ⟨hfirst, hsecond⟩ := (Bool.and_eq_true _ _).mp hp
    rcases mem_ends_either.mp h with h | h
    · exact ihp h hfirst hstart hstop hoperand
    · exact ihq h hsecond hstart hstop hoperand
  | operand p ih =>
    simp only [keepsOperandsApart, Bool.and_eq_true] at hp
    obtain ⟨⟨hbehind, hahead⟩, hinner⟩ := hp
    obtain ⟨last, hlast, rfl⟩ := mem_ends_operand.mp h
    rcases List.mem_append.mp hoperand with hearlier | hthis
    · exact ih hlast hinner hstart hstop hearlier
    · obtain rfl := List.mem_singleton.mp hthis
      obtain ⟨_, _, hpasses, _⟩ := reads_of_mem_ends hlast
      exact Or.inr (hpasses.uncutIn (hstart hbehind) (hstop hahead))

/-- Every match in a text is the preferred one at its place. -/
theorem matchAt_of_mem_findAll {text : Text} {m : Match} (h : m ∈ p.findAll text) :
    p.matchAt m.before.reverse (m.matched ++ m.after) = some m := by
  obtain ⟨_, _, _, hsearch⟩ := exists_search_of_mem_searchAll h
  exact matchAt_of_search hsearch

end Pattern

/-- A digit after a decimal literal makes a longer one. -/
theorem IsDecimalLiteral.concat_digit {n : Text} (h : IsDecimalLiteral n) {digit : Char}
    (hdigit : digit.isDigit = true) : IsDecimalLiteral (n ++ [digit]) := by
  have hconcat {whole : Text} (hwhole : IsNumeral whole) : IsNumeral (whole ++ [digit]) := by
    refine ⟨by simp, List.forall_mem_append.mpr ⟨hwhole.2, ?_⟩⟩
    simpa using hdigit
  obtain ⟨whole, hwhole, rfl | ⟨fraction, hfraction, rfl⟩⟩ := h
  · exact ⟨_, hconcat hwhole, Or.inl rfl⟩
  · exact ⟨whole, hwhole, Or.inr ⟨_, hconcat hfraction, by simp⟩⟩

/-- A numeral with a point and a digit after it is a decimal literal. -/
theorem IsNumeral.before_point {n : Text} (h : IsNumeral n) {digit : Char}
    (hdigit : digit.isDigit = true) : IsDecimalLiteral (n ++ ['.', digit]) :=
  ⟨n, h, Or.inr ⟨[digit], ⟨by simp, by simpa using hdigit⟩, rfl⟩⟩

/-- A point with a digit after it follows the stretch only if the stretch has a point already. -/
def Stretch.KeepsPoint (s : Stretch) : Prop :=
  ∀ digit rest, s.last = '.' :: digit :: rest → digit.isDigit = true → '.' ∈ s.text

/-- No digit stands right after the preferred match of a pattern that ends with an operand, and a
point with a digit after it only if that operand has a point. -/
theorem Pattern.digitAhead_of_endsWithDecimal {p : Pattern} {s e : Place}
    (hp : p.endsWithDecimal = true) (h : (p.ends s).head? = some e) :
    e.digitAhead = false ∧ ∃ earlier last, e.operands = earlier ++ [last] ∧ last.KeepsPoint := by
  obtain ⟨earlier, last, hoperands, hlast, hliteral, hlongest⟩ :=
    exists_last_operand_of_head?_ends hp h
  refine ⟨?_, earlier, last, hoperands, fun digit rest hrest hdigit => ?_⟩
  · rw [Place.digitAhead, ← Bool.not_eq_true, Option.any_eq_true]
    rintro ⟨digit, hhead, hdigit⟩
    obtain ⟨rest, hrest⟩ := List.head?_eq_some_iff.mp hhead
    exact absurd (hlongest [digit] rest hrest (hliteral.concat_digit hdigit)) (by simp)
  · by_contra hpoint
    have hlonger := (hliteral.isNumeral_of_no_point hpoint).before_point hdigit
    exact absurd (hlongest ['.', digit] rest (hlast ▸ hrest) hlonger) (by simp)

/-- The place where the match begins. -/
def Match.place (m : Match) : Place := ⟨m.before.reverse, m.matched ++ m.after, []⟩

namespace TranslationRule

variable {rule : TranslationRule} {text : Text} {m : Match} {e : Place}

/-- The stretches that a rule records as its operands, in the match that is taken. -/
def recorded (rule : TranslationRule) (text : Text) : Option (List Stretch) :=
  (rule.firstMatch text).bind fun m => ((rule.pattern.ends m.place).head?).map Place.operands

/-- The match that a rule takes ends at the preferred end from its place. -/
theorem exists_end_of_firstMatch (h : rule.firstMatch text = some m) :
    m.place.text = text ∧ ∃ e, (rule.pattern.ends m.place).head? = some e ∧
      rule.recorded text = some e.operands ∧ m.operands = e.operands.map Stretch.text := by
  have hmem := List.mem_of_find?_eq_some h
  have htext : text = m.before ++ m.matched ++ m.after :=
    (Pattern.readIn_of_mem_findAll hmem).text_eq
  obtain ⟨e, he, hm⟩ := Option.map_eq_some_iff.mp (Pattern.matchAt_of_mem_findAll hmem)
  have hend : (rule.pattern.ends m.place).head? = some e := he
  refine ⟨?_, e, hend, ?_, congrArg Match.operands hm.symm⟩
  · rw [Place.text, Match.place, List.reverse_reverse, htext, List.append_assoc]
  · rw [recorded, h, Option.bind_some, hend, Option.map_some]

/-- Each rule ends with an operand and keeps its operands apart from digits, if no digit stands
right after its match and, in the case of a rule between two numbers, none right before it. -/
theorem keepsOperandsApart_of_mem_table : ∀ rule ∈ table,
    rule.pattern.endsWithDecimal = true ∧
      rule.pattern.keepsOperandsApart (betweenNumbers.contains rule) true = true := by
  have hall : (table.all fun rule => rule.pattern.endsWithDecimal &&
      rule.pattern.keepsOperandsApart (betweenNumbers.contains rule) true) = true := by rfl
  intro rule hrule
  exact (Bool.and_eq_true _ _).mp (List.all_eq_true.mp hall rule hrule)

/-- No digit stands right before a match of a rule between two numbers. -/
theorem digitBehind_of_betweenNumbers (hrule : rule ∈ betweenNumbers)
    (h : rule.firstMatch text = some m) : m.place.digitBehind = false := by
  obtain ⟨_, ⟨rest, hpattern⟩, _, hwords⟩ := shape_of_mem_betweenNumbers rule hrule
  rw [firstMatch_eq_find hwords, hpattern] at h
  rw [Place.digitBehind, Match.place, List.head?_reverse]
  exact Pattern.last_isDigit_eq_false_of_find h

/-- The operands that a rule records are not cut, and the last one keeps its point. -/
theorem exists_recorded_of_firstMatch (hrule : rule ∈ table) (h : rule.firstMatch text = some m) :
    ∃ recorded, rule.recorded text = some recorded ∧ m.operands = recorded.map Stretch.text ∧
      (∀ operand ∈ recorded, operand.UncutIn text) ∧
      ∀ last ∈ recorded.getLast?, last.KeepsPoint := by
  obtain ⟨hdecimal, hkeeps⟩ := keepsOperandsApart_of_mem_table rule hrule
  obtain ⟨htext, e, he, hrecorded, hoperands⟩ := exists_end_of_firstMatch h
  obtain ⟨hahead, earlier, last, hsplit, hpoint⟩ :=
    Pattern.digitAhead_of_endsWithDecimal hdecimal he
  have hbehind (hbetween : betweenNumbers.contains rule = true) : m.place.digitBehind = false :=
    digitBehind_of_betweenNumbers (List.contains_iff_mem.mp hbetween) h
  refine ⟨e.operands, hrecorded, hoperands, fun operand hoperand => ?_, fun other hother => ?_⟩
  · have hcases := Pattern.uncutIn_of_keepsOperandsApart (List.mem_of_head? he) hkeeps hbehind
      (fun _ => hahead) hoperand
    rcases hcases with hnone | huncut
    · exact absurd hnone List.not_mem_nil
    · exact htext ▸ huncut
  · rw [hsplit, List.getLast?_concat, Option.mem_some_iff] at hother
    exact hother ▸ hpoint

end TranslationRule

/-- A blank is no digit. -/
theorem isDigit_eq_false_of_isBlank {c : Char} (h : isBlank c = true) : c.isDigit = false := by
  have haccepts : CharSet.blank.accepts c = true := h
  exact CharSet.isDigit_eq_false_of_accepts rfl haccepts

section Blanks

/-! ### Blanks around the phrase -/

variable {before text after : Text} {s : Stretch}

/-- No digit comes first in a text when blanks are put after it. -/
theorem head?_append_isDigit_eq_false (htext : text.head?.any Char.isDigit = false)
    (hafter : ∀ c ∈ after, isBlank c = true) : (text ++ after).head?.any Char.isDigit = false := by
  cases text with
  | cons c text => exact htext
  | nil =>
    cases after with
    | nil => rfl
    | cons c after => exact isDigit_eq_false_of_isBlank (hafter c List.mem_cons_self)

/-- Blanks around a text do not cut a stretch of it. -/
theorem Stretch.UncutIn.between_blanks (h : s.UncutIn text)
    (hbefore : ∀ c ∈ before, isBlank c = true) (hafter : ∀ c ∈ after, isBlank c = true) :
    (s.followedBy after).UncutIn (before ++ text ++ after) := by
  obtain ⟨first, rfl, hsplit, hfirst, hlast⟩ := h
  refine ⟨before ++ first, by simp [Stretch.followedBy], ?_, ?_,
    head?_append_isDigit_eq_false hlast hafter⟩
  · rw [Stretch.text_followedBy]
    change s.first ++ after = s.text ++ (s.last ++ after)
    rw [← List.append_assoc, ← hsplit]
  · rw [← List.head?_reverse] at hfirst ⊢
    rw [List.reverse_append]
    exact head?_append_isDigit_eq_false hfirst fun c hc => hbefore c (List.mem_reverse.mp hc)

/-- Blanks after a text do not take a point from a stretch of it. -/
theorem Stretch.KeepsPoint.followedBy (h : s.KeepsPoint) (hafter : ∀ c ∈ after, isBlank c = true) :
    (s.followedBy after).KeepsPoint := by
  intro digit rest hrest hdigit
  rw [Stretch.text_followedBy]
  have hsplit : s.last ++ after = '.' :: digit :: rest := hrest
  -- Neither the point nor the digit is one of the blanks.
  match hlast : s.last with
  | [] =>
    rw [hlast, List.nil_append] at hsplit
    exact absurd (hafter '.' (hsplit ▸ List.mem_cons_self)) (by decide)
  | [c] =>
    rw [hlast] at hsplit
    have hafter_eq : after = digit :: rest := (List.cons.inj hsplit).2
    have hblank : isBlank digit = true := hafter digit (hafter_eq ▸ List.mem_cons_self)
    exact absurd ((isDigit_eq_false_of_isBlank hblank).symm.trans hdigit) Bool.false_ne_true
  | c :: d :: more =>
    rw [hlast] at hsplit
    obtain ⟨rfl, htail⟩ := List.cons.inj hsplit
    obtain ⟨rfl, _⟩ := List.cons.inj htail
    exact h d more hlast hdigit

end Blanks

/-- The translation of the phrase by the rule has these stretches of the phrase as its operands, and
none of them begins or ends inside a run of digits. -/
structure Translation.TakesWhole (phrase : Text) (rule : TranslationRule) (operands : List Stretch)
    (t : Translation) : Prop where
  /-- The rule is the one of the table that the translation names. -/
  rule_eq : TranslationRule.table.find? (fun r => r.id == t.ruleId) = some rule
  /-- The operands are those that the rule records in the trimmed phrase, where they stand in the
  phrase. -/
  recorded_eq : ∃ before after recorded, phrase = before ++ Text.trim phrase ++ after ∧
    rule.recorded (Text.trim phrase) = some recorded ∧
      operands = recorded.map (Stretch.followedBy after)
  /-- The template has a place for each operand, in their order. -/
  places_eq : rule.template.filterMap TemplatePart.place? = List.range operands.length
  /-- The notation is the template with the operands in their places. -/
  expression_eq : t.expression = fillTemplate rule.template (operands.map Stretch.text)
  /-- No digit stands right before an operand or right after it. -/
  uncut : ∀ operand ∈ operands, operand.UncutIn phrase
  /-- A point with a digit after it follows the last operand only if that has a point already. -/
  point : ∀ last ∈ operands.getLast?, last.KeepsPoint

/-- Operands are never cut. The operands of a translation are captured where no digit stands right
before them and none right after them, and the last one is followed by a point and a digit only if
it has a point already. -/
theorem operands_are_never_cut {phrase : Text} {t : Translation} (h : translate phrase = some t) :
    ∃ rule operands, t.TakesWhole phrase rule operands := by
  obtain ⟨rule, hrule, m, hm, rfl⟩ := exists_firstMatch_of_translate h
  obtain ⟨n, hcount, hplaces⟩ := decimalCount_of_mem_table rule hrule
  have hreads := (Pattern.readIn_of_mem_findAll (List.mem_of_find?_eq_some hm)).reads
  obtain ⟨hlength, _, _⟩ := Pattern.operands_of_reads hcount hreads
  obtain ⟨recorded, hrecorded, hoperands, huncut, hpoint⟩ :=
    TranslationRule.exists_recorded_of_firstMatch hrule hm
  obtain ⟨before, after, hphrase, hbefore, hafter⟩ := Text.exists_trim phrase
  refine ⟨rule, recorded.map (Stretch.followedBy after), find?_id_of_mem_table rule hrule,
    ⟨before, after, recorded, hphrase, hrecorded, rfl⟩, ?_, ?_, ?_, ?_⟩
  · rw [hplaces, ← hlength, hoperands, List.length_map, List.length_map]
  · have htexts : (recorded.map (Stretch.followedBy after)).map Stretch.text = m.operands := by
      rw [hoperands, List.map_map]
      exact List.map_congr_left fun s _ => Stretch.text_followedBy after s
    rw [htexts]
  · rw [hphrase, List.forall_mem_map]
    intro operand hoperand
    exact (huncut operand hoperand).between_blanks hbefore hafter
  · intro last hlast
    rw [List.getLast?_map] at hlast
    obtain ⟨operand, hoperand, rfl⟩ := Option.map_eq_some_iff.mp hlast
    exact (hpoint operand hoperand).followedBy hafter

/-- Of two numbers with two points each, between blanks, the last part of the first one and the
first part of the second one are added, and both are taken whole. -/
theorem parts_of_versions_taken_whole :
    translate " 1.2.3 plus 4.5.6 ".toList = some ⟨"N3", "addition", "2.3 + 4.5".toList⟩ ∧
      ∃ rule operands, Translation.TakesWhole " 1.2.3 plus 4.5.6 ".toList rule operands
        ⟨"N3", "addition", "2.3 + 4.5".toList⟩ := by
  have htranslate : translate " 1.2.3 plus 4.5.6 ".toList =
      some ⟨"N3", "addition", "2.3 + 4.5".toList⟩ := by decide +kernel
  exact ⟨htranslate, operands_are_never_cut htranslate⟩

end ExprGate
