import ExprGate.Proofs.YamlLines

/-!
# Reading back scalars of one line

A text that is written plainly or between quotation marks is read back as it is. Reading goes along
the text with the blanks since the last word: in a plain text these are the spaces that stand there,
between single quotation marks they may also be separators of lines, and between double ones every
break is an escape.
-/

namespace ExprGate.Yaml

/-! ## What the choice of a style says about a text -/

section tests

variable {t : Text} {c d : Char} {first second : Char → Bool}

/-- A pair is not at the start of a text, and not behind its first character. -/
theorem hasPair_cons_cons_eq_false : hasPair first second (c :: d :: t) = false ↔
    (first c = true → second d = false) ∧ hasPair first second (d :: t) = false := by
  rw [hasPair, Bool.or_eq_false_iff, Bool.and_eq_false_iff]
  cases first c <;> simp

/-- Whether a word ends behind a text that is not empty is seen in the text. -/
theorem endsWord_append (t : Text) {rest : Text} (hrest : endsWord rest = true) :
    endsWord (t ++ rest) = endsWord t := by
  cases t with
  | nil => rw [List.nil_append, hrest, endsWord]
  | cons c t => rfl

end tests

/-! ## Plain scalars -/

section plain

variable {least : Nat} {next : NextLine}

/-- Spaces at the start of a line do not count. -/
private theorem readPlainFrom_margin (breaks : Text) (depth : Nat) (rest : Text)
    (column line : Nat) :
    readPlainFrom false least (.broken breaks) (margin depth ++ rest) column line =
      readPlainFrom false least (.broken breaks) rest (column + depth) line := by
  refine passes_margin (readPlainFrom false least (.broken breaks) · · line)
    (fun rest k _ => ?_) rest
  have htab : (' ' == '\t') = false := by decide
  rw [readPlainFrom, htab, Bool.and_false, Bool.false_and]
  rfl

/-- Behind the break at its end, a plain scalar is over where a line starts before its column. -/
theorem readPlainFrom_nextLine (hleast : next.column < least) (line : Nat) :
    readPlainFrom false least (.broken ['\n']) next.text 0 line = some ([], next.cursor line) := by
  rw [NextLine.text, readPlainFrom_margin, Nat.zero_add]
  rcases next.rest_cases with rfl | ⟨c, rest, hrest, hc⟩
  · rfl
  · simp only [opensLine, stands, Bool.and_eq_true, Bool.not_eq_true', Bool.or_eq_false_iff] at hc
    rw [NextLine.cursor, hrest, readPlainFrom]
    simp [hc, hleast, Gap.isNone, Gap.none, Gap.isBroken]

/-- A character of a word is read, if no comment and no value starts with it. -/
private theorem readPlainFrom_word {gap : Gap} {c : Char} {rest : Text} {column : Nat}
    (hbreak : isBreak c = false) (hgap : isGap c = false) (hcolumn : least ≤ column)
    (hpositive : 0 < column) (hcomment : gap.isNone = true ∨ c ≠ '#')
    (hcolon : c = ':' → endsWord rest = false) (line : Nat) :
    readPlainFrom false least gap (c :: rest) column line =
      after (gap.text ++ [c]) (readPlainFrom false least .none rest (column + 1) line) := by
  have hinside : ¬column < least := by omega
  have hvalue : (c == ':' && endsWord rest) = false := by
    by_cases hc : c = ':'
    · rw [hcolon hc, Bool.and_false]
    · rw [beq_eq_false_iff_ne.mpr hc, Bool.false_and]
  have hends : (!gap.isNone && (c == '#')) = false := by
    rcases hcomment with hnone | hne
    · rw [hnone, Bool.not_true, Bool.false_and]
    · rw [beq_eq_false_iff_ne.mpr hne, Bool.and_false]
  have hfirst : (column == 0) = false := beq_eq_false_iff_ne.mpr (by omega)
  rw [readPlainFrom, hbreak, hgap]
  simp [hinside, hvalue, hends, hfirst]

/-- What is left of a plain text behind a character of it, and the blanks that were read last. -/
structure PlainTail (before : Char) (blanks t : Text) : Prop where
  /-- Every character is printable. -/
  printable : ∀ c ∈ t, isPrintable c = true
  /-- The text is one line. -/
  unbroken : ∀ c ∈ t, isBreak c = false
  /-- Nothing in it is structure. -/
  inside : holdsStructure (before :: t) = false
  /-- It does not end with a space. -/
  last : isSpace ((before :: t).getLast (List.cons_ne_nil _ _)) = false
  /-- Blanks were read only if the character in front is one. -/
  blanks : blanks ≠ [] → isSpace before = true

namespace PlainTail

variable {before c : Char} {blanks t : Text}

/-- At the end of the text no blanks are left. -/
theorem blanks_eq_nil (h : PlainTail before blanks []) : blanks = [] := by
  by_cases hsome : blanks = []
  · exact hsome
  · have hlast := h.last
    rw [List.getLast_singleton, h.blanks hsome] at hlast
    cases hlast

/-- Behind the next character, the blanks are those that end with it. -/
theorem tail (h : PlainTail before blanks (c :: t)) {blanks' : Text}
    (hblanks : blanks' ≠ [] → isSpace c = true) : PlainTail c blanks' t := by
  have hinside := h.inside
  rw [holdsStructure, Bool.or_eq_false_iff] at hinside
  exact ⟨(List.forall_mem_cons.mp h.printable).2, (List.forall_mem_cons.mp h.unbroken).2, hinside.2,
    List.getLast_cons (List.cons_ne_nil c t) ▸ h.last, hblanks⟩

/-- No comment starts with the next character. -/
theorem not_comment (h : PlainTail before blanks (c :: t)) : blanks = [] ∨ c ≠ '#' := by
  by_cases hsome : blanks = []
  · exact .inl hsome
  · obtain rfl : before = ' ' := beq_iff_eq.mp (h.blanks hsome)
    refine .inr ?_
    rintro rfl
    have hinside := h.inside
    rw [holdsStructure, Bool.or_eq_false_iff, Bool.or_eq_false_iff] at hinside
    exact absurd hinside.1.2 (by decide)

/-- No value starts behind the next character. -/
theorem not_endsWord (h : PlainTail before blanks (':' :: t)) : endsWord t = false := by
  have hinside := h.inside
  rw [holdsStructure, Bool.or_eq_false_iff, Bool.or_eq_false_iff] at hinside
  simpa using hinside.1.1

end PlainTail

/-- A plain scalar is read from inside. -/
theorem readPlainFrom_append (hleast : next.column < least) {before : Char} {blanks t : Text}
    (h : PlainTail before blanks t) {column : Nat} (hcolumn : least ≤ column) (line : Nat) :
    readPlainFrom false least (.inLine blanks) (t ++ '\n' :: next.text) column line =
      some (blanks ++ t, next.cursor (line + 1)) := by
  induction t generalizing before blanks column with
  | nil =>
    rw [h.blanks_eq_nil, List.nil_append, readPlainFrom, if_pos (by decide)]
    exact readPlainFrom_nextLine hleast (line + 1)
  | cons c t ih =>
    have hbreak := h.unbroken c List.mem_cons_self
    have hgap := isGap_of_isPrintable (h.printable c List.mem_cons_self)
    have hrest (blanks : Text) (hblanks : blanks ≠ [] → isSpace c = true) :=
      ih (h.tail hblanks) (Nat.le_succ_of_le hcolumn)
    rw [List.cons_append]
    cases hspace : isSpace c with
    | true =>
      have hpush : (Gap.inLine blanks).push c = .inLine (blanks ++ [c]) := by
        rw [Gap.push, hbreak]
        rfl
      rw [readPlainFrom, hbreak, hgap, hspace]
      simp [Gap.isBroken, hpush, hrest _ fun _ => hspace]
    | false =>
      have hcolon : c = ':' → endsWord (t ++ '\n' :: next.text) = false := by
        rintro rfl
        rw [endsWord_append t (by rfl), h.not_endsWord]
      have hcomment : (Gap.inLine blanks).isNone = true ∨ c ≠ '#' :=
        h.not_comment.imp_left fun hnone => by rw [hnone]; rfl
      rw [readPlainFrom_word hbreak (hgap.trans hspace) hcolumn (by omega) hcomment hcolon,
        Gap.none, hrest [] (by simp)]
      simp [after, Gap.text]

/-- What a text that can be written plainly has to be. -/
structure Plain (t : Text) : Prop where
  /-- Every character is printable. -/
  printable : ∀ c ∈ t, isPrintable c = true
  /-- The text is one line. -/
  unbroken : ∀ c ∈ t, isBreak c = false
  /-- The text does not start with a space. -/
  first : firstIs isSpace t = false
  /-- The text does not end with a space. -/
  last : lastIs isSpace t = false
  /-- The text does not start like structure. -/
  start : startsLikeStructure t = false
  /-- Nothing behind the start is structure. -/
  inside : holdsStructure t = false

/-- The test for plain texts. -/
theorem plain_of_allowsPlain {t : Text} (h : allowsPlain t = true) : Plain t := by
  simp only [allowsPlain, Bool.and_eq_true, Bool.not_eq_true', List.any_eq_false,
    Bool.not_eq_true] at h
  obtain ⟨⟨⟨⟨⟨hescapes, hbreaks⟩, hfirst⟩, hlast⟩, hstart⟩, hinside⟩ := h
  exact ⟨(isPrintable_of_not_needsEscapes hescapes).1, hbreaks, hfirst, hlast, hstart, hinside⟩

variable {t : Text}

/-- A plain text starts a plain scalar. -/
theorem Plain.startsPlain (h : Plain t) (hne : t ≠ []) (rest : Text) :
    startsPlain false (t ++ '\n' :: rest) = true := by
  obtain ⟨c, t, rfl⟩ := List.exists_cons_of_ne_nil hne
  have hgap : isGap c = false := by
    rw [isGap_of_isPrintable (h.printable c List.mem_cons_self)]
    exact h.first
  have hbreak := h.unbroken c List.mem_cons_self
  have hstart := h.start
  simp only [startsLikeStructure, Bool.or_eq_false_iff] at hstart
  obtain ⟨⟨hmark, hword⟩, -⟩ := hstart
  rw [List.cons_append, Yaml.startsPlain, endsWord_append t (by rfl)]
  cases hends : endsWord t with
  | true =>
    simp only [hends, Bool.and_true, Bool.or_eq_false_iff] at hword
    simp [hword, hgap, hbreak, hmark]
  | false => simp [hgap, hbreak, hmark]

/-- A plain text is read as a plain scalar up to the next line. -/
theorem Plain.readPlainFrom (h : Plain t) (hne : t ≠ []) (hleast : next.column < least)
    {column : Nat} (hcolumn : least ≤ column) (line : Nat) :
    readPlainFrom false least .none (t ++ '\n' :: next.text) column line =
      some (t, next.cursor (line + 1)) := by
  obtain ⟨c, t, rfl⟩ := List.exists_cons_of_ne_nil hne
  have hc := h.printable c List.mem_cons_self
  have hgap : isGap c = false := (isGap_of_isPrintable hc).trans h.first
  have hcolon : c = ':' → endsWord (t ++ '\n' :: next.text) = false := by
    rintro rfl
    rw [endsWord_append t (by rfl)]
    have hstart := h.start
    simp only [startsLikeStructure, Bool.or_eq_false_iff] at hstart
    simpa using hstart.1.2
  have hlast : isSpace ((c :: t).getLast (List.cons_ne_nil _ _)) = false := by
    have := h.last
    rw [lastIs, List.getLast?_eq_some_getLast (List.cons_ne_nil _ _)] at this
    exact this
  have hrest : Yaml.readPlainFrom false least (.inLine []) (t ++ '\n' :: next.text) (column + 1)
      line = some ([] ++ t, next.cursor (line + 1)) :=
    readPlainFrom_append hleast ⟨(List.forall_mem_cons.mp h.printable).2,
      (List.forall_mem_cons.mp h.unbroken).2, h.inside, hlast, by simp⟩ (by omega) line
  rw [List.cons_append, readPlainFrom_word (h.unbroken c List.mem_cons_self) hgap hcolumn
    (by omega) (.inl rfl) hcolon, Gap.none, hrest]
  simp [after, Gap.text]

end plain

/-! ## Single quotation marks -/

section single

/-- Blanks that are read as they stand: spaces of a line, or breaks that start with another one than
a line feed. The flag says whether a line was broken. -/
inductive Gap.Verbatim : Bool → Text → Gap → Prop
  /-- Spaces of a line stand for themselves. -/
  | inLine (blanks : Text) : Verbatim false blanks (.inLine blanks)
  /-- Breaks stand for themselves unless the first of them is a line feed. -/
  | broken {c : Char} (breaks : Text) (h : c ≠ '\n') : Verbatim true (c :: breaks)
      (.broken (c :: breaks))

variable {startsLine : Bool} {blanks : Text} {gap : Gap} {c : Char} {rest : Text}

/-- Blanks that are read as they stand amount to what they are. -/
theorem Gap.Verbatim.text_eq (h : Gap.Verbatim startsLine blanks gap) : gap.text = blanks := by
  cases h with
  | inLine => rfl
  | broken breaks hc =>
    exact Gap.text.eq_4 _ (fun h => hc (List.cons.inj h).1) fun _ h => hc (List.cons.inj h).1

/-- A space at the end of a line, or where no line was broken, is one more blank. -/
theorem Gap.Verbatim.push_space (h : Gap.Verbatim false blanks gap) :
    Gap.Verbatim false (blanks ++ [' ']) (gap.push ' ') := by
  cases h
  exact .inLine _

/-- A separator is one more break, where it does not follow spaces. -/
theorem Gap.Verbatim.push_break (h : Gap.Verbatim startsLine blanks gap) (hbreak : isBreak c = true)
    (hc : c ≠ '\n') (hspaces : startsLine = false → blanks = []) :
    Gap.Verbatim true (blanks ++ [c]) (gap.push c) := by
  cases h with
  | inLine =>
    obtain rfl := hspaces rfl
    rw [Gap.push, if_pos hbreak]
    exact .broken [] hc
  | broken breaks hfirst =>
    rw [Gap.push, if_pos hbreak]
    exact .broken _ hfirst

/-- What is left of a text between single quotation marks behind a character of it, and the blanks
that were read last. -/
structure SingleTail (before : Char) (startsLine : Bool) (blanks : Text) (gap : Gap) (t : Text) :
    Prop where
  /-- Every character is printable. -/
  printable : ∀ c ∈ t, isPrintable c = true
  /-- There is no line feed. -/
  no_feed : ∀ c ∈ t, c ≠ '\n'
  /-- No line ends with a space. -/
  line_ends : hasPair isSpace isBreak (before :: t) = false
  /-- No line starts with a space. -/
  line_starts : hasPair isBreak isSpace (before :: t) = false
  /-- The blanks are read as they stand. -/
  verbatim : Gap.Verbatim startsLine blanks gap
  /-- A line starts behind a break. -/
  break_before : startsLine = true → isBreak before = true
  /-- Inside a line, blanks were read only if the character in front is one. -/
  space_before : startsLine = false → blanks ≠ [] → isSpace before = true

namespace SingleTail

variable {before : Char} {t : Text}

/-- Behind the next character, the blanks are those that end with it. -/
private theorem tail (h : SingleTail before startsLine blanks gap (c :: t)) {startsLine' : Bool}
    {blanks' : Text} {gap' : Gap} (hverbatim : Gap.Verbatim startsLine' blanks' gap')
    (hbreak : startsLine' = true → isBreak c = true)
    (hspace : startsLine' = false → blanks' ≠ [] → isSpace c = true) :
    SingleTail c startsLine' blanks' gap' t :=
  ⟨(List.forall_mem_cons.mp h.printable).2, (List.forall_mem_cons.mp h.no_feed).2,
    (hasPair_cons_cons_eq_false.mp h.line_ends).2, (hasPair_cons_cons_eq_false.mp h.line_starts).2,
    hverbatim, hbreak, hspace⟩

/-- A space does not start a line, and it is one more blank. -/
theorem space (h : SingleTail before startsLine blanks gap (' ' :: t)) :
    startsLine = false ∧ SingleTail ' ' false (blanks ++ [' ']) (gap.push ' ') t := by
  obtain rfl : startsLine = false := by
    cases startsLine with
    | false => rfl
    | true =>
      have hstarts := (hasPair_cons_cons_eq_false.mp h.line_starts).1 (h.break_before rfl)
      exact absurd hstarts (by decide)
  exact ⟨rfl, h.tail h.verbatim.push_space (by simp) fun _ _ => rfl⟩

/-- A separator does not follow spaces, and it is one more break. -/
theorem separator (h : SingleTail before startsLine blanks gap (c :: t))
    (hc : isBreak c = true) : SingleTail c true (blanks ++ [c]) (gap.push c) t := by
  have hnone : startsLine = false → blanks = [] := by
    intro hstarts
    by_cases hsome : blanks = []
    · exact hsome
    · have hends := (hasPair_cons_cons_eq_false.mp h.line_ends).1 (h.space_before hstarts hsome)
      rw [hc] at hends
      cases hends
  exact h.tail (h.verbatim.push_break hc (h.no_feed c List.mem_cons_self) hnone) (fun _ => hc)
    (by simp)

/-- Behind a character of a word there are no blanks. -/
theorem word (h : SingleTail before startsLine blanks gap (c :: t)) :
    SingleTail c false [] .none t :=
  h.tail (.inLine []) (by simp) (by simp)

end SingleTail

/-- A space is one more blank. -/
private theorem readSingleQuoted_space (gap : Gap) (rest : Text) (column line : Nat) :
    readSingleQuoted gap (' ' :: rest) column line =
      readSingleQuoted (gap.push ' ') rest (column + 1) line := by
  rw [readSingleQuoted.eq_def]
  rfl

/-- A break is one more break, and a line starts behind it. -/
private theorem readSingleQuoted_break (hbreak : isBreak c = true) (gap : Gap) (rest : Text)
    (column line : Nat) : readSingleQuoted gap (c :: rest) column line =
      readSingleQuoted (gap.push c) rest 0 (line + 1) := by
  rw [readSingleQuoted.eq_def]
  exact if_pos hbreak

/-- A character of a word is read, a quotation mark from two of them. -/
private theorem readSingleQuoted_word (hbreak : isBreak c = false) (hgap : isGap c = false)
    {column : Nat} (hcolumn : 0 < column) (gap : Gap) (rest : Text) (line : Nat) :
    ∃ column', 0 < column' ∧
      readSingleQuoted gap ((if c = '\'' then ['\'', '\''] else [c]) ++ rest) column line =
        after (gap.text ++ [c]) (readSingleQuoted .none rest column' line) := by
  have hfirst : (column == 0) = false := beq_eq_false_iff_ne.mpr (by omega)
  by_cases hc : c = '\''
  · subst hc
    refine ⟨column + 2, by omega, ?_⟩
    rw [if_pos rfl, readSingleQuoted.eq_def]
    simp [hbreak, hgap, hfirst]
  · refine ⟨column + 1, by omega, ?_⟩
    rw [if_neg hc, readSingleQuoted.eq_def]
    simp [hbreak, hgap, hfirst, hc]

/-- A quotation mark ends the scalar where no other one follows. -/
private theorem readSingleQuoted_end (hrest : rest.head? ≠ some '\'') {column : Nat}
    (hcolumn : 0 < column) (gap : Gap) (line : Nat) :
    readSingleQuoted gap ('\'' :: rest) column line =
      some (gap.text, ⟨rest, column + 1, line, false⟩) := by
  have hfirst : (column == 0) = false := beq_eq_false_iff_ne.mpr (by omega)
  have hquote : isBreak '\'' = false ∧ isGap '\'' = false := by decide
  rw [readSingleQuoted.eq_def]
  simp only [hquote, hfirst, Bool.false_and, Bool.false_eq_true, if_false, beq_self_eq_true,
    if_true]
  split
  · exact absurd rfl hrest
  · rfl

/-- A line that has to start first starts with its margin, whose spaces do not count. -/
private theorem readSingleQuoted_start (hgap : Gap.Verbatim startsLine blanks gap) {depth : Nat}
    (hdepth : 0 < depth) {column : Nat} (hcolumn : startsLine = false → 0 < column) (rest : Text)
    (line : Nat) : ∃ column', 0 < column' ∧
      readSingleQuoted gap ((if startsLine then margin depth else []) ++ rest) column line =
        readSingleQuoted gap rest column' line := by
  cases hgap with
  | inLine => exact ⟨column, hcolumn rfl, rfl⟩
  | @broken c breaks _ =>
    refine ⟨column + depth, by omega, ?_⟩
    exact passes_margin (readSingleQuoted (.broken (c :: breaks)) · · line)
      (fun rest k _ => readSingleQuoted_space _ rest k line) rest

/-- The inside of single quotation marks is read as the text that it was written for. -/
theorem readSingleQuoted_append (hrest : rest.head? ≠ some '\'') {depth : Nat} (hdepth : 0 < depth)
    {before : Char} {t : Text} (h : SingleTail before startsLine blanks gap t) (column line : Nat)
    (hcolumn : startsLine = false → 0 < column) :
    ∃ column' line', readSingleQuoted gap (singleQuotedFrom depth startsLine t ++ '\'' :: rest)
      column line = some (blanks ++ t, ⟨rest, column', line', false⟩) := by
  induction t generalizing before blanks gap startsLine column line with
  | nil =>
    obtain ⟨column', hcolumn', hstart⟩ :=
      readSingleQuoted_start h.verbatim hdepth hcolumn ('\'' :: rest) line
    refine ⟨column' + 1, line, ?_⟩
    rw [singleQuotedFrom, hstart, readSingleQuoted_end hrest hcolumn', h.verbatim.text_eq,
      List.append_nil]
  | cons c t ih =>
    rw [singleQuotedFrom]
    split
    · next hspace =>
      obtain rfl : c = ' ' := beq_iff_eq.mp hspace
      obtain ⟨rfl, htail⟩ := h.space
      obtain ⟨column', line', hread⟩ := ih htail (column + 1) line (by omega)
      refine ⟨column', line', ?_⟩
      rw [List.cons_append, readSingleQuoted_space, hread, List.append_assoc,
        List.singleton_append]
    split
    · next hbreak =>
      obtain ⟨column', line', hread⟩ := ih (h.separator hbreak) 0 (line + 1) (by simp)
      refine ⟨column', line', ?_⟩
      rw [List.cons_append, readSingleQuoted_break hbreak, hread, List.append_assoc,
        List.singleton_append]
    · next hspace hbreak =>
      have hgap : isGap c = false := by
        rw [isGap_of_isPrintable (h.printable c List.mem_cons_self)]
        exact Bool.eq_false_iff.mpr hspace
      obtain ⟨column₁, hcolumn₁, hstart⟩ := readSingleQuoted_start h.verbatim hdepth hcolumn
        ((if c = '\'' then ['\'', '\''] else [c]) ++
          (singleQuotedFrom depth false t ++ '\'' :: rest)) line
      obtain ⟨column₂, hcolumn₂, hword⟩ := readSingleQuoted_word (Bool.eq_false_iff.mpr hbreak)
        hgap hcolumn₁ gap (singleQuotedFrom depth false t ++ '\'' :: rest) line
      obtain ⟨column', line', hread⟩ := ih h.word column₂ line (fun _ => hcolumn₂)
      refine ⟨column', line', ?_⟩
      rw [List.append_assoc, List.append_assoc, hstart, hword, hread, h.verbatim.text_eq]
      simp [after]

/-- A text that can be written between single quotation marks is read back from there, if it has no
line feed. -/
theorem readSingleQuoted_of_allows {t : Text} (h : allowsSingleQuotes t = true)
    (hfeed : t.contains '\n' = false) (hrest : rest.head? ≠ some '\'') {depth column : Nat}
    (hdepth : 0 < depth) (hcolumn : 0 < column) (line : Nat) :
    ∃ column' line', readSingleQuoted .none (singleQuotedFrom depth false t ++ '\'' :: rest) column
      line = some (t, ⟨rest, column', line', false⟩) := by
  simp only [allowsSingleQuotes, Bool.and_eq_true, Bool.not_eq_true'] at h
  obtain ⟨hprintable, hspaces⟩ := isPrintable_of_not_needsEscapes h.1
  have hfeed' : ∀ c ∈ t, c ≠ '\n' := by
    rintro c hc rfl
    rw [List.contains_iff_mem.mpr hc] at hfeed
    cases hfeed
  -- The mark in front is neither a space nor a break.
  have hpair {first second : Char → Bool} (hmark : first '\'' = false)
      (h : hasPair first second t = false) : hasPair first second ('\'' :: t) = false := by
    cases t with
    | nil => rfl
    | cons c t => exact hasPair_cons_cons_eq_false.mpr ⟨by simp [hmark], h⟩
  have hinside : SingleTail '\'' false [] .none t :=
    ⟨hprintable, hfeed', hpair (by decide) hspaces, hpair (by decide) h.2, .inLine [], by simp,
      by simp⟩
  exact readSingleQuoted_append hrest hdepth hinside column line fun _ => hcolumn

end single

/-! ## Double quotation marks -/

section double

variable {c : Char} {rest : Text}

/-- The number of a character stands for the character. -/
private theorem charOf?_toNat (c : Char) : charOf? c.toNat = some c := by
  rw [charOf?, if_pos (show c.toNat.isValidChar from c.valid), Char.ofNat_toNat]

/-- Hexadecimal digits are read as the number that they write, and that as the character of that
number. -/
private theorem readDoubleQuoted_digits {digits : Text} {value : Nat}
    (hdigits : digits ≠ []) (hvalue : numberFrom? 16 value digits = some c.toNat)
    (column line : Nat) :
    readDoubleQuoted (.digits digits.length value) (digits ++ rest) column line =
      after [c] (readDoubleQuoted (.open .none) rest (column + digits.length) line) := by
  induction digits generalizing value column with
  | nil => exact absurd rfl hdigits
  | cons d digits ih =>
    rw [numberFrom?] at hvalue
    cases hd : digit? 16 d with
    | none =>
      rw [hd] at hvalue
      cases hvalue
    | some n =>
      simp only [hd] at hvalue
      rw [List.cons_append, readDoubleQuoted, hd]
      cases digits with
      | nil =>
        have hlast : value * 16 + n = c.toNat := Option.some.inj hvalue
        simp [hlast, charOf?_toNat]
      | cons e digits =>
        have hmore := ih (List.cons_ne_nil e digits) hvalue (column + 1)
        simp only [List.length_cons] at hmore ⊢
        simp only [Nat.add_sub_cancel, hmore, if_neg (show ¬digits.length + 1 + 1 ≤ 1 by omega)]
        rw [Nat.add_assoc column 1, Nat.add_comm 1]

/-- Texts that were read one before the other were read as one text. -/
private theorem after_append (s t : Text) (result : Option (Text × Cursor)) :
    after s (after t result) = after (s ++ t) result := by
  cases result <;> simp [after]

/-- Whether a text is an escape of the character: a backslash with a letter for the character, or
with a letter for a number of digits and the digits of the character's number. -/
def isEscapeOf (c : Char) : Text → Bool
  | '\\' :: letter :: digits =>
    !isBreak letter &&
      if digits.isEmpty then escaped? letter == some c
      else escaped? letter == none && escapeLength? letter == some digits.length &&
        number? 16 digits == some c.toNat
  | _ => false

/-- The characters that are not written as they are: those that are not printable, and breaks. -/
def escapedForms : List Char :=
  (List.range 0x20 ++ (List.range 0x21).map (0x7F + ·) ++
    [0x2028, 0x2029, 0xFEFF, 0xFFFE, 0xFFFF]).map Char.ofNat

/-- A character that is not printable or breaks a line is one of these. -/
theorem mem_escapedForms (h : (isPrintable c && !isBreak c) = false) : c ∈ escapedForms := by
  refine List.mem_map.mpr ⟨c.toNat, ?_, Char.ofNat_toNat c⟩
  simp only [isPrintable, isBreak, Bool.and_eq_false_iff, Bool.or_eq_false_iff,
    Bool.not_eq_false', Bool.or_eq_true, decide_eq_false_iff_not, beq_eq_false_iff_ne,
    beq_iff_eq, bne_eq_false_iff_eq] at h
  simp only [List.mem_append, List.mem_range, List.mem_map, List.mem_cons, List.not_mem_nil,
    or_false]
  rcases h with hprintable | ((((rfl | rfl) | rfl) | rfl) | rfl)
  · by_cases hhigh : 0x7F ≤ c.toNat ∧ c.toNat < 0xA0
    · exact .inl (.inr ⟨c.toNat - 0x7F, by omega, by omega⟩)
    · omega
  all_goals decide

/-- A character is written as an escape of it in printable characters, or as itself. -/
theorem doubleQuotedChar_cases (c : Char) :
    (isEscapeOf c (doubleQuotedChar c) && (doubleQuotedChar c).all isPrintable) = true ∨
      doubleQuotedChar c = [c] ∧ isPrintable c = true ∧ isBreak c = false ∧ c ≠ '"' ∧ c ≠ '\\' := by
  by_cases hquote : c = '"'
  · subst hquote
    exact .inl (by rfl)
  by_cases hslash : c = '\\'
  · subst hslash
    exact .inl (by rfl)
  cases hraw : isPrintable c && !isBreak c with
  | true =>
    rw [Bool.and_eq_true, Bool.not_eq_true'] at hraw
    refine .inr ⟨?_, hraw.1, hraw.2, hquote, hslash⟩
    simp [doubleQuotedChar, hquote, hslash, hraw]
  | false =>
    have hall : (escapedForms.all fun c =>
        isEscapeOf c (doubleQuotedChar c) && (doubleQuotedChar c).all isPrintable) = true := by rfl
    exact .inl (List.all_eq_true.mp hall c (mem_escapedForms hraw))

/-- An escape is read as its character. -/
private theorem readDoubleQuoted_escape {escape : Text} (h : isEscapeOf c escape = true) (gap : Gap)
    (rest : Text) {column : Nat} (hcolumn : 0 < column) (line : Nat) :
    ∃ column', 0 < column' ∧ readDoubleQuoted (.open gap) (escape ++ rest) column line =
      after (gap.text ++ [c]) (readDoubleQuoted (.open .none) rest column' line) := by
  unfold isEscapeOf at h
  split at h
  · next letter digits =>
    have hfirst : (column == 0) = false := beq_eq_false_iff_ne.mpr (by omega)
    rw [Bool.and_eq_true, Bool.not_eq_true'] at h
    obtain ⟨hbreak, h⟩ := h
    have hslash : readDoubleQuoted (.open gap) ('\\' :: letter :: digits ++ rest) column line =
        after gap.text
          (readDoubleQuoted .escape (letter :: (digits ++ rest)) (column + 1) line) := by
      rw [List.cons_append, readDoubleQuoted, hfirst]
      rfl
    rw [hslash, readDoubleQuoted, hbreak]
    simp only [Bool.false_eq_true, if_false]
    split at h
    · next hnone =>
      obtain rfl := List.isEmpty_iff.mp hnone
      refine ⟨column + 2, by omega, ?_⟩
      rw [beq_iff_eq.mp h, ← after_append]
      rfl
    · next hsome =>
      simp only [Bool.and_eq_true, beq_iff_eq] at h
      obtain ⟨⟨hletter, hlength⟩, hvalue⟩ := h
      have hne : digits ≠ [] := fun hnil => hsome (List.isEmpty_iff.mpr hnil)
      refine ⟨column + 2 + digits.length, by omega, ?_⟩
      rw [number?.eq_2 _ _ (fun hnil => hne hnil)] at hvalue
      rw [hletter, hlength, ← after_append]
      exact congrArg _ (readDoubleQuoted_digits hne hvalue (column + 2) line)
  · cases h

/-- A character is read back, a space as one more blank. -/
theorem readDoubleQuoted_char (c : Char) (blanks rest : Text) {column : Nat}
    (hcolumn : 0 < column) (line : Nat) : ∃ column', 0 < column' ∧
      readDoubleQuoted (.open (.inLine blanks)) (doubleQuotedChar c ++ rest) column line =
        if isSpace c then readDoubleQuoted (.open (.inLine (blanks ++ [c]))) rest column' line
        else after (blanks ++ [c]) (readDoubleQuoted (.open .none) rest column' line) := by
  have hfirst : (column == 0) = false := beq_eq_false_iff_ne.mpr (by omega)
  rcases doubleQuotedChar_cases c with hescape | ⟨hraw, hprintable, hbreak, hquote, hslash⟩
  · have hescape := (Bool.and_eq_true_iff.mp hescape).1
    have hspace : isSpace c = false := by
      rw [Bool.eq_false_iff]
      intro hs
      obtain rfl : c = ' ' := beq_iff_eq.mp hs
      exact absurd hescape (by decide)
    obtain ⟨column', hcolumn', hread⟩ :=
      readDoubleQuoted_escape hescape (.inLine blanks) rest hcolumn line
    exact ⟨column', hcolumn', by rw [hread, hspace]; rfl⟩
  · refine ⟨column + 1, by omega, ?_⟩
    rw [hraw, List.singleton_append, readDoubleQuoted, hbreak, isGap_of_isPrintable hprintable,
      hfirst, beq_eq_false_iff_ne.mpr hquote, beq_eq_false_iff_ne.mpr hslash, Gap.push, hbreak]
    cases isSpace c <;> rfl

/-- The inside of double quotation marks is read as the text that it was written for. -/
theorem readDoubleQuoted_append (t blanks rest : Text) {column : Nat} (hcolumn : 0 < column)
    (line : Nat) : ∃ column', readDoubleQuoted (.open (.inLine blanks))
      (t.flatMap doubleQuotedChar ++ '"' :: rest) column line =
        some (blanks ++ t, ⟨rest, column', line, false⟩) := by
  induction t generalizing blanks column with
  | nil =>
    have hfirst : (column == 0) = false := beq_eq_false_iff_ne.mpr (by omega)
    refine ⟨column + 1, ?_⟩
    rw [List.flatMap_nil, List.nil_append, readDoubleQuoted, hfirst, List.append_nil]
    rfl
  | cons c t ih =>
    obtain ⟨column', hcolumn', hread⟩ := readDoubleQuoted_char c blanks
      (t.flatMap doubleQuotedChar ++ '"' :: rest) hcolumn line
    rw [List.flatMap_cons, List.append_assoc, hread]
    cases isSpace c with
    | true =>
      obtain ⟨last, hrest⟩ := ih (blanks ++ [c]) hcolumn'
      exact ⟨last, by rw [if_pos rfl, hrest, List.append_assoc, List.singleton_append]⟩
    | false =>
      obtain ⟨last, hrest⟩ := ih [] hcolumn'
      refine ⟨last, ?_⟩
      rw [if_neg (by decide), Gap.none, hrest]
      simp [after]

end double

end ExprGate.Yaml
