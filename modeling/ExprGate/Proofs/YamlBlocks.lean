import ExprGate.Proofs.YamlLines

/-!
# Reading back blocks of lines

A block is written line by line, and the reader collects its lines with the breaks behind each of
them. All breaks but the last ones come back as they were; what becomes of the last ones is said by
the mark of the block, which is chosen by how many they are.
-/

namespace ExprGate.Yaml

/-- What a block keeps of its last line breaks. -/
def Chomping.kept (chomping : Chomping) (breaks : Text) : Text :=
  match chomping with
  | .strip => []
  | .clip => breaks.take 1
  | .keep => breaks

/-- A single line ends in what is kept of its breaks. -/
theorem joinLines_singleton (chomping : Chomping) (line breaks : Text) :
    joinLines false chomping [(line, breaks)] = line ++ chomping.kept breaks := by
  cases chomping <;> simp [joinLines, Chomping.kept]

/-- Lines that are not folded keep the breaks between them. -/
theorem joinLines_cons (chomping : Chomping) (line breaks : Text) {lines : List (Text × Text)}
    (h : lines ≠ []) : joinLines false chomping ((line, breaks) :: lines) =
      line ++ breaks ++ joinLines false chomping lines := by
  obtain ⟨⟨next, breaks'⟩, lines, rfl⟩ := List.exists_cons_of_ne_nil h
  simp [joinLines]

/-- A character in front of the first line is one in front of the text. -/
theorem joinLines_cons_head (chomping : Chomping) (c : Char) (line breaks : Text)
    (lines : List (Text × Text)) : joinLines false chomping ((c :: line, breaks) :: lines) =
      c :: joinLines false chomping ((line, breaks) :: lines) := by
  cases lines with
  | nil => simp [joinLines_singleton]
  | cons first lines => simp [joinLines_cons]

section reading

variable {depth : Nat} {next : NextLine} {c : Char}

/-- Spaces in front of the column of a block do not count. -/
private theorem readLines_margin {count column : Nat} (h : column + count ≤ depth) (rest : Text)
    (line : Nat) : readLines depth false (margin count ++ rest) column line =
      readLines depth false rest (column + count) line := by
  refine passes_margin (readLines depth false · · line) (fun rest k hk => ?_) rest
  have houtside : ¬depth ≤ k := by omega
  rw [readLines, if_neg (by decide)]
  simp only [houtside, Bool.false_or, decide_false, Bool.false_eq_true, if_false,
    beq_self_eq_true, if_true]

/-- A block is over where a line starts before its column. -/
theorem readLines_nextLine (hdepth : next.column < depth) (line : Nat) :
    readLines depth false next.text 0 line = some ⟨[], [], [], next.cursor line⟩ := by
  rw [NextLine.text, readLines_margin (by omega), Nat.zero_add]
  rcases next.rest_cases with rfl | ⟨c, rest, hrest, hc⟩
  · rfl
  · have houtside : ¬depth ≤ next.column := by omega
    simp only [opensLine, stands, isGap, Bool.and_eq_true, Bool.not_eq_true',
      Bool.or_eq_false_iff] at hc
    rw [NextLine.cursor, hrest, readLines]
    simp [hc, houtside]

/-- A break is read with the line that it ends, or with the breaks before the first line. -/
private theorem readLines_break (hc : isBreak c = true) (inLine : Bool) (rest : Text)
    (column line : Nat) : readLines depth inLine (c :: rest) column line =
      (readLines depth false rest 0 (line + 1)).map fun b =>
        { b with head := [], breaks := c :: b.breaks } := by
  rw [readLines, if_pos hc]

/-- A character of a line is read with the rest of the line. -/
private theorem readLines_inside (hc : isBreak c = false) (rest : Text) (column line : Nat) :
    readLines depth true (c :: rest) column line =
      (readLines depth true rest (column + 1) line).map fun b =>
        { b with head := c :: b.head } := by
  rw [readLines, hc]
  rfl

/-- The first character of a line stands behind the margin. -/
private theorem readLines_first (hc : isBreak c = false) (rest : Text) (line : Nat) :
    readLines depth false (margin depth ++ c :: rest) 0 line =
      (readLines depth true rest (depth + 1) line).map fun b =>
        { b with head := [], breaks := [], lines := (c :: b.head, b.breaks) :: b.lines } := by
  rw [readLines_margin (by omega), Nat.zero_add, readLines, hc]
  simp

/-- Breaks without a line behind them are read as they are. -/
private theorem readLines_breaks (hdepth : next.column < depth) {breaks : Text}
    (hbreaks : ∀ c ∈ breaks, isBreak c = true) (line : Nat) : ∃ line',
      readLines depth false (breaks ++ next.text) 0 line =
        some ⟨[], breaks, [], next.cursor line'⟩ := by
  induction breaks generalizing line with
  | nil => exact ⟨line, readLines_nextLine hdepth line⟩
  | cons c breaks ih =>
    obtain ⟨hc, hbreaks⟩ := List.forall_mem_cons.mp hbreaks
    obtain ⟨line', hread⟩ := ih hbreaks (line + 1)
    refine ⟨line', ?_⟩
    rw [List.cons_append, readLines_break hc, hread]
    rfl

end reading

/-! ## Reading a text back -/

/-- The breaks at the end of a block: those of the text, or one that the writer adds. -/
def lastBreaks (ends : Text) : Text := if ends = [] then ['\n'] else ends

/-- Breaks at the end of a text are written as they are, and one is added where there are none. -/
theorem literalFrom_breaks (depth : Nat) (startsLine : Bool) {ends : Text}
    (hends : ∀ c ∈ ends, isBreak c = true) : literalFrom depth startsLine ends =
      if startsLine then ends else lastBreaks ends := by
  induction ends generalizing startsLine with
  | nil => cases startsLine <;> rfl
  | cons c ends ih =>
    obtain ⟨hc, hends⟩ := List.forall_mem_cons.mp hends
    rw [literalFrom, if_pos hc, ih true hends]
    cases startsLine <;> rfl

/-- The text of a block from inside its first line on. -/
structure Block.Continues (next : NextLine) (chomping : Chomping) (t : Text) (b : Block) :
    Prop where
  /-- The block is over at the next line. -/
  next_eq : ∃ line, b.next = next.cursor line
  /-- The rest of the line and the further lines make up the text. -/
  text_eq : joinLines false chomping ((b.head, b.breaks) :: b.lines) = t

/-- The text of a block from the start of a line on. -/
structure Block.Begins (next : NextLine) (chomping : Chomping) (t : Text) (b : Block) : Prop where
  /-- The block is over at the next line. -/
  next_eq : ∃ line, b.next = next.cursor line
  /-- There are lines that are not empty. -/
  lines_ne_nil : b.lines ≠ []
  /-- The breaks before the first line and the lines make up the text. -/
  text_eq : b.breaks ++ joinLines false chomping b.lines = t

/-- The last character of a text does not break a line, if there is one. -/
def EndsInWord (t : Text) : Prop := ∀ c ∈ t.getLast?, isBreak c = false

/-- A text that ends in a word does so behind its first character, if it goes on there. -/
theorem EndsInWord.tail {c : Char} {t : Text} (h : EndsInWord (c :: t)) : EndsInWord t := by
  intro d hd
  refine h d ?_
  rw [List.getLast?_cons, Option.mem_def.mp hd]
  rfl

section literal

variable {depth : Nat} {next : NextLine} {ends : Text}

/-- The last line ends with the breaks of the text, or with the one that is added. -/
private theorem readLines_lastBreaks (hdepth : next.column < depth)
    (hends : ∀ c ∈ ends, isBreak c = true) (column line : Nat) : ∃ line',
      readLines depth true (literalFrom depth false ends ++ next.text) column line =
        some ⟨[], lastBreaks ends, [], next.cursor line'⟩ := by
  have hlast : ∀ c ∈ lastBreaks ends, isBreak c = true := by
    unfold lastBreaks
    split
    · intro c hc
      obtain rfl := List.mem_singleton.mp hc
      decide
    · exact hends
  obtain ⟨c, breaks, hbreaks⟩ := List.exists_cons_of_ne_nil
    (show lastBreaks ends ≠ [] by unfold lastBreaks; split <;> simp [*])
  rw [literalFrom_breaks depth false hends, if_neg (by decide), hbreaks]
  rw [hbreaks] at hlast
  obtain ⟨hc, hlast⟩ := List.forall_mem_cons.mp hlast
  obtain ⟨line', hread⟩ := readLines_breaks hdepth hlast (line + 1)
  refine ⟨line', ?_⟩
  rw [List.cons_append, readLines_break hc, hread]
  rfl

/-- What is written for a text is read as the text with what is kept of its last breaks. The two
parts say so for the inside and for the start of a line. -/
theorem readLines_literalFrom (hdepth : next.column < depth) (hends : ∀ c ∈ ends, isBreak c = true)
    (chomping : Chomping) {t : Text} (ht : EndsInWord t) (column line : Nat) :
    (∃ b, readLines depth true (literalFrom depth false (t ++ ends) ++ next.text) column line =
        some b ∧ b.Continues next chomping (t ++ chomping.kept (lastBreaks ends))) ∧
    (t ≠ [] → ∃ b, readLines depth false (literalFrom depth true (t ++ ends) ++ next.text) 0 line =
        some b ∧ b.Begins next chomping (t ++ chomping.kept (lastBreaks ends))) := by
  induction t generalizing column line with
  | nil =>
    obtain ⟨line', hread⟩ := readLines_lastBreaks hdepth hends column line
    exact ⟨⟨_, hread, ⟨line', rfl⟩, joinLines_singleton chomping [] _⟩, fun h => absurd rfl h⟩
  | cons c t ih =>
    cases hc : isBreak c with
    | true =>
      have hne : t ≠ [] := by
        rintro rfl
        rw [ht c rfl] at hc
        cases hc
      obtain ⟨b, hread, hb⟩ := (ih ht.tail column (line + 1)).2 hne
      have hbreak (startsLine inLine : Bool) (column : Nat) :
          readLines depth inLine (literalFrom depth startsLine (c :: t ++ ends) ++ next.text) column
            line = some { b with head := [], breaks := c :: b.breaks } := by
        rw [List.cons_append, literalFrom, if_pos hc, List.cons_append, readLines_break hc, hread]
        rfl
      refine ⟨⟨_, hbreak false true column, hb.next_eq, ?_⟩,
        fun _ => ⟨_, hbreak true false 0, hb.next_eq, hb.lines_ne_nil, ?_⟩⟩
      · rw [joinLines_cons _ _ _ hb.lines_ne_nil, List.nil_append, List.cons_append, hb.text_eq]
        rfl
      · rw [List.cons_append, hb.text_eq]
        rfl
    | false =>
      obtain ⟨b, hread, hb⟩ := (ih ht.tail (column + 1) line).1
      obtain ⟨b', hread', hb'⟩ := (ih ht.tail (depth + 1) line).1
      have hinside : literalFrom depth false (c :: t ++ ends) =
          c :: literalFrom depth false (t ++ ends) := by
        rw [List.cons_append, literalFrom, hc]
        rfl
      have hfirst : literalFrom depth true (c :: t ++ ends) =
          margin depth ++ c :: literalFrom depth false (t ++ ends) := by
        rw [List.cons_append, literalFrom, hc]
        rfl
      rw [hinside, hfirst, List.append_assoc, List.cons_append, List.cons_append,
        readLines_inside hc, readLines_first hc, hread, hread']
      refine ⟨⟨_, rfl, hb.next_eq, ?_⟩, fun _ => ⟨_, rfl, hb'.next_eq, List.cons_ne_nil _ _, ?_⟩⟩
      · rw [joinLines_cons_head, hb.text_eq]
      · rw [List.nil_append, joinLines_cons_head, hb'.text_eq]

end literal

/-! ## Marks -/

/-- How a block is marked for what becomes of its last breaks. -/
def Chomping.mark : Chomping → Text
  | .strip => ['-']
  | .clip => []
  | .keep => ['+']

/-- A text ends in a word when its last character does not break a line. -/
private theorem endsInWord_reverse {c : Char} (hc : isBreak c = false) (s : Text) :
    EndsInWord (c :: s).reverse := by
  intro d hd
  rw [List.getLast?_reverse] at hd
  obtain rfl : c = d := Option.some.inj hd
  exact hc

/-- What stands before the breaks at the end of a text ends in a word. -/
private theorem endsInWord_dropWhile (s : Text) : EndsInWord (s.dropWhile isBreak).reverse := by
  intro c hc
  rw [List.getLast?_reverse] at hc
  have hhead := List.head?_dropWhile_not isBreak s
  rw [Option.mem_def.mp hc] at hhead
  simpa using hhead

/-- The mark of a text depends on its last two characters. -/
private theorem chompingMark_reverse (c : Char) (s : Text) :
    chompingMark (c :: s).reverse = Chomping.mark
      (if isBreak c then if s.head?.all isBreak then .keep else .clip else .strip) := by
  rw [chompingMark, List.reverse_reverse]
  cases s with
  | nil => cases hc : isBreak c <;> simp [hc, Chomping.mark]
  | cons d s => cases hc : isBreak c <;> cases hd : isBreak d <;> simp [hc, hd, Chomping.mark]

/-- A text is a part that ends in a word with breaks behind it, and the mark that is chosen for it
keeps these breaks. -/
theorem exists_chomping {t : Text} (ht : t ≠ []) : ∃ body ends chomping, t = body ++ ends ∧
    EndsInWord body ∧ (∀ c ∈ ends, isBreak c = true) ∧ chompingMark t = Chomping.mark chomping ∧
      chomping.kept (lastBreaks ends) = ends ∧ (body = [] → chomping = .keep) := by
  obtain ⟨s, rfl⟩ : ∃ s : Text, t = s.reverse := ⟨t.reverse, t.reverse_reverse.symm⟩
  obtain ⟨c, s, rfl⟩ := List.exists_cons_of_ne_nil (List.reverse_ne_nil_iff.mp ht)
  rw [chompingMark_reverse]
  cases hc : isBreak c with
  | false =>
    exact ⟨(c :: s).reverse, [], .strip, (List.append_nil _).symm, endsInWord_reverse hc s,
      by simp, rfl, rfl, fun hnil => absurd hnil ht⟩
  | true =>
    cases hs : s.head?.all isBreak with
    | true =>
      refine ⟨((c :: s).dropWhile isBreak).reverse, ((c :: s).takeWhile isBreak).reverse, .keep,
        ?_, endsInWord_dropWhile (c :: s), ?_, rfl, ?_, fun _ => rfl⟩
      · rw [← List.reverse_append, List.takeWhile_append_dropWhile]
      · exact fun e he => List.all_eq_true.mp List.all_takeWhile e (List.mem_reverse.mp he)
      · rw [List.takeWhile_cons_of_pos hc]
        simp [Chomping.kept, lastBreaks]
    | false =>
      obtain ⟨d, s, rfl, hd⟩ : ∃ d s', s = d :: s' ∧ isBreak d = false := by
        cases s with
        | nil => cases hs
        | cons d s => exact ⟨d, s, rfl, hs⟩
      exact ⟨(d :: s).reverse, [c], .clip, List.reverse_cons, endsInWord_reverse hd s,
        by simpa using hc, rfl, rfl, by simp⟩

/-- The marks of a block are read as they were written. -/
theorem readBlockMarks_append (chomping : Chomping) (t rest : Text) :
    readBlockMarks (depthMark t ++ chomping.mark ++ '\n' :: rest) =
      some (chomping, if depthMark t = [] then none else some 2, '\n' :: rest) := by
  unfold depthMark
  split <;> cases chomping <;> rfl

/-- Without a mark of its depth, the first line of a block shows how deep the block is. -/
theorem firstDepth?_literalFrom {t : Text} (ht : t ≠ []) (hmark : depthMark t = [])
    (hprintable : ∀ c ∈ t, isPrintable c = true) (depth : Nat) (rest : Text) :
    firstDepth? (literalFrom depth true t ++ rest) 0 = some depth := by
  obtain ⟨c, t, rfl⟩ := List.exists_cons_of_ne_nil ht
  have hopens : isSpace c = false ∧ isBreak c = false := by
    simpa [depthMark, firstIs] using hmark
  have htab : (c == '\t') = false := by
    rw [beq_eq_false_iff_ne]
    rintro rfl
    exact absurd (hprintable '\t' List.mem_cons_self) (by decide)
  have hmargin (rest : Text) : firstDepth? (margin depth ++ rest) 0 =
      firstDepth? rest (0 + depth) :=
    passes_margin firstDepth? (fun _ _ _ => rfl) rest
  have hspace : (c == ' ') = false := hopens.1
  rw [literalFrom, hopens.2]
  simp only [Bool.false_eq_true, if_false, if_true, List.append_assoc, List.cons_append, hmargin]
  rw [firstDepth?, hopens.2, hspace, htab, Nat.zero_add]
  rfl

/-- A text that can be written as a block is read back from the marks on. -/
theorem readBlock_of_allows {t : Text} (h : allowsLiteral t = true) (ht : t ≠ []) {least : Nat}
    (hleast : 0 < least) {next : NextLine} (hnext : next.column < least) (line : Nat) :
    ∃ line', readBlock false least (depthMark t ++ chompingMark t ++
      '\n' :: (literalFrom (least + 1) true t ++ next.text)) line =
        some (t, next.cursor line') := by
  obtain ⟨body, ends, chomping, hsplit, hword, hends, hmark, hkept, hkeep⟩ := exists_chomping ht
  have hdepth : next.column < least + 1 := by omega
  have hlines : ∃ b, readLines (least + 1) false (literalFrom (least + 1) true t ++ next.text) 0
      (line + 1) = some b ∧ (∃ line', b.next = next.cursor line') ∧ b.text false chomping = t := by
    by_cases hbody : body = []
    · obtain ⟨line', hread⟩ := readLines_breaks hdepth hends (line + 1)
      rw [hsplit, hbody, List.nil_append, literalFrom_breaks _ true hends, if_pos rfl, hkeep hbody]
      exact ⟨_, hread, ⟨line', rfl⟩, rfl⟩
    · obtain ⟨b, hread, hb⟩ :=
        (readLines_literalFrom hdepth hends chomping hword 0 (line + 1)).2 hbody
      have htext : b.text false chomping = b.breaks ++ joinLines false chomping b.lines := by
        obtain ⟨first, lines, hfirst⟩ := List.exists_cons_of_ne_nil hb.lines_ne_nil
        rw [Block.text, hfirst]
      rw [hsplit]
      exact ⟨b, hread, hb.next_eq, by rw [htext, hb.text_eq, hkept]⟩
  obtain ⟨b, hread, ⟨line', hnext'⟩, htext⟩ := hlines
  have hprintable : ∀ c ∈ t, isPrintable c = true := by
    rw [allowsLiteral, Bool.and_eq_true, Bool.not_eq_true'] at h
    exact (isPrintable_of_not_needsEscapes h.1).1
  have hrest : restOfLine? ('\n' :: (literalFrom (least + 1) true t ++ next.text)) =
      some (literalFrom (least + 1) true t ++ next.text) := rfl
  refine ⟨line', ?_⟩
  rw [readBlock, hmark, readBlockMarks_append]
  simp only [Option.bind_eq_bind, Option.bind_some, hrest]
  -- The depth that the reader finds is the one that the lines were written with.
  by_cases hdepthMark : depthMark t = []
  · have hfound : max (least + 1) (max least 1) = least + 1 := by omega
    have hfirst := firstDepth?_literalFrom ht hdepthMark hprintable (least + 1) next.text
    simp only [hdepthMark, if_true, hfirst, Option.map_some, hfound, Option.bind_some, hread,
      hnext', htext]
    rfl
  · have hgiven : least - 1 + 2 = least + 1 := by omega
    simp [hdepthMark, hgiven, hread, hnext', htext]

end ExprGate.Yaml
