import ExprGate.Proofs.YamlNodes

/-!
# Reading back documents

A document whose characters are printable and whose first line is a key is read as the mapping that
starts there. Scalars are written in printable characters, whatever characters they have.
-/

namespace ExprGate.Yaml

/-! ## Printable texts -/

section printable

/-- Whether every character of a text is printable. -/
def Printable (t : Text) : Prop := ∀ c ∈ t, isPrintable c = true

variable {s t : Text}

/-- Printable texts make up a printable text. -/
theorem Printable.append (hs : Printable s) (ht : Printable t) : Printable (s ++ t) :=
  List.forall_mem_append.mpr ⟨hs, ht⟩

/-- A printable character in front of a printable text makes up another one. -/
theorem Printable.cons {c : Char} (hc : isPrintable c = true) (ht : Printable t) :
    Printable (c :: t) :=
  List.forall_mem_cons.mpr ⟨hc, ht⟩

/-- Closed texts are checked character by character. -/
theorem printable_of_all (h : t.all isPrintable = true) : Printable t := List.all_eq_true.mp h

/-- The spaces of a margin are printable. -/
theorem printable_margin (depth : Nat) : Printable (margin depth) := by
  intro c hc
  rw [List.eq_of_mem_replicate hc]
  decide

/-- Between single quotation marks, printable texts stay printable. -/
private theorem printable_singleQuotedFrom (ht : Printable t) (depth : Nat) (startsLine : Bool) :
    Printable (singleQuotedFrom depth startsLine t) := by
  have hstart (startsLine : Bool) : Printable (if startsLine then margin depth else []) := by
    cases startsLine
    · exact printable_of_all rfl
    · exact printable_margin depth
  induction t generalizing startsLine with
  | nil => exact hstart startsLine
  | cons c t ih =>
    obtain ⟨hc, ht⟩ := List.forall_mem_cons.mp ht
    have hquoted : Printable (if c = '\'' then ['\'', '\''] else [c]) := by
      split
      · exact printable_of_all rfl
      · exact .cons hc (printable_of_all rfl)
    rw [singleQuotedFrom]
    split
    · exact .cons hc (ih ht startsLine)
    split
    · exact .cons hc (ih ht true)
    · exact ((hstart startsLine).append hquoted).append (ih ht false)

/-- In a block of lines, printable texts stay printable. -/
private theorem printable_literalFrom (ht : Printable t) (depth : Nat) (startsLine : Bool) :
    Printable (literalFrom depth startsLine t) := by
  induction t generalizing startsLine with
  | nil => cases startsLine <;> exact printable_of_all rfl
  | cons c t ih =>
    obtain ⟨hc, ht⟩ := List.forall_mem_cons.mp ht
    rw [literalFrom]
    split
    · exact .cons hc (ih ht true)
    · refine .append ?_ (.cons hc (ih ht false))
      cases startsLine
      · exact printable_of_all rfl
      · exact printable_margin depth

/-- Between double quotation marks, every text is printable. -/
private theorem printable_doubleQuotedChar (c : Char) : Printable (doubleQuotedChar c) := by
  rcases doubleQuotedChar_cases c with hescape | ⟨hraw, hprintable, -⟩
  · exact printable_of_all (Bool.and_eq_true_iff.mp hescape).2
  · rw [hraw]
    exact .cons hprintable (printable_of_all rfl)

/-- The marks of a block are printable. -/
private theorem printable_marks (t : Text) : Printable (depthMark t ++ chompingMark t) := by
  refine .append ?_ ?_
  · unfold depthMark
    split <;> exact printable_of_all rfl
  · by_cases ht : t = []
    · subst ht
      exact printable_of_all rfl
    · obtain ⟨-, -, chomping, -, -, -, hmark, -⟩ := exists_chomping ht
      rw [hmark]
      cases chomping <;> exact printable_of_all rfl

/-- Whatever characters a text has, it is written in printable ones. -/
theorem printable_scalarLine (depth : Nat) (t : Text) : Printable (scalarLine depth t) := by
  unfold scalarLine
  rcases styleOf_cases t with ⟨hstyle, -, hplain⟩ | ⟨hstyle, -, hsingle⟩ | ⟨hstyle, -, hliteral⟩ |
    hstyle
  · rw [hstyle]
    exact .append (plain_of_allowsPlain hplain).printable (printable_of_all rfl)
  · rw [hstyle]
    rw [allowsSingleQuotes, Bool.and_eq_true, Bool.not_eq_true'] at hsingle
    have hprintable := (isPrintable_of_not_needsEscapes hsingle.1).1
    exact .append (.cons (by decide) (printable_singleQuotedFrom hprintable depth false))
      (printable_of_all rfl)
  · rw [hstyle]
    rw [allowsLiteral, Bool.and_eq_true, Bool.not_eq_true'] at hliteral
    have hprintable := (isPrintable_of_not_needsEscapes hliteral.1).1
    have hmarks := printable_marks t
    exact .append (.cons (by decide) hmarks)
      (.cons (by decide) (printable_literalFrom hprintable depth true))
  · rw [hstyle]
    refine .append (.cons (by decide) fun c hc => ?_) (printable_of_all rfl)
    obtain ⟨d, -, hd⟩ := List.mem_flatMap.mp hc
    exact printable_doubleQuotedChar d c hd

end printable

/-! ## Documents -/

/-- Behind the last line nothing but the end of the text follows. -/
theorem endsStream_of_followsAt {cur : Cursor} (h : NextLine.done.FollowsAt cur) (fuel : Nat) :
    endsStream (fuel + 1) cur = true := by
  obtain ⟨line, hskip⟩ := h
  rw [endsStream, hskip]
  rfl

/-- Without a percent sign there are no directives. -/
private theorem readDirectives_eq {cur : Cursor} (hskip : cur.skip false = cur)
    (hfirst : ∀ rest, cur.rest ≠ '%' :: rest) (fuel : Nat) (d : Directives) :
    readDirectives fuel d cur = some (d, cur) := by
  unfold readDirectives
  simp only [hskip]

section mapping

variable {name rest : Text}

/-- A document starts where a key does: there are no directives and no line in front of it. -/
theorem readStart_key (hname : isKey name = true) (rest : Text) :
    readStart (.start (name ++ rest)) = some (Handles.standard, .start (name ++ rest)) := by
  obtain ⟨-, -, c, letters, hcons, hc⟩ := exists_key_eq_cons hname
  have hskip : (Cursor.start (name ++ rest)).skip false = .start (name ++ rest) := by
    rw [Cursor.start, hcons]
    exact skip_of_stands (stands_of_isKeyLetter hc) (letters ++ rest) 0 0 true
  have hfirst : ∀ more, (Cursor.start (name ++ rest)).rest ≠ '%' :: more := by
    intro more hmore
    rw [Cursor.start, hcons] at hmore
    rw [(List.cons.inj hmore).1] at hc
    exact absurd hc (by decide)
  have hmarker : isDocumentMarker (Cursor.start (name ++ rest)).rest = false := by
    have hend := (not_atEnd_key hname rest 0 0 true).1
    simp only [Cursor.atEnd, Bool.or_eq_false_iff, beq_self_eq_true, Bool.true_and] at hend
    exact hend.2
  rw [readStart, readDirectives_eq hskip hfirst]
  simp only [Option.bind_eq_bind, Option.bind_some, hmarker, Bool.and_false, Bool.false_eq_true,
    if_false]
  rfl

/-- A document with a mapping is read, if the members of the mapping are read. -/
theorem parse?_mapping (hname : isKey name = true) {members : List (Node × Node)}
    (hrest : endsWord rest = true) (hprintable : Printable (name ++ ':' :: rest))
    (hmembers : ReadsMembers Handles.standard (8 * (name ++ ':' :: rest).length + 6) 0
      (.key 0 name hname rest) members .done) :
    parse? (name ++ ':' :: rest) = (Node.mapping members).resolve? := by
  have hreadable : (name ++ ':' :: rest).all isReadable = true :=
    List.all_eq_true.mpr fun c hc => isReadable_of_isPrintable (hprintable c hc)
  have hmark : (name ++ ':' :: rest).head? ≠ some '\ufeff' := by
    intro hhead
    exact absurd (hprintable _ (List.mem_of_head? hhead)) (by decide)
  obtain ⟨after, hread, hafter⟩ : ∃ after, readNode Handles.standard
      (8 * (name ++ ':' :: rest).length + 8) 0 false .none (.start (name ++ ':' :: rest)) =
        some (.mapping members, after) ∧ NextLine.done.FollowsAt after :=
    exists_readNode_mapping Handles.standard hname hrest (Nat.zero_le 0) hmembers
      ((NextLine.key 0 name hname rest).followsAt_cursor 0)
  rw [parse?, if_neg hmark, hreadable, unifyBreaks_eq_self hprintable]
  simp only [Bool.not_true, Bool.false_eq_true, if_false, readStart_key hname,
    Option.bind_eq_bind, Option.bind_some, hread, endsStream_of_followsAt hafter, if_true]

end mapping

end ExprGate.Yaml
