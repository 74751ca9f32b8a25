import ExprGate.Proofs.YamlBlocks
import ExprGate.Proofs.YamlScalars

/-!
# Reading back nodes in block style

What is written in lines is read line by line. A scalar is read up to the next line; a mapping reads
a key and its value for every line that starts at its column, and a sequence an item for every dash
there. Neither goes on where the next line starts before that column.
-/

namespace ExprGate.Yaml

/-! ## Scalars in their place -/

section scalars

/-- Whether a plain or a quoted scalar may start with a text: nothing of it is skipped, and it is
none of the marks that something else starts with outside of brackets. -/
def opensScalar : Text → Bool
  | [] => false
  | c :: rest =>
    stands c && !(c == '&' || c == '!' || c == '*' || c == '[' || c == '\x7b' || c == '|' ||
      c == '>') && !((c == '-' || c == '?') && endsWord rest)

variable (handles : Handles) {rest : Text} {column line least : Nat} {fresh : Bool}

/-- A mark stands where it is followed by a blank. -/
theorem atMark_cons (c mark : Char) :
    (⟨c :: rest, column, line, fresh⟩ : Cursor).atMark mark = (c == mark && endsWord rest) := rfl

/-- Where a scalar may start, a node as inside brackets is a scalar. -/
theorem readFlowNode_of_opensScalar (h : opensScalar rest = true) (fuel : Nat) :
    readFlowNode handles (fuel + 1) false least ⟨rest, column, line, fresh⟩ =
      readScalar false least .none ⟨rest, column, line, fresh⟩ := by
  match rest, h with
  | c :: rest, h =>
    simp only [opensScalar, Bool.and_eq_true, Bool.not_eq_true', Bool.or_eq_false_iff,
      beq_eq_false_iff_ne] at h
    obtain ⟨⟨-, hmarks⟩, -⟩ := h
    obtain ⟨⟨⟨⟨⟨⟨hname, htag⟩, hrepeated⟩, hbracket⟩, hbrace⟩, -⟩, -⟩ := hmarks
    have hproperties : readProperties handles false ⟨c :: rest, column, line, fresh⟩ =
        some (.none, ⟨c :: rest, column, line, fresh⟩) := by
      unfold readProperties
      split
      · exact absurd (Option.some.inj ‹_›) hname
      · exact absurd (Option.some.inj ‹_›) htag
      · rfl
    rw [readFlowNode, hproperties]
    simp only [Option.bind_eq_bind, Option.bind_some, Bool.false_and, Bool.false_eq_true, if_false]
    split
    · exact absurd (List.cons.inj ‹_›).1 hrepeated
    · exact absurd (List.cons.inj ‹_›).1 hbracket
    · exact absurd (List.cons.inj ‹_›).1 hbrace
    · rfl

/-- A scalar may start with a plain text. -/
theorem Plain.opensScalar {t : Text} (ht : Plain t) (hne : t ≠ []) (rest : Text) :
    opensScalar (t ++ '\n' :: rest) = true := by
  obtain ⟨c, t, rfl⟩ := List.exists_cons_of_ne_nil hne
  have hprintable := ht.printable c List.mem_cons_self
  have hgap : isGap c = false := (isGap_of_isPrintable hprintable).trans ht.first
  have hbreak := ht.unbroken c List.mem_cons_self
  have hbom : c ≠ '\ufeff' := by
    rintro rfl
    exact absurd hprintable (by decide)
  have hstart := ht.start
  simp only [startsLikeStructure, isMark, isFlowMark, Bool.or_eq_false_iff] at hstart
  have hword : ((c == '-' || c == '?') && endsWord t) = false := by
    cases hends : endsWord t with
    | false => exact Bool.and_false _
    | true =>
      have hmark := hstart.1.2
      rw [hends, Bool.and_true, Bool.or_eq_false_iff, Bool.or_eq_false_iff] at hmark
      rw [hmark.1.1, hmark.2]
      rfl
  rw [List.cons_append, Yaml.opensScalar, endsWord_append t (by rfl), hword]
  simp [stands, hgap, hbreak, hbom, hstart]

/-- Where a scalar may start, something stands. -/
theorem exists_cons_of_opensScalar {t : Text} (h : opensScalar t = true) :
    ∃ c rest, t = c :: rest ∧ stands c = true := by
  match t, h with
  | c :: rest, h =>
    simp only [opensScalar, Bool.and_eq_true] at h
    exact ⟨c, rest, rfl, h.1.1⟩

/-- A key is recognised by the colon behind it; where the next line follows there is none. -/
theorem readKey_eq_none {node : Node} {after : Cursor} {next : NextLine} {fuel : Nat}
    {cur : Cursor} (hread : readFlowNode handles fuel false least cur = some (node, after))
    (hnext : next.FollowsAt after) : readKey handles fuel least cur = none := by
  obtain ⟨line, hskip⟩ := hnext
  have hcolon : (next.cursor line).atMark ':' = false := by
    rcases next.rest_cases with rfl | ⟨c, rest, hrest, hc⟩
    · rfl
    · rw [opensLine, Bool.and_eq_true, bne_iff_ne] at hc
      rw [NextLine.cursor, hrest, atMark_cons, beq_eq_false_iff_ne.mpr hc.2, Bool.false_and]
  rw [readKey, hread]
  simp only [hskip, hcolon, Bool.false_and, Bool.false_eq_true, if_false]

/-- Where a scalar may start that the next line follows, the content of a node is that scalar. -/
theorem readContent_of_opensScalar (h : opensScalar rest = true) {style : Style} {t : Text}
    {after : Cursor} {next : NextLine}
    (hread : readScalar false least .none ⟨rest, column, line, fresh⟩ =
      some (.scalar none style t, after)) (hnext : next.FollowsAt after) (indentless : Bool)
    (fuel : Nat) : readContent handles (fuel + 2) least indentless .none
      ⟨rest, column, line, fresh⟩ = some (.scalar none style t, after) := by
  have hflow := (readFlowNode_of_opensScalar handles h fuel).trans hread
  have hkey := readKey_eq_none handles hflow hnext
  match rest, h with
  | c :: rest, h =>
    simp only [opensScalar, Bool.and_eq_true, Bool.not_eq_true', Bool.or_eq_false_iff,
      beq_eq_false_iff_ne] at h
    obtain ⟨⟨-, hmarks⟩, hword⟩ := h
    obtain ⟨⟨⟨⟨⟨⟨hname, htag⟩, -⟩, -⟩, -⟩, hliteral⟩, hfolded⟩ := hmarks
    have hmark (mark : Char) (hm : (c == mark) = true → (c == '-' || c == '?') = true) :
        (⟨c :: rest, column, line, fresh⟩ : Cursor).atMark mark = false := by
      rw [atMark_cons]
      cases hc : c == mark with
      | false => rfl
      | true => rwa [hm hc] at hword
    have hproperties : atOneOf ['&', '!'] ⟨c :: rest, column, line, fresh⟩ = false := by
      simp [atOneOf, hname, htag]
    rw [readContent, hmark '-' (by simp +contextual), hmark '?' (by simp +contextual), hkey, hflow]
    simp only [Option.isSome_none, Bool.or_false, Bool.and_false, Bool.false_eq_true, if_false,
      hproperties]
    split
    · exact absurd (List.cons.inj ‹_›).1 hliteral
    · exact absurd (List.cons.inj ‹_›).1 hfolded
    · rfl

/-- A plain text is the content of a node, up to the next line. -/
theorem readContent_plain {t : Text} (ht : Plain t) (hne : t ≠ []) {next : NextLine}
    (hnext : next.column < least) (hcolumn : least ≤ column) (indentless : Bool) (fuel : Nat) :
    ∃ after, readContent handles (fuel + 2) least indentless .none
      ⟨t ++ '\n' :: next.text, column, line, fresh⟩ = some (.scalar none .plain t, after) ∧
        next.FollowsAt after := by
  refine ⟨next.cursor (line + 1), readContent_of_opensScalar handles (ht.opensScalar hne _) ?_
    (next.followsAt_cursor _) indentless fuel, next.followsAt_cursor _⟩
  have hread := ht.readPlainFrom hne hnext hcolumn line
  have hstarts := ht.startsPlain hne next.text
  obtain ⟨c, t, rfl⟩ := List.exists_cons_of_ne_nil hne
  rw [readScalar]
  simp only [List.cons_append] at hread hstarts ⊢
  split
  · obtain rfl := (List.cons.inj ‹_›).1
    exact absurd hstarts Bool.false_ne_true
  · obtain rfl := (List.cons.inj ‹_›).1
    exact absurd hstarts Bool.false_ne_true
  · rw [if_pos hstarts, hread]
    rfl

/-- A text between single quotation marks is the content of a node. -/
theorem readContent_singleQuoted {t : Text} (ht : allowsSingleQuotes t = true)
    (hfeed : t.contains '\n' = false) (next : NextLine) {depth : Nat} (hdepth : 0 < depth)
    (indentless : Bool) (fuel : Nat) :
    ∃ after, readContent handles (fuel + 2) least indentless .none
      ⟨'\'' :: (singleQuotedFrom depth false t ++ '\'' :: '\n' :: next.text), column, line, fresh⟩ =
        some (.scalar none .singleQuoted t, after) ∧ next.FollowsAt after := by
  obtain ⟨column', line', hread⟩ := readSingleQuoted_of_allows ht hfeed
    (show ('\n' :: next.text).head? ≠ some '\'' by simp) hdepth (Nat.succ_pos column) line
  refine ⟨_, readContent_of_opensScalar handles (by rfl) ?_
    (next.followsAt_break column' line' false) indentless fuel,
    next.followsAt_break column' line' false⟩
  rw [readScalar]
  exact congrArg (Option.map _) hread

/-- A text between double quotation marks is the content of a node. -/
theorem readContent_doubleQuoted (t : Text) (next : NextLine) (indentless : Bool) (fuel : Nat) :
    ∃ after, readContent handles (fuel + 2) least indentless .none
      ⟨'"' :: (t.flatMap doubleQuotedChar ++ '"' :: '\n' :: next.text), column, line, fresh⟩ =
        some (.scalar none .doubleQuoted t, after) ∧ next.FollowsAt after := by
  obtain ⟨column', hread⟩ :=
    readDoubleQuoted_append t [] ('\n' :: next.text) (Nat.succ_pos column) line
  refine ⟨_, readContent_of_opensScalar handles (by rfl) ?_
    (next.followsAt_break column' line false) indentless fuel,
    next.followsAt_break column' line false⟩
  rw [readScalar]
  exact congrArg (Option.map _) hread

/-- A text in a block of lines is the content of a node. -/
theorem readContent_literal {t : Text} (ht : allowsLiteral t = true) (hne : t ≠ [])
    {next : NextLine} (hleast : 0 < least) (hnext : next.column < least) (indentless : Bool)
    (fuel : Nat) : ∃ after, readContent handles (fuel + 2) least indentless .none
      ⟨'|' :: (depthMark t ++ chompingMark t ++
        '\n' :: (literalFrom (least + 1) true t ++ next.text)), column, line, fresh⟩ =
          some (.scalar none .literal t, after) ∧ next.FollowsAt after := by
  obtain ⟨line', hread⟩ := readBlock_of_allows ht hne hleast hnext line
  refine ⟨next.cursor line', ?_, next.followsAt_cursor line'⟩
  have hkey : readKey handles (fuel + 1) least ⟨'|' :: (depthMark t ++ chompingMark t ++
      '\n' :: (literalFrom (least + 1) true t ++ next.text)), column, line, fresh⟩ = none := rfl
  rw [readContent, hkey, atMark_cons, atMark_cons]
  simp only [Option.isSome_none, show ('|' == '-') = false by decide,
    show ('|' == '?') = false by decide, Bool.false_and, Bool.or_false, Bool.and_false,
    Bool.false_eq_true, if_false, hread]
  rfl

/-- Each style is chosen only where it is allowed; between double quotation marks everything is. -/
theorem styleOf_cases (t : Text) :
    (styleOf t = .plain ∧ hasPlainMeaning t = false ∧ allowsPlain t = true) ∨
      (styleOf t = .singleQuoted ∧ t.contains '\n' = false ∧ allowsSingleQuotes t = true) ∨
      (styleOf t = .literal ∧ t ≠ [] ∧ allowsLiteral t = true) ∨ styleOf t = .doubleQuoted := by
  unfold styleOf
  split
  · next hfeed =>
    have hne : t ≠ [] := by
      rintro rfl
      cases hfeed
    split
    · next hliteral => exact .inr (.inr (.inl ⟨rfl, hne, hliteral⟩))
    · exact .inr (.inr (.inr rfl))
  · next hfeed =>
    split
    · next hplain =>
      rw [Bool.and_eq_true, Bool.not_eq_true'] at hplain
      exact .inl ⟨rfl, hplain⟩
    · split
      · next hsingle => exact .inr (.inl ⟨rfl, Bool.eq_false_iff.mpr hfeed, hsingle⟩)
      · exact .inr (.inr (.inr rfl))

/-- A text that is written up to the end of its line is the content of a node. -/
theorem readContent_scalarLine (t : Text) {next : NextLine} (hleast : 0 < least)
    (hnext : next.column < least) (hcolumn : least ≤ column) (indentless : Bool) (fuel : Nat) :
    ∃ after, readContent handles (fuel + 2) least indentless .none
      ⟨scalarLine (least + 1) t ++ next.text, column, line, fresh⟩ =
        some (.scalar none (styleOf t) t, after) ∧ next.FollowsAt after := by
  rcases styleOf_cases t with ⟨hstyle, hmeaning, hplain⟩ | ⟨hstyle, hfeed, hsingle⟩ |
    ⟨hstyle, hne, hliteral⟩ | hstyle
  · have hne : t ≠ [] := by
      rintro rfl
      cases hmeaning
    have hline : scalarLine (least + 1) t ++ next.text = t ++ '\n' :: next.text := by
      simp [scalarLine, hstyle]
    rw [hline, hstyle]
    exact readContent_plain handles (plain_of_allowsPlain hplain) hne hnext hcolumn indentless fuel
  · have hline : scalarLine (least + 1) t ++ next.text =
        '\'' :: (singleQuotedFrom (least + 1) false t ++ '\'' :: '\n' :: next.text) := by
      simp [scalarLine, hstyle]
    rw [hline, hstyle]
    exact readContent_singleQuoted handles hsingle hfeed next (Nat.succ_pos _) indentless fuel
  · have hline : scalarLine (least + 1) t ++ next.text = '|' :: (depthMark t ++ chompingMark t ++
        '\n' :: (literalFrom (least + 1) true t ++ next.text)) := by
      simp [scalarLine, hstyle]
    rw [hline, hstyle]
    exact readContent_literal handles hliteral hne hleast hnext indentless fuel
  · have hline : scalarLine (least + 1) t ++ next.text =
        '"' :: (t.flatMap doubleQuotedChar ++ '"' :: '\n' :: next.text) := by
      simp [scalarLine, hstyle]
    rw [hline, hstyle]
    exact readContent_doubleQuoted handles t next indentless fuel

/-- Something stands where a text is written up to the end of its line. -/
theorem exists_scalarLine_append (depth : Nat) (t rest : Text) :
    ∃ c more, scalarLine depth t ++ rest = c :: more ∧ stands c = true := by
  rcases styleOf_cases t with ⟨hstyle, hmeaning, hplain⟩ | ⟨hstyle, -⟩ | ⟨hstyle, -⟩ | hstyle
  · have hne : t ≠ [] := by
      rintro rfl
      cases hmeaning
    have hline : scalarLine depth t ++ rest = t ++ '\n' :: rest := by simp [scalarLine, hstyle]
    rw [hline]
    exact exists_cons_of_opensScalar ((plain_of_allowsPlain hplain).opensScalar hne rest)
  all_goals
    rw [scalarLine, hstyle]
    exact ⟨_, _, rfl, by decide⟩

end scalars

/-! ## Keys -/

section keys

variable {handles : Handles} {name rest : Text} {column line least : Nat} {fresh : Bool}

/-- Whether a character has no other meaning than itself wherever it stands in a key. -/
def isKeyLetter (c : Char) : Bool :=
  !(isGap c || isBreak c || isMark c || c == ':' || c == '-' || c == '?' || c == '.' ||
    c == '\ufeff')

/-- Whether a text can be a key that is written as it is. -/
def isKey (name : Text) : Bool :=
  !name.isEmpty && name.all isKeyLetter && name.length ≤ Cursor.maxKeyLength

/-- The letters of a key are read up to the colon behind it. -/
private theorem readPlainFrom_key (hname : ∀ c ∈ name, isKeyLetter c = true)
    (hrest : endsWord rest = true) (column line : Nat) :
    readPlainFrom false least .none (name ++ ':' :: rest) column line =
      some (name, ⟨':' :: rest, column + name.length, line, false⟩) := by
  induction name generalizing column with
  | nil =>
    rw [List.nil_append, readPlainFrom, hrest]
    rfl
  | cons c name ih =>
    obtain ⟨hc, hname⟩ := List.forall_mem_cons.mp hname
    simp only [isKeyLetter, Bool.not_eq_true', Bool.or_eq_false_iff] at hc
    obtain ⟨⟨⟨⟨⟨⟨⟨hgap, hbreak⟩, -⟩, hcolon⟩, -⟩, -⟩, -⟩, -⟩ := hc
    rw [List.cons_append, readPlainFrom, hbreak, hgap, hcolon, Gap.none, ← Gap.none, ih hname]
    simp [Gap.isNone, after, Gap.text, Gap.none]
    omega

/-- A key consists of letters, is short enough, and has a first letter. -/
theorem exists_key_eq_cons (hname : isKey name = true) :
    (∀ c ∈ name, isKeyLetter c = true) ∧ name.length ≤ Cursor.maxKeyLength ∧
      ∃ c more, name = c :: more ∧ isKeyLetter c = true := by
  simp only [isKey, Bool.and_eq_true, Bool.not_eq_true', List.isEmpty_eq_false_iff,
    List.all_eq_true, decide_eq_true_eq] at hname
  obtain ⟨⟨hne, hletters⟩, hlength⟩ := hname
  obtain ⟨c, more, rfl⟩ := List.exists_cons_of_ne_nil hne
  exact ⟨hletters, hlength, c, more, rfl, hletters c List.mem_cons_self⟩

/-- Something stands at a letter of a key. -/
theorem stands_of_isKeyLetter {c : Char} (h : isKeyLetter c = true) : stands c = true := by
  simp only [isKeyLetter, isMark, Bool.not_eq_true', Bool.or_eq_false_iff,
    beq_eq_false_iff_ne] at h
  simp [stands, h]

/-- A line of a mapping: a key, a colon, and what is written behind them. -/
def NextLine.key (column : Nat) (name : Text) (hname : isKey name = true) (value : Text) :
    NextLine where
  column := column
  rest := name ++ ':' :: value
  opens := by
    obtain ⟨-, -, c, more, rfl, hc⟩ := exists_key_eq_cons hname
    rintro d hd
    obtain rfl : c = d := Option.some.inj hd
    have hcolon : c ≠ ':' := by
      rintro rfl
      exact absurd hc (by decide)
    rw [opensLine, stands_of_isKeyLetter hc, bne_iff_ne.mpr hcolon]
    rfl
  column_eq_zero := by simp

/-- A line of a sequence: a dash, and what is written behind it. -/
def NextLine.dash (column : Nat) (item : Text) : NextLine :=
  .starting column '-' item (by decide)

/-- A key starts a plain scalar. -/
private theorem opensScalar_key (hname : isKey name = true) (rest : Text) :
    opensScalar (name ++ rest) = true ∧ startsPlain false (name ++ rest) = true := by
  obtain ⟨-, -, c, more, rfl, hc⟩ := exists_key_eq_cons hname
  simp only [isKeyLetter, isMark, isFlowMark, Bool.not_eq_true', Bool.or_eq_false_iff] at hc
  rw [List.cons_append]
  exact ⟨by simp [opensScalar, stands, hc], by simp [startsPlain, isMark, isFlowMark, hc]⟩

/-- A key neither ends a document nor starts with a mark of block structure. -/
theorem not_atEnd_key (hname : isKey name = true) (rest : Text) (column line : Nat) (fresh : Bool) :
    (⟨name ++ rest, column, line, fresh⟩ : Cursor).atEnd = false ∧
      (⟨name ++ rest, column, line, fresh⟩ : Cursor).atMark '-' = false ∧
      (⟨name ++ rest, column, line, fresh⟩ : Cursor).atMark '?' = false := by
  obtain ⟨-, -, c, more, rfl, hc⟩ := exists_key_eq_cons hname
  simp only [isKeyLetter, Bool.not_eq_true', Bool.or_eq_false_iff, beq_eq_false_iff_ne] at hc
  obtain ⟨⟨⟨⟨-, hdash⟩, hquestion⟩, hpoint⟩, -⟩ := hc
  refine ⟨?_, ?_, ?_⟩
  · have htriple : startsWithTriple (c :: (more ++ rest)) = false := by
      unfold startsWithTriple
      split
      · exact absurd (List.cons.inj ‹_›).1 hdash
      · exact absurd (List.cons.inj ‹_›).1 hpoint
      · rfl
    simp [Cursor.atEnd, isDocumentMarker, htriple]
  · simp [Cursor.atMark, hdash]
  · simp [Cursor.atMark, hquestion]

/-- A key with a colon and a blank behind it is read as its text. -/
theorem readKey_of_isKey (hname : isKey name = true) (hrest : endsWord rest = true) (fuel : Nat) :
    readKey handles (fuel + 1) least ⟨name ++ ':' :: rest, column, line, fresh⟩ =
      some (.scalar none .plain name, ⟨rest, column + name.length + 1, line, false⟩) := by
  obtain ⟨hletters, hlength, c, more, hcons, hc⟩ := exists_key_eq_cons hname
  obtain ⟨hopens, hstarts⟩ := opensScalar_key hname (':' :: rest)
  have hread : readScalar false least .none ⟨name ++ ':' :: rest, column, line, fresh⟩ =
      some (.scalar none .plain name, ⟨':' :: rest, column + name.length, line, false⟩) := by
    rw [readScalar]
    simp only [hcons, List.cons_append] at hstarts ⊢
    split
    · obtain rfl := (List.cons.inj ‹_›).1
      exact absurd hc (by decide)
    · obtain rfl := (List.cons.inj ‹_›).1
      exact absurd hc (by decide)
    · rw [if_pos hstarts, ← List.cons_append, ← hcons, readPlainFrom_key hletters hrest]
      rfl
  have hspans : Cursor.spansKey ⟨name ++ ':' :: rest, column, line, fresh⟩
      ⟨':' :: rest, column + name.length, line, false⟩ = true := by
    simp [Cursor.spansKey, hlength]
  rw [readKey, readFlowNode_of_opensScalar handles hopens, hread]
  simp only [skip_of_stands (show stands ':' = true by decide), atMark_cons, beq_self_eq_true,
    Bool.true_and, hrest, hspans, if_true]
  rfl

end keys

/-! ## Nodes, members and items -/

section nodes

variable (handles : Handles) {fuel least column : Nat} {indentless fresh : Bool} {rest : Text}
  {next : NextLine}

/-- From a position in a line on, a node is read up to the next line. -/
def ReadsNode (fuel least : Nat) (indentless : Bool) (column : Nat) (fresh : Bool) (rest : Text)
    (node : Node) (next : NextLine) : Prop :=
  ∀ line, ∃ after, readNode handles fuel least indentless .none ⟨rest, column, line, fresh⟩ =
    some (node, after) ∧ next.FollowsAt after

/-- From a line on, the members of a mapping are read up to another line. -/
def ReadsMembers (fuel column : Nat) (start : NextLine) (members : List (Node × Node))
    (stop : NextLine) : Prop :=
  ∀ cur, start.FollowsAt cur → ∃ after, readMembers handles fuel column cur =
    some (members, after) ∧ stop.FollowsAt after

/-- From a line on, the items of a sequence are read up to another line. -/
def ReadsItems (fuel column : Nat) (start : NextLine) (items : List Node) (stop : NextLine) :
    Prop :=
  ∀ cur, start.FollowsAt cur → ∃ after, readItems handles fuel column cur =
    some (items, after) ∧ stop.FollowsAt after

/-- Behind a space, the content of a node may start. -/
private theorem readNode_space {c : Char} (hc : stands c = true) (hcolumn : least ≤ column + 1)
    (line : Nat) : readNode handles (fuel + 1) least indentless .none
      ⟨' ' :: c :: rest, column, line, fresh⟩ =
        readContent handles fuel least indentless .none ⟨c :: rest, column + 1, line, fresh⟩ := by
  rw [readNode, skip_space hc]
  simp [Cursor.atEnd, hcolumn]

/-- A plain text is read as a node. -/
theorem readsNode_plain {t : Text} (ht : Plain t) (hne : t ≠ []) (hnext : next.column < least)
    (hcolumn : least ≤ column + 1) : ReadsNode handles (fuel + 3) least indentless column fresh
      (' ' :: (t ++ '\n' :: next.text)) (.scalar none .plain t) next := by
  intro line
  obtain ⟨c, more, hline, hc⟩ := exists_cons_of_opensScalar (ht.opensScalar hne next.text)
  rw [hline, readNode_space handles hc hcolumn, ← hline]
  exact readContent_plain handles ht hne hnext hcolumn indentless fuel

/-- A text that is written up to the end of its line is read as a node. -/
theorem readsNode_scalarLine (t : Text) (hleast : 0 < least) (hnext : next.column < least)
    (hcolumn : least ≤ column + 1) : ReadsNode handles (fuel + 3) least indentless column fresh
      (' ' :: (scalarLine (least + 1) t ++ next.text)) (.scalar none (styleOf t) t) next := by
  intro line
  obtain ⟨c, more, hline, hc⟩ := exists_scalarLine_append (least + 1) t next.text
  rw [hline, readNode_space handles hc hcolumn, ← hline]
  exact readContent_scalarLine handles t hleast hnext hcolumn indentless fuel

/-- Where the members of a mapping start far enough to the right, they are the node. -/
theorem exists_readNode_mapping {name : Text} (hname : isKey name = true)
    {members : List (Node × Node)} (hrest : endsWord rest = true) (hcolumn : least ≤ column)
    (hmembers : ReadsMembers handles (fuel + 1) column (.key column name hname rest) members next)
    {cur : Cursor} (hcur : (NextLine.key column name hname rest).FollowsAt cur) :
    ∃ after, readNode handles (fuel + 3) least indentless .none cur =
      some (.mapping members, after) ∧ next.FollowsAt after := by
  obtain ⟨line, hskip⟩ := hcur
  obtain ⟨after, hread, hafter⟩ :=
    hmembers _ ((NextLine.key column name hname rest).followsAt_cursor line)
  refine ⟨after, ?_, hafter⟩
  rw [NextLine.cursor, NextLine.key] at hskip hread
  obtain ⟨hend, hdash, hquestion⟩ := not_atEnd_key hname (':' :: rest) column line true
  rw [readNode, hskip]
  simp only [hend, Bool.false_eq_true, if_false, hcolumn, true_or, if_true]
  rw [readContent, hdash, hquestion, readKey_of_isKey hname hrest]
  simp only [Option.isSome_some, Bool.or_true, Bool.and_true, Bool.false_eq_true, if_false, if_true,
    hread]
  rfl

/-- The members of a mapping that is a value start in the next line. -/
theorem readsNode_mapping {start : Nat} {name : Text} (hname : isKey name = true)
    {members : List (Node × Node)} (hrest : endsWord rest = true) (hstart : least ≤ start)
    (hmembers : ReadsMembers handles (fuel + 1) start (.key start name hname rest) members next) :
    ReadsNode handles (fuel + 3) least indentless column fresh
      ('\n' :: (NextLine.key start name hname rest).text) (.mapping members) next := fun line =>
  exists_readNode_mapping handles hname hrest hstart hmembers
    (NextLine.followsAt_break _ column line fresh)

/-- Where no member starts at the column, the mapping is over. -/
theorem readsMembers_nil {start : NextLine} (h : start = .done ∨ start.column < column) :
    ReadsMembers handles (fuel + 1) column start [] start := by
  rintro cur ⟨line, hskip⟩
  refine ⟨start.cursor line, ?_, start.followsAt_cursor line⟩
  have hover :
      ((start.cursor line).atEnd || decide ((start.cursor line).column < column)) = true := by
    rcases h with rfl | h
    · rfl
    · rw [decide_eq_true (show (start.cursor line).column < column from h), Bool.or_true]
  rw [readMembers, hskip]
  exact if_pos hover

/-- A member at the column is read, and then those in the lines that follow. -/
theorem readsMembers_cons {stop : NextLine} {name : Text} (hname : isKey name = true) {value : Node}
    {members : List (Node × Node)} (hrest : endsWord rest = true)
    (hvalue : ReadsNode handles (fuel + 1) (column + 1) true (column + name.length + 1) false rest
      value next) (hmembers : ReadsMembers handles (fuel + 2) column next members stop) :
    ReadsMembers handles (fuel + 3) column (.key column name hname rest)
      ((.scalar none .plain name, value) :: members) stop := by
  rintro cur ⟨line, hskip⟩
  obtain ⟨after, hread, hafter⟩ := hvalue line
  obtain ⟨last, hmore, hlast⟩ := hmembers after hafter
  refine ⟨last, ?_, hlast⟩
  rw [NextLine.cursor, NextLine.key] at hskip
  obtain ⟨hend, -, hquestion⟩ := not_atEnd_key hname (':' :: rest) column line true
  rw [readMembers, hskip]
  simp only [hend, Nat.lt_irrefl, decide_false, Bool.or_false, Bool.not_true, Bool.false_eq_true,
    if_false]
  rw [readMember, hquestion, readKey_of_isKey hname hrest]
  simp only [Bool.false_eq_true, if_false, Option.bind_eq_bind, Option.bind_some, hread]
  change (readMembers handles (fuel + 2) column after).bind _ = _
  rw [hmore]
  rfl

/-- Where no dash stands, the sequence is over. -/
theorem readsItems_nil {start : NextLine} (h : ∀ c ∈ start.rest.head?, c ≠ '-') :
    ReadsItems handles (fuel + 1) column start [] start := by
  rintro cur ⟨line, hskip⟩
  refine ⟨start.cursor line, ?_, start.followsAt_cursor line⟩
  have hdash : (start.cursor line).atMark '-' = false := by
    rcases start.rest_cases with rfl | ⟨c, rest, hrest, -⟩
    · rfl
    · have hc : c ≠ '-' := h c (by rw [hrest]; rfl)
      rw [NextLine.cursor, hrest, atMark_cons, beq_eq_false_iff_ne.mpr hc, Bool.false_and]
  rw [readItems, hskip]
  simp only [hdash, Bool.and_false, Bool.false_eq_true, if_false]

/-- A dash with a blank behind it starts an item. -/
private theorem atMark_dash (hrest : endsWord rest = true) (column line : Nat) :
    (⟨'-' :: rest, column, line, true⟩ : Cursor).atEnd = false ∧
      (⟨'-' :: rest, column, line, true⟩ : Cursor).atMark '-' = true := by
  have htriple : startsWithTriple ('-' :: rest) = false := by
    unfold startsWithTriple
    split
    · next hdashes =>
      rw [(List.cons.inj hdashes).2] at hrest
      cases hrest
    · next hpoints => exact absurd (List.cons.inj hpoints).1 (by decide)
    · rfl
  exact ⟨by simp [Cursor.atEnd, isDocumentMarker, htriple], by simp [Cursor.atMark, hrest]⟩

/-- An item behind a dash at the column is read, and then those in the lines that follow. -/
theorem readsItems_cons {stop : NextLine} {item : Node} {items : List Node}
    (hrest : endsWord rest = true)
    (hitem : ReadsNode handles fuel (column + 1) false (column + 1) true rest item next)
    (hitems : ReadsItems handles fuel column next items stop) :
    ReadsItems handles (fuel + 1) column (.dash column rest) (item :: items) stop := by
  rintro cur ⟨line, hskip⟩
  obtain ⟨after, hread, hafter⟩ := hitem line
  obtain ⟨last, hmore, hlast⟩ := hitems after hafter
  refine ⟨last, ?_, hlast⟩
  rw [NextLine.cursor, NextLine.dash, NextLine.starting] at hskip
  obtain ⟨hend, hdash⟩ := atMark_dash hrest column line
  rw [readItems, hskip]
  simp only [hend, hdash, Bool.not_false, beq_self_eq_true, Bool.and_true, if_true,
    Option.bind_eq_bind]
  change (readNode handles fuel (column + 1) false .none ⟨rest, column + 1, line, true⟩).bind _ = _
  rw [hread]
  change (readItems handles fuel column after).bind _ = _
  rw [hmore]
  rfl

/-- A sequence may start in a line at the column of the mapping that it is a value in. -/
theorem readsNode_sequence {start : Nat} {items : List Node} (hrest : endsWord rest = true)
    (hitems : ReadsItems handles fuel start (.dash start rest) items next) :
    ReadsNode handles (fuel + 2) (start + 1) true column fresh
      ('\n' :: (NextLine.dash start rest).text) (.sequence items) next := by
  intro line
  obtain ⟨line', hskip⟩ := (NextLine.dash start rest).followsAt_break column line fresh
  obtain ⟨after, hread, hafter⟩ :=
    hitems _ ((NextLine.dash start rest).followsAt_cursor line')
  refine ⟨after, ?_, hafter⟩
  rw [NextLine.cursor, NextLine.dash, NextLine.starting] at hskip hread
  obtain ⟨hend, hdash⟩ := atMark_dash hrest start line'
  rw [readNode, NextLine.dash, NextLine.starting, hskip]
  simp only [hend, hdash, Bool.false_eq_true, if_false, Bool.and_true, Bool.or_true, and_true,
    or_true, if_true]
  rw [readContent, hdash]
  simp only [if_true, hread]
  rfl

end nodes

end ExprGate.Yaml
