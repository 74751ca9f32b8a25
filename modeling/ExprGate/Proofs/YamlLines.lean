import ExprGate.Yaml.Reader
import ExprGate.Yaml.Writer

/-!
# Lines of YAML

What is written in YAML is made of printable characters, which the reader takes as they are. Behind
a scalar comes a line that starts further to the left than the scalar's own lines do, or nothing at
all; the scalar is over where that line starts.
-/

namespace ExprGate.Yaml

section characters

variable {c : Char}

/-- Printable characters can be read. -/
theorem isReadable_of_isPrintable (h : isPrintable c = true) : isReadable c = true := by
  simp only [isPrintable, Bool.or_eq_true, Bool.and_eq_true, decide_eq_true_eq, beq_iff_eq] at h
  simp only [isReadable, Bool.or_eq_true, Bool.and_eq_true, decide_eq_true_eq, beq_iff_eq]
  omega

/-- The only printable gap is the space. -/
theorem isGap_of_isPrintable (h : isPrintable c = true) : isGap c = isSpace c := by
  have htab : c ≠ '\t' := by
    rintro rfl
    exact absurd h (by decide)
  rw [isGap, isSpace, beq_eq_false_iff_ne.mpr htab, Bool.or_false]

/-- Line breaks of other kinds than those that are printable are the ones that are unified. -/
theorem unifyBreaks_eq_self {t : Text} (h : ∀ c ∈ t, isPrintable c = true) : unifyBreaks t = t := by
  induction t with
  | nil => rfl
  | cons c t ih =>
    obtain ⟨hc, ht⟩ := List.forall_mem_cons.mp h
    have hreturn : c ≠ '\r' := by
      rintro rfl
      exact absurd hc (by decide)
    have hnext : c ≠ '\u0085' := by
      rintro rfl
      exact absurd hc (by decide)
    rw [unifyBreaks.eq_2 _ _ (fun _ h _ => hreturn h), ih ht, if_neg (not_or.mpr ⟨hreturn, hnext⟩)]

/-- A text without escapes is printable, and no space stands before a break. -/
theorem isPrintable_of_not_needsEscapes {t : Text} (h : needsEscapes t = false) :
    (∀ c ∈ t, isPrintable c = true) ∧ hasPair isSpace isBreak t = false := by
  simpa [needsEscapes] using h

end characters

/-! ## Margins -/

/-- What passes over a single space passes over a margin. -/
theorem passes_margin {α : Type} (read : Text → Nat → α) {depth column : Nat}
    (hspace : ∀ rest, ∀ k < column + depth, read (' ' :: rest) k = read rest (k + 1))
    (rest : Text) : read (margin depth ++ rest) column = read rest (column + depth) := by
  induction depth generalizing column with
  | zero => rfl
  | succ depth ih =>
    have hmargin : margin (depth + 1) ++ rest = ' ' :: (margin depth ++ rest) := rfl
    rw [hmargin, hspace _ column (by omega), ih fun rest k hk => hspace rest k (by omega),
      Nat.add_right_comm, Nat.add_assoc]

/-! ## The next line -/

/-- Whether something stands at a character: it is no blank, and no comment starts with it. -/
def stands (c : Char) : Bool := !(isGap c || isBreak c || c == '#' || c == '\ufeff')

/-- Where something stands, nothing is skipped. -/
theorem skip_of_stands {c : Char} (hc : stands c = true) (rest : Text) (column line : Nat)
    (fresh : Bool) : (⟨c :: rest, column, line, fresh⟩ : Cursor).skip false =
      ⟨c :: rest, column, line, fresh⟩ := by
  simp only [stands, isGap, Bool.not_eq_true', Bool.or_eq_false_iff] at hc
  simp [Cursor.skip, Cursor.skipFrom, hc]

/-- A space in front of what stands in a line is skipped. -/
theorem skip_space {c : Char} (hc : stands c = true) (rest : Text) (column line : Nat)
    (fresh : Bool) : (⟨' ' :: c :: rest, column, line, fresh⟩ : Cursor).skip false =
      ⟨c :: rest, column + 1, line, fresh⟩ :=
  skip_of_stands hc rest (column + 1) line fresh

/-- Whether a character can be the first of a line behind its margin. -/
def opensLine (c : Char) : Bool := stands c && c != ':'

/-- What follows a line: another one with its margin, or the end of the text. -/
structure NextLine where
  /-- The column where the line starts. -/
  column : Nat
  /-- The text from there on. -/
  rest : Text
  /-- The line starts with a character that ends its margin. -/
  opens : ∀ c ∈ rest.head?, opensLine c = true
  /-- The end of the text has no margin. -/
  column_eq_zero : rest = [] → column = 0

namespace NextLine

/-- The line with its margin. -/
def text (next : NextLine) : Text := margin next.column ++ next.rest

/-- The position where the line starts. -/
def cursor (next : NextLine) (line : Nat) : Cursor := ⟨next.rest, next.column, line, true⟩

/-- The end of the text. -/
def done : NextLine := ⟨0, [], by simp, fun _ => rfl⟩

/-- A line that starts with the given text. -/
def starting (column : Nat) (c : Char) (rest : Text) (h : opensLine c = true) : NextLine :=
  ⟨column, c :: rest, by simpa using h, by simp⟩

variable (next : NextLine)

/-- At the end of the text there is nothing, and a line starts with a character. -/
theorem rest_cases : next = done ∨ ∃ c rest, next.rest = c :: rest ∧ opensLine c = true := by
  obtain ⟨column, rest, hopens, hcolumn⟩ := next
  cases rest with
  | nil =>
    obtain rfl := hcolumn rfl
    exact .inl rfl
  | cons c rest => exact .inr ⟨c, rest, rfl, hopens c rfl⟩

/-- Where a line starts, nothing is skipped. -/
theorem skip_cursor (line : Nat) : (next.cursor line).skip false = next.cursor line := by
  rcases next.rest_cases with rfl | ⟨c, rest, hrest, hc⟩
  · rfl
  · rw [opensLine, Bool.and_eq_true] at hc
    rw [cursor, hrest]
    exact skip_of_stands hc.1 rest next.column line true

/-- The next line is what comes next behind a position. -/
def FollowsAt (cur : Cursor) : Prop := ∃ line, cur.skip false = next.cursor line

/-- The next line comes next where it starts. -/
theorem followsAt_cursor (line : Nat) : next.FollowsAt (next.cursor line) :=
  ⟨line, next.skip_cursor line⟩

/-- The next line comes next behind a line feed. -/
theorem followsAt_break (column line : Nat) (fresh : Bool) :
    next.FollowsAt ⟨'\n' :: next.text, column, line, fresh⟩ := by
  refine ⟨line + 1, ?_⟩
  have hmargin : Cursor.skipFrom false true false next.text 0 (line + 1) =
      Cursor.skipFrom false true false next.rest (0 + next.column) (line + 1) :=
    passes_margin (Cursor.skipFrom false true false · · (line + 1)) (fun _ _ _ => rfl) next.rest
  have hskip := next.skip_cursor (line + 1)
  rw [Cursor.skip] at hskip ⊢
  rw [Cursor.skipFrom, if_pos (by decide), Bool.not_false, Bool.or_true, hmargin, Nat.zero_add]
  exact hskip

end NextLine

end ExprGate.Yaml
