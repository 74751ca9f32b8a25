import ExprGate.Json.Reader
import ExprGate.Json.Writer
import ExprGate.Proofs.Operands

/-!
# Reading back strings and numbers

A string is read back character by character, whatever it holds, and a number is read back when it
has digits where JSON asks for them. Each reader takes exactly what the writer of its part put
there, whatever follows, so the readers of the parts fit together as their writers do.
-/

namespace ExprGate

section words

variable {holds : Char → Bool} {word rest : Text}

/-- A word is taken off a text up to the first character that does not belong to it. -/
theorem Text.takeWhile_append (hword : ∀ c ∈ word, holds c = true)
    (hrest : ∀ c ∈ rest.head?, holds c = false) : (word ++ rest).takeWhile holds = word := by
  rw [List.takeWhile_append_of_pos hword]
  cases rest with
  | nil => simp
  | cons c rest => simp [hrest c rfl]

/-- What is left of a text behind a word starts with the first character that does not belong to
the word. -/
theorem Text.dropWhile_append (hword : ∀ c ∈ word, holds c = true)
    (hrest : ∀ c ∈ rest.head?, holds c = false) : (word ++ rest).dropWhile holds = rest := by
  rw [List.dropWhile_append_of_pos hword]
  cases rest with
  | nil => rfl
  | cons c rest => simp [hrest c rfl]

end words

/-- A number is written with at least one digit, and with digits only. -/
theorem isNumeral_natText (n : Nat) : IsNumeral (natText n) :=
  ⟨Nat.toDigits_ne_nil, fun _ hc => Nat.isDigit_of_mem_toDigits (by decide) (by decide) hc⟩

/-- The digits of a number write that number. -/
theorem natOfDigits_natText (n : Nat) : natOfDigits (natText n) = n := by
  have hread : natOfDigits (natText n) = Nat.ofDigitChars 10 (natText n) 0 := by
    rw [natOfDigits, Nat.ofDigitChars_eq_foldl]
    simp only [digitValue, Nat.mul_comm]
    rfl
  rw [hread]
  exact Nat.ofDigitChars_toDigits (by decide) (by decide)

/-- Only zero is written with a zero in front. -/
theorem eq_nil_of_natText {n : Nat} {rest : Text} (h : natText n = '0' :: rest) : rest = [] := by
  induction n using Nat.strongRecOn generalizing rest with
  | _ n ih =>
    rcases Nat.lt_or_ge n 10 with hlt | hge
    · rw [natText, Nat.toDigits_of_lt_base hlt] at h
      exact (List.cons.inj h).2.symm
    · rw [natText, Nat.toDigits_of_base_le (by decide) hge] at h
      obtain ⟨front, hfront, -⟩ := List.append_eq_cons_iff.mp h |>.resolve_left
        (fun hnil => Nat.toDigits_ne_nil hnil.1)
      have hzero : natText (n / 10) = ['0'] := by
        have hnil := ih (n / 10) (by omega) hfront
        rw [natText, hfront, hnil]
      have hvalue := natOfDigits_natText (n / 10)
      rw [hzero] at hvalue
      have : n / 10 = 0 := hvalue.symm
      omega

/-- A numeral with digits everywhere JSON asks for them and no zero in front of another digit. -/
structure Numeral.WellFormed (n : Numeral) : Prop where
  /-- There are digits before the point. -/
  whole : IsNumeral n.whole
  /-- A zero in front stands alone. -/
  lone_zero : ∀ rest, n.whole = '0' :: rest → rest = []
  /-- There are digits after a point. -/
  fraction : ∀ digits ∈ n.fraction, IsNumeral digits
  /-- There are digits in an exponent. -/
  exponent : ∀ exponent ∈ n.exponent, IsNumeral exponent.2

namespace Json

section strings

/-- A character is written as a letter after a backslash, as the number of a control character, or
as itself. -/
theorem escape_cases (c : Char) :
    (∃ letter, escaped? letter = some c ∧ escape c = ['\\', letter]) ∨
      (c.toNat < 0x20 ∧ escape c =
        ['\\', 'u', '0', '0', hexDigit (c.toNat / 16), hexDigit (c.toNat % 16)]) ∨
      (c ≠ '"' ∧ c ≠ '\\' ∧ ¬c.toNat < 0x20 ∧ escape c = [c]) := by
  unfold escape
  repeat' split
  any_goals exact .inl ⟨_, by subst c; rfl, rfl⟩
  · exact .inr (.inl ⟨‹_›, rfl⟩)
  · exact .inr (.inr ⟨‹_›, ‹_›, ‹_›, rfl⟩)

/-- A letter after a backslash is read as the character it stands for. -/
private theorem readPieces_letter {letter c : Char} (h : escaped? letter = some c) (rest : Text) :
    readPieces ('\\' :: letter :: rest) =
      (readPieces rest).map fun (pieces, after) => (.char c :: pieces, after) := by
  have hletter : letter ≠ 'u' := by
    rintro rfl
    cases h
  rw [readPieces.eq_4 _ _ (fun _ _ _ _ _ hu _ => hletter hu), h, Option.map_eq_bind]
  rfl

/-- Two hexadecimal digits after two zeros are read as the number of a control character. -/
private theorem readPieces_control {n : Nat} (h : n < 0x20) (rest : Text) :
    readPieces ('\\' :: 'u' :: '0' :: '0' :: hexDigit (n / 16) :: hexDigit (n % 16) :: rest) =
      (readPieces rest).map fun (pieces, after) => (.unit n :: pieces, after) := by
  have hunit : ∀ n < 0x20, hexUnit? '0' '0' (hexDigit (n / 16)) (hexDigit (n % 16)) = some n := by
    decide
  rw [readPieces, hunit n h, Option.map_eq_bind]
  rfl

/-- A character that needs no escape is read as itself. -/
private theorem readPieces_plain {c : Char} (hquote : c ≠ '"') (hslash : c ≠ '\\')
    (h : ¬c.toNat < 0x20) (rest : Text) :
    readPieces (c :: rest) =
      (readPieces rest).map fun (pieces, after) => (.char c :: pieces, after) := by
  rw [readPieces.eq_5 _ _ hquote (fun _ _ _ _ _ hu _ => hslash hu) (fun _ _ hu _ => hslash hu),
    if_neg (not_or.mpr ⟨h, hslash⟩), Option.map_eq_bind]
  rfl

/-- The number of a control character stands for it, since it is no half of a surrogate pair. -/
private theorem joinPieces_control {c : Char} (h : c.toNat < 0x20) (pieces : List StringPiece) :
    joinPieces (.unit c.toNat :: pieces) = (joinPieces pieces).map (c :: ·) := by
  have hchar : Char.ofNat c.toNat = c := Char.ofNat_toNat c
  have hhigh : isHighSurrogate c.toNat = false := by
    rw [isHighSurrogate, Bool.and_eq_false_iff]
    exact .inl (decide_eq_false (by omega))
  have hlow : isLowSurrogate c.toNat = false := by
    rw [isLowSurrogate, Bool.and_eq_false_iff]
    exact .inl (decide_eq_false (by omega))
  match pieces with
  | [] => simp [joinPieces, hhigh, hlow, hchar]
  | .char _ :: _ => simp [joinPieces, hhigh, hlow, hchar]
  | .unit _ :: _ => simp [joinPieces, hhigh, hlow, hchar]

/-- A written character is read as itself. -/
theorem readString_escape (c : Char) (rest : Text) :
    readString (escape c ++ rest) =
      (readString rest).map fun (t, after) => (t.map (c :: ·), after) := by
  simp only [readString, Option.map_map]
  rcases escape_cases c with ⟨letter, hletter, h⟩ | ⟨hcontrol, h⟩ | ⟨hquote, hslash, hcontrol, h⟩
  · rw [h]
    change (readPieces ('\\' :: letter :: rest)).map _ = _
    rw [readPieces_letter hletter, Option.map_map]
    rfl
  · rw [h]
    change (readPieces ('\\' :: 'u' :: '0' :: '0' :: _ :: _ :: rest)).map _ = _
    rw [readPieces_control hcontrol, Option.map_map]
    simp only [Function.comp_def, joinPieces_control hcontrol]
  · rw [h]
    change (readPieces (c :: rest)).map _ = _
    rw [readPieces_plain hquote hslash hcontrol, Option.map_map]
    rfl

/-- A written text is read as itself, up to its closing quotation mark. -/
theorem readString_append (t rest : Text) :
    readString (t.flatMap escape ++ '"' :: rest) = some (some t, rest) := by
  induction t with
  | nil => rfl
  | cons c t ih =>
    rw [List.flatMap_cons, List.append_assoc, readString_escape, ih]
    rfl

end strings

section numbers

variable {digits rest : Text}

/-- Whether a number ends before the character. -/
def endsNumber (c : Char) : Bool := !(c.isDigit || c == '.' || c == 'e' || c == 'E')

/-- What holds of a character holds of the first one of every text that starts with it. -/
theorem forall_mem_head?_cons {P : Char → Prop} {c : Char} (h : P c) (rest : Text) :
    ∀ d ∈ (c :: rest).head?, P d := by
  rintro d hd
  obtain rfl : c = d := Option.some.inj hd
  exact h

/-- Digits are read up to the first character that is none. -/
theorem readDigits_append (hdigits : IsNumeral digits)
    (hrest : ∀ c ∈ rest.head?, c.isDigit = false) :
    readDigits (digits ++ rest) = some (digits, rest) := by
  have hne : digits.isEmpty = false := by
    rw [List.isEmpty_eq_false_iff]
    exact hdigits.1
  simp only [readDigits, Text.takeWhile_append hdigits.2 hrest,
    Text.dropWhile_append hdigits.2 hrest, hne]
  rfl

/-- The digits before the point are read up to the first character that is no digit. -/
theorem readWhole_append (hdigits : IsNumeral digits)
    (hzero : ∀ rest, digits = '0' :: rest → rest = [])
    (hrest : ∀ c ∈ rest.head?, c.isDigit = false) :
    readWhole (digits ++ rest) = some (digits, rest) := by
  match digits, hdigits, hzero with
  | [], hdigits, _ => exact absurd rfl hdigits.1
  | c :: more, hdigits, hzero =>
    by_cases hc : c = '0'
    · subst hc
      rw [hzero more rfl]
      rfl
    · rw [List.cons_append, readWhole.eq_2 _ (fun _ h => hc (List.cons.inj h).1),
        ← List.cons_append, readDigits_append hdigits hrest]

/-- A point and the digits after it are read as they were written. -/
theorem readFraction_append {fraction : Option Text}
    (hfraction : ∀ digits ∈ fraction, IsNumeral digits)
    (hrest : ∀ c ∈ rest.head?, c.isDigit = false ∧ c ≠ '.') :
    readFraction (fractionText fraction ++ rest) = some (fraction, rest) := by
  cases fraction with
  | none =>
    cases rest with
    | nil => rfl
    | cons c rest => exact readFraction.eq_2 _ (fun _ h => (hrest c rfl).2 (List.cons.inj h).1)
  | some digits =>
    have hdigits := readDigits_append (hfraction digits rfl) fun c hc => (hrest c hc).1
    rw [fractionText, List.cons_append, readFraction, hdigits]
    rfl

/-- An exponent is read as it was written. -/
theorem readExponent_append {exponent : Option (Bool × Text)}
    (hexponent : ∀ e ∈ exponent, IsNumeral e.2)
    (hrest : ∀ c ∈ rest.head?, c.isDigit = false ∧ c ≠ 'e' ∧ c ≠ 'E') :
    readExponent (exponentText exponent ++ rest) = some (exponent, rest) := by
  cases exponent with
  | none =>
    cases rest with
    | nil => rfl
    | cons c rest =>
      obtain ⟨-, hlower, hupper⟩ := hrest c rfl
      exact if_neg (not_or.mpr ⟨hlower, hupper⟩)
  | some e =>
    obtain ⟨negative, digits⟩ := e
    have hdigits := readDigits_append (hexponent _ rfl) fun c hc => (hrest c hc).1
    have hsign : readExponentSign ((if negative then '-' else '+') :: (digits ++ rest)) =
        (negative, digits ++ rest) := by
      cases negative <;> rfl
    simp only [exponentText, List.cons_append, readExponent, true_or, if_true, hsign, hdigits]
    rfl

/-- A number is read as it was written, when its sign has been read. -/
theorem readUnsigned_append {n : Numeral} (hn : n.WellFormed)
    (hrest : ∀ c ∈ rest.head?, endsNumber c = true) :
    readUnsigned n.negative (n.whole ++ (fractionText n.fraction ++
      (exponentText n.exponent ++ rest))) = some (n, rest) := by
  have hends : ∀ c ∈ rest.head?, ((c.isDigit = false ∧ c ≠ '.') ∧ c ≠ 'e') ∧ c ≠ 'E' := by
    intro c hc
    simpa [endsNumber] using hrest c hc
  have hexponent : readExponent (exponentText n.exponent ++ rest) = some (n.exponent, rest) :=
    readExponent_append hn.exponent fun c hc =>
      ⟨(hends c hc).1.1.1, (hends c hc).1.2, (hends c hc).2⟩
  have hafter : ∀ c ∈ (exponentText n.exponent ++ rest).head?, c.isDigit = false ∧ c ≠ '.' := by
    cases n.exponent with
    | none => exact fun c hc => (hends c hc).1.1
    | some e => exact forall_mem_head?_cons (by decide) _
  have hfraction := readFraction_append hn.fraction hafter
  have hwhole : readWhole (n.whole ++ (fractionText n.fraction ++ (exponentText n.exponent ++
      rest))) = some (n.whole, fractionText n.fraction ++ (exponentText n.exponent ++ rest)) := by
    refine readWhole_append hn.whole hn.lone_zero ?_
    cases n.fraction with
    | none => exact fun c hc => (hafter c hc).1
    | some digits => exact forall_mem_head?_cons (by decide) _
  rw [readUnsigned, hwhole]
  change (readFraction _).bind _ = _
  rw [hfraction]
  change (readExponent _).bind _ = _
  rw [hexponent]
  rfl

/-- A number is read as it was written. -/
theorem readNumeral_append {n : Numeral} (hn : n.WellFormed)
    (hrest : ∀ c ∈ rest.head?, endsNumber c = true) :
    readNumeral (n.text ++ rest) = some (n, rest) := by
  have hread := readUnsigned_append hn hrest
  obtain ⟨first, more, hwhole⟩ := List.exists_cons_of_ne_nil hn.whole.1
  rw [Numeral.text]
  simp only [List.append_assoc]
  cases hnegative : n.negative with
  | true =>
    rw [hnegative] at hread
    exact hread
  | false =>
    rw [hnegative] at hread
    have hfirst : first ≠ '-' := by
      rintro rfl
      exact absurd (hn.whole.2 '-' (by simp [hwhole])) (by decide)
    rw [hwhole] at hread ⊢
    change readNumeral (first :: _) = _
    rw [readNumeral.eq_2 _ (fun _ h => hfirst (List.cons.inj h).1)]
    exact hread

/-- A number starts with a minus sign or a digit. -/
theorem exists_text_eq_cons {n : Numeral} (hn : n.WellFormed) :
    ∃ c t, n.text = c :: t ∧ (c = '-' ∨ c.isDigit = true) := by
  obtain ⟨first, more, hwhole⟩ := List.exists_cons_of_ne_nil hn.whole.1
  cases hnegative : n.negative with
  | true => exact ⟨'-', _, by rw [Numeral.text, hnegative]; rfl, .inl rfl⟩
  | false =>
    exact ⟨first, _, by rw [Numeral.text, hnegative, hwhole]; rfl,
      .inr (hn.whole.2 first (by simp [hwhole]))⟩

end numbers

end Json

end ExprGate
