/-!
# Texts

Everything the gate inspects is a finite sequence of Unicode scalar values. Length bounds count
these values, so a text is modelled as their list. This module holds the operations that every
stage shares: blank characters, trimming, size in UTF-8, and the removal of a word.
-/

namespace ExprGate

/-- A text is the list of its Unicode scalar values. -/
abbrev Text := List Char

/-- The characters with the Unicode property White_Space. -/
def isBlank (c : Char) : Bool :=
  let n := c.toNat
  (9 ≤ n && n ≤ 13) || n == 0x20 || n == 0x85 || n == 0xA0 || n == 0x1680 ||
    (0x2000 ≤ n && n ≤ 0x200A) || n == 0x2028 || n == 0x2029 || n == 0x202F || n == 0x205F ||
    n == 0x3000

namespace Text

/-- The text without the blanks at its start. -/
def trimStart (t : Text) : Text := t.dropWhile isBlank

/-- The text without the blanks at its end. -/
def trimEnd (t : Text) : Text := (t.reverse.dropWhile isBlank).reverse

/-- The text without the blanks at either end. -/
def trim (t : Text) : Text := trimEnd (trimStart t)

/-- A text is blank when every character in it is; the empty text is blank. -/
def isBlank (t : Text) : Bool := t.all ExprGate.isBlank

/-- The number of bytes that UTF-8 takes for the text. -/
def utf8Length : Text → Nat
  | [] => 0
  | c :: rest => c.utf8Size + utf8Length rest

/-- A text takes at least as many bytes as it has characters. -/
theorem length_le_utf8Length (t : Text) : t.length ≤ utf8Length t := by
  induction t with
  | nil => exact Nat.le_refl 0
  | cons c rest ih =>
    have hc := c.utf8Size_pos
    rw [List.length_cons, utf8Length]
    omega

/-- Removes the occurrences of `word`, found from left to right without overlap, after leaving out
the next `skip` characters. -/
def eraseFrom (word : Text) : Nat → Text → Text
  | _, [] => []
  | skip + 1, _ :: rest => eraseFrom word skip rest
  | 0, c :: rest =>
    if word.isPrefixOf (c :: rest) then eraseFrom word (word.length - 1) rest
    else c :: eraseFrom word 0 rest

/-- Removes every occurrence of `word`, found from left to right without overlap. Occurrences that
the removal itself brings about stay. -/
def erase (word t : Text) : Text := eraseFrom word 0 t

/-- Whether two texts differ at most in the case of ASCII letters. -/
def eqIgnoringCase (s t : Text) : Bool := s.map Char.toLower == t.map Char.toLower

/-- The text as a string. -/
def toString (t : Text) : String := String.ofList t

end Text

/-- Order of texts by their scalar values, which is also the order of their UTF-8 bytes. -/
def Text.before : Text → Text → Bool
  | _, [] => false
  | [], _ :: _ => true
  | a :: s, b :: t => if a = b then Text.before s t else a.toNat < b.toNat

/-- The decimal digits of a number, as a text. -/
def natText (n : Nat) : Text := Nat.toDigits 10 n

/-- The value of a decimal digit. -/
def digitValue (c : Char) : Nat := c.toNat - 48

/-- The number that decimal digits write. -/
def natOfDigits (digits : Text) : Nat := digits.foldl (fun n c => n * 10 + digitValue c) 0

end ExprGate
