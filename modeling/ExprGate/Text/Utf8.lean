import ExprGate.Text.Basic

/-!
# UTF-8

Bytes as texts. Decoding runs through the bytes once and gives a character for every well-formed
sequence and a gap for every malformed one. A malformed sequence is as long as possible: it ends
before the first byte that no continuation of it could have. Strict reading refuses gaps, lossy
reading puts the replacement character in their place.
-/

namespace ExprGate.Utf8

/-- The first bytes of a character whose last bytes have not been read yet. -/
structure Unfinished where
  /-- The value of the bits read so far. -/
  bits : Nat
  /-- The number of bytes that are missing, less one. -/
  later : Nat
  /-- The least byte that may come next. -/
  low : Nat
  /-- The greatest byte that may come next. -/
  high : Nat

/-- What is known after one more byte. -/
inductive Step
  /-- The byte completes a character. -/
  | complete (c : Char)
  /-- The byte belongs to a character that goes on. -/
  | goesOn (u : Unfinished)
  /-- No character starts with the byte. -/
  | malformed

/-- The step of a byte that starts a character. The second byte is restricted where it would
otherwise give a needlessly long form, half of a surrogate pair or too large a value. -/
def first (b : Nat) : Step :=
  if b < 0x80 then .complete (Char.ofNat b)
  else if b < 0xC2 then .malformed
  else if b < 0xE0 then .goesOn ⟨b - 0xC0, 0, 0x80, 0xBF⟩
  else if b = 0xE0 then .goesOn ⟨0, 1, 0xA0, 0xBF⟩
  else if b = 0xED then .goesOn ⟨0xD, 1, 0x80, 0x9F⟩
  else if b < 0xF0 then .goesOn ⟨b - 0xE0, 1, 0x80, 0xBF⟩
  else if b = 0xF0 then .goesOn ⟨0, 2, 0x90, 0xBF⟩
  else if b < 0xF4 then .goesOn ⟨b - 0xF0, 2, 0x80, 0xBF⟩
  else if b = 0xF4 then .goesOn ⟨4, 2, 0x80, 0x8F⟩
  else .malformed

/-- The step of a byte that continues a character. -/
def next (u : Unfinished) (b : Nat) : Step :=
  if u.low ≤ b ∧ b ≤ u.high then
    let bits := u.bits * 64 + (b - 0x80)
    match u.later with
    | 0 => .complete (Char.ofNat bits)
    | later + 1 => .goesOn ⟨bits, later, 0x80, 0xBF⟩
  else .malformed

/-- The characters that bytes encode, with a gap for every malformed sequence, after the given
beginning of a character. -/
def decodeFrom : Option Unfinished → List UInt8 → List (Option Char)
  | none, [] => []
  | some _, [] => [none]
  | none, b :: bytes =>
    match first b.toNat with
    | .complete c => some c :: decodeFrom none bytes
    | .goesOn u => decodeFrom (some u) bytes
    | .malformed => none :: decodeFrom none bytes
  | some u, b :: bytes =>
    match next u b.toNat with
    | .complete c => some c :: decodeFrom none bytes
    | .goesOn u => decodeFrom (some u) bytes
    | .malformed =>
      match first b.toNat with
      | .complete c => none :: some c :: decodeFrom none bytes
      | .goesOn u => none :: decodeFrom (some u) bytes
      | .malformed => none :: none :: decodeFrom none bytes

/-- The text that bytes encode, if they are well-formed. -/
def decode? (bytes : List UInt8) : Option Text := (decodeFrom none bytes).mapM id

/-- The text that bytes encode, with U+FFFD for every malformed sequence. -/
def decodeLossy (bytes : List UInt8) : Text :=
  (decodeFrom none bytes).map fun c => c.getD '\ufffd'

/-- The bytes of a text. -/
def encode (t : Text) : List UInt8 := t.flatMap String.utf8EncodeChar

end ExprGate.Utf8
