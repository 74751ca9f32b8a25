import ExprGate.Rejection

/-!
# Sanitized input

The first stage of admission: the bound on the length of the raw input, the removal of control
characters, and the removal of surrounding blanks.
-/

namespace ExprGate

/-- The control characters that are stripped. Tab, line feed and carriage return are kept, since
they are blanks; other than at the ends of the input, they survive. -/
def isStrippedControl (c : Char) : Bool :=
  let n := c.toNat
  n ≤ 0x08 || n == 0x0B || n == 0x0C || (0x0E ≤ n && n ≤ 0x1F) || (0x7F ≤ n && n ≤ 0x9F)

/-- Rejects an input of more than `bound` characters. They are counted only where the bytes, which
are at least as many, are more than the bound. -/
def checkLength (raw : Text) (bound : Nat) : Except Rejection Unit :=
  ensure (Text.utf8Length raw ≤ bound || raw.length ≤ bound) (.tooLong bound)

/-- The characters decide, whatever the bytes are. -/
theorem checkLength_eq (raw : Text) (bound : Nat) :
    checkLength raw bound = ensure (raw.length ≤ bound) (.tooLong bound) := by
  have hbytes : Text.utf8Length raw ≤ bound → raw.length ≤ bound :=
    Nat.le_trans (Text.length_le_utf8Length raw)
  rw [checkLength, ← Bool.decide_or, decide_eq_decide.mpr (or_iff_right_of_imp hbytes)]

/-- The input without control characters and without surrounding blanks. -/
def sanitize (raw : Text) : Text := Text.trim (raw.filter fun c => !isStrippedControl c)

/-- Bounds the raw input, sanitizes it, and rejects it when nothing is left. -/
def sanitizeBounded (raw : Text) (bound : Nat) : Except Rejection Text := do
  checkLength raw bound
  ensure (!(sanitize raw).isEmpty) (.empty .phrase)
  return sanitize raw

end ExprGate
