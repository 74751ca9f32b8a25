import ExprGate.Text.Utf8

/-!
# Decoding what was encoded

The bytes of a text are decoded to the text again, both strictly and leniently: every character is
encoded by the one sequence of bytes that the decoder takes for it, without a gap. Conversely, bytes
that are decoded without a gap are those of a text, so strict decoding accepts nothing else.
-/

namespace ExprGate.Utf8

/-- A number below 256 is kept in a byte. -/
private theorem toNat_ofNat_byte {n : Nat} (h : n < 256) : (UInt8.ofNat n).toNat = n := by
  rw [UInt8.toNat_ofNat', Nat.mod_eq_of_lt (by omega)]

section Later

variable {bits later low high n : Nat} {bytes : List UInt8}
  (h : low ≤ n % 64 + 128 ∧ n % 64 + 128 ≤ high)
include h

/-- A byte in the expected range contributes its six bits. -/
private theorem next_of_expected :
    next ⟨bits, later, low, high⟩ (UInt8.ofNat (n % 64 + 128)).toNat =
    match later with
    | 0 => .complete (Char.ofNat (bits * 64 + n % 64))
    | later + 1 => .goesOn ⟨bits * 64 + n % 64, later, 0x80, 0xBF⟩ := by
  have hbits : n % 64 + 128 - 0x80 = n % 64 := by omega
  rw [toNat_ofNat_byte (by omega)]
  cases later <;> simp only [next, if_pos h, hbits]

/-- The last byte of a character completes it. -/
theorem decodeFrom_last :
    decodeFrom (some ⟨bits, 0, low, high⟩) (UInt8.ofNat (n % 64 + 128) :: bytes) =
      some (Char.ofNat (bits * 64 + n % 64)) :: decodeFrom none bytes := by
  rw [decodeFrom, next_of_expected h]

/-- A byte before the last one of a character adds to it. -/
theorem decodeFrom_later :
    decodeFrom (some ⟨bits, later + 1, low, high⟩) (UInt8.ofNat (n % 64 + 128) :: bytes) =
      decodeFrom (some ⟨bits * 64 + n % 64, later, 0x80, 0xBF⟩) bytes := by
  rw [decodeFrom, next_of_expected h]

end Later

/-- The first of two bytes. -/
theorem first_of_two {b : Nat} (h : 0xC2 ≤ b ∧ b < 0xE0) :
    first b = .goesOn ⟨b - 0xC0, 0, 0x80, 0xBF⟩ := by
  rw [first, if_neg (by omega), if_neg (by omega), if_pos h.2]

/-- The first of three bytes. The byte after it is restricted so that two bytes would not do, and
so that no half of a surrogate pair comes about. -/
theorem first_of_three {b : Nat} (h : 0xE0 ≤ b ∧ b < 0xF0) : first b = .goesOn
    ⟨b - 0xE0, 1, if b = 0xE0 then 0xA0 else 0x80, if b = 0xED then 0x9F else 0xBF⟩ := by
  rw [first, if_neg (by omega), if_neg (by omega), if_neg (by omega)]
  by_cases hlow : b = 0xE0
  · subst hlow
    rfl
  · rw [if_neg hlow]
    by_cases hhigh : b = 0xED
    · subst hhigh
      rfl
    · rw [if_neg hhigh, if_pos h.2, if_neg hlow, if_neg hhigh]

/-- The first of four bytes. The byte after it is restricted so that three bytes would not do, and
so that the character is not beyond the last one. -/
theorem first_of_four {b : Nat} (h : 0xF0 ≤ b ∧ b ≤ 0xF4) : first b = .goesOn
    ⟨b - 0xF0, 2, if b = 0xF0 then 0x90 else 0x80, if b = 0xF4 then 0x8F else 0xBF⟩ := by
  rw [first, if_neg (by omega), if_neg (by omega), if_neg (by omega), if_neg (by omega),
    if_neg (by omega), if_neg (by omega)]
  by_cases hlow : b = 0xF0
  · subst hlow
    rfl
  · rw [if_neg hlow]
    by_cases hhigh : b = 0xF4
    · subst hhigh
      rfl
    · rw [if_pos (by omega), if_neg hlow, if_neg hhigh]

/-- A byte that starts a character begins it. -/
theorem decodeFrom_first {n : Nat} {u : Unfinished} {bytes : List UInt8} (hn : n < 256)
    (h : first n = .goesOn u) :
    decodeFrom none (UInt8.ofNat n :: bytes) = decodeFrom (some u) bytes := by
  rw [decodeFrom, toNat_ofNat_byte hn, h]

/-- Decoding reads the bytes of a character as that character, and goes on behind them. -/
theorem decodeFrom_utf8EncodeChar (c : Char) (bytes : List UInt8) :
    decodeFrom none (String.utf8EncodeChar c ++ bytes) = some c :: decodeFrom none bytes := by
  have hvalid : c.val.toNat < 0xD800 ∨ 0xDFFF < c.val.toNat ∧ c.val.toNat < 0x110000 := c.valid
  have hchar : Char.ofNat c.val.toNat = c := Char.ofNat_toNat c
  rw [String.utf8EncodeChar]
  generalize c.val.toNat = v at hvalid hchar
  by_cases hone : v ≤ 127
  · have hfirst : first v = .complete (Char.ofNat v) := by rw [first, if_pos (by omega)]
    rw [if_pos hone, List.singleton_append, decodeFrom, toNat_ofNat_byte (by omega), hfirst, hchar]
  by_cases htwo : v ≤ 2047
  · have hv : (v / 64 % 32 + 192 - 0xC0) * 64 + v % 64 = v := by omega
    rw [if_neg hone, if_pos htwo, List.cons_append, List.cons_append, List.nil_append,
      decodeFrom_first (by omega) (first_of_two (by omega)), decodeFrom_last (by omega), hv, hchar]
  by_cases hthree : v ≤ 65535
  · have hv : ((v / 4096 % 16 + 224 - 0xE0) * 64 + v / 64 % 64) * 64 + v % 64 = v := by omega
    rw [if_neg hone, if_neg htwo, if_pos hthree, List.cons_append, List.cons_append,
      List.cons_append, List.nil_append, decodeFrom_first (by omega) (first_of_three (by omega)),
      decodeFrom_later (by constructor <;> split <;> omega), decodeFrom_last (by omega), hv, hchar]
  · have hv : (((v / 262144 % 8 + 240 - 0xF0) * 64 + v / 4096 % 64) * 64 + v / 64 % 64) * 64 +
        v % 64 = v := by omega
    rw [if_neg hone, if_neg htwo, if_neg hthree, List.cons_append, List.cons_append,
      List.cons_append, List.cons_append, List.nil_append,
      decodeFrom_first (by omega) (first_of_four (by omega)),
      decodeFrom_later (by constructor <;> split <;> omega), decodeFrom_later (by omega),
      decodeFrom_last (by omega), hv, hchar]

/-- The bytes of a text are decoded to the characters of the text, without any gap. -/
theorem decodeFrom_encode (t : Text) : decodeFrom none (encode t) = t.map some := by
  induction t with
  | nil => rfl
  | cons c t ih =>
    have hsplit : encode (c :: t) = String.utf8EncodeChar c ++ encode t := List.flatMap_cons
    rw [hsplit, decodeFrom_utf8EncodeChar, ih, List.map_cons]

/-- Lossy decoding loses nothing of what was encoded. -/
theorem decodeLossy_encode (t : Text) : decodeLossy (encode t) = t := by
  rw [decodeLossy, decodeFrom_encode, List.map_map]
  exact List.map_id t

/-! ## What is decoded without a gap was encoded -/

section WithoutGap

variable {b : UInt8} {bytes : List UInt8}

/-- The bytes of the character with a given number. -/
private theorem utf8EncodeChar_ofNat {v : Nat} (hv : v.isValidChar) :
    String.utf8EncodeChar (Char.ofNat v) =
      if v ≤ 127 then [UInt8.ofNat v]
      else if v ≤ 2047 then [UInt8.ofNat (v / 64 % 32 + 192), UInt8.ofNat (v % 64 + 128)]
      else if v ≤ 65535 then
        [UInt8.ofNat (v / 4096 % 16 + 224), UInt8.ofNat (v / 64 % 64 + 128),
          UInt8.ofNat (v % 64 + 128)]
      else
        [UInt8.ofNat (v / 262144 % 8 + 240), UInt8.ofNat (v / 4096 % 64 + 128),
          UInt8.ofNat (v / 64 % 64 + 128), UInt8.ofNat (v % 64 + 128)] := by
  have hchar : (Char.ofNat v).val.toNat = v := by
    rw [Char.ofNat, dif_pos hv]
    rfl
  rw [String.utf8EncodeChar, hchar]

/-- Where no gap is read, a character that is not complete goes on with one of the bytes that may
come next, and if more bytes are missing, no gap is read behind that one either. -/
private theorem exists_next_byte {u : Unfinished} (h : none ∉ decodeFrom (some u) bytes) :
    ∃ b rest, bytes = b :: rest ∧ (u.low ≤ b.toNat ∧ b.toNat ≤ u.high) ∧
      ∀ later, u.later = later + 1 →
        none ∉ decodeFrom (some ⟨u.bits * 64 + (b.toNat - 0x80), later, 0x80, 0xBF⟩) rest := by
  cases bytes with
  | nil => simp [decodeFrom] at h
  | cons b rest =>
    by_cases hb : u.low ≤ b.toNat ∧ b.toNat ≤ u.high
    · refine ⟨b, rest, rfl, hb, fun later hlater => ?_⟩
      have hnext : next u b.toNat =
          .goesOn ⟨u.bits * 64 + (b.toNat - 0x80), later, 0x80, 0xBF⟩ := by
        simp only [next, if_pos hb, hlater]
      rwa [decodeFrom, hnext] at h
    · have hnext : next u b.toNat = .malformed := if_neg hb
      rw [decodeFrom, hnext] at h
      dsimp only at h
      split at h
      all_goals simp at h

/-- A byte that can start two bytes starts those of a character. -/
private theorem exists_character_of_two (hb : 0xC2 ≤ b.toNat ∧ b.toNat < 0xE0)
    (h : none ∉ decodeFrom none (b :: bytes)) :
    ∃ c rest, b :: bytes = String.utf8EncodeChar c ++ rest := by
  rw [decodeFrom, first_of_two hb] at h
  obtain ⟨b₁, rest, rfl, h₁, -⟩ := exists_next_byte h
  dsimp only at h₁
  refine ⟨Char.ofNat ((b.toNat - 0xC0) * 64 + (b₁.toNat - 0x80)), rest, ?_⟩
  generalize hv : (b.toNat - 0xC0) * 64 + (b₁.toNat - 0x80) = v
  have hdigits : v / 64 % 32 + 192 = b.toNat ∧ v % 64 + 128 = b₁.toNat := by omega
  rw [utf8EncodeChar_ofNat (.inl (by omega)), if_neg (by omega), if_pos (by omega), hdigits.1,
    hdigits.2, UInt8.ofNat_toNat, UInt8.ofNat_toNat]
  rfl

/-- A byte that can start three bytes starts those of a character. -/
private theorem exists_character_of_three (hb : 0xE0 ≤ b.toNat ∧ b.toNat < 0xF0)
    (h : none ∉ decodeFrom none (b :: bytes)) :
    ∃ c rest, b :: bytes = String.utf8EncodeChar c ++ rest := by
  rw [decodeFrom, first_of_three hb] at h
  obtain ⟨b₁, _, rfl, h₁, h⟩ := exists_next_byte h
  obtain ⟨b₂, rest, rfl, h₂, -⟩ := exists_next_byte (h 0 rfl)
  have hsecond : (0x80 ≤ b₁.toNat ∧ b₁.toNat ≤ 0xBF) ∧ (b.toNat = 0xE0 → 0xA0 ≤ b₁.toNat) ∧
      (b.toNat = 0xED → b₁.toNat ≤ 0x9F) := by
    dsimp only at h₁
    split at h₁ <;> split at h₁ <;> omega
  dsimp only at h₂
  refine ⟨Char.ofNat (((b.toNat - 0xE0) * 64 + (b₁.toNat - 0x80)) * 64 + (b₂.toNat - 0x80)),
    rest, ?_⟩
  generalize hv : ((b.toNat - 0xE0) * 64 + (b₁.toNat - 0x80)) * 64 + (b₂.toNat - 0x80) = v
  have hvalid : v.isValidChar := by
    unfold Nat.isValidChar
    omega
  have hdigits : v / 4096 % 16 + 224 = b.toNat ∧ v / 64 % 64 + 128 = b₁.toNat ∧
      v % 64 + 128 = b₂.toNat := by omega
  rw [utf8EncodeChar_ofNat hvalid, if_neg (by omega), if_neg (by omega), if_pos (by omega),
    hdigits.1, hdigits.2.1, hdigits.2.2, UInt8.ofNat_toNat, UInt8.ofNat_toNat, UInt8.ofNat_toNat]
  rfl

/-- A byte that can start four bytes starts those of a character. -/
private theorem exists_character_of_four (hb : 0xF0 ≤ b.toNat ∧ b.toNat ≤ 0xF4)
    (h : none ∉ decodeFrom none (b :: bytes)) :
    ∃ c rest, b :: bytes = String.utf8EncodeChar c ++ rest := by
  rw [decodeFrom, first_of_four hb] at h
  obtain ⟨b₁, _, rfl, h₁, h⟩ := exists_next_byte h
  obtain ⟨b₂, _, rfl, h₂, h⟩ := exists_next_byte (h 1 rfl)
  obtain ⟨b₃, rest, rfl, h₃, -⟩ := exists_next_byte (h 0 rfl)
  have hsecond : (0x80 ≤ b₁.toNat ∧ b₁.toNat ≤ 0xBF) ∧ (b.toNat = 0xF0 → 0x90 ≤ b₁.toNat) ∧
      (b.toNat = 0xF4 → b₁.toNat ≤ 0x8F) := by
    dsimp only at h₁
    split at h₁ <;> split at h₁ <;> omega
  dsimp only at h₂ h₃
  refine ⟨Char.ofNat ((((b.toNat - 0xF0) * 64 + (b₁.toNat - 0x80)) * 64 + (b₂.toNat - 0x80)) * 64 +
    (b₃.toNat - 0x80)), rest, ?_⟩
  generalize hv : (((b.toNat - 0xF0) * 64 + (b₁.toNat - 0x80)) * 64 + (b₂.toNat - 0x80)) * 64 +
    (b₃.toNat - 0x80) = v
  have hvalid : v.isValidChar := .inr (by omega)
  have hdigits : v / 262144 % 8 + 240 = b.toNat ∧ v / 4096 % 64 + 128 = b₁.toNat ∧
      v / 64 % 64 + 128 = b₂.toNat ∧ v % 64 + 128 = b₃.toNat := by omega
  rw [utf8EncodeChar_ofNat hvalid, if_neg (by omega), if_neg (by omega), if_neg (by omega),
    hdigits.1, hdigits.2.1, hdigits.2.2.1, hdigits.2.2.2, UInt8.ofNat_toNat, UInt8.ofNat_toNat,
    UInt8.ofNat_toNat, UInt8.ofNat_toNat]
  rfl

/-- No other byte starts more than one byte. -/
private theorem first_of_malformed {b : Nat} (h : 0x80 ≤ b ∧ b < 0xC2 ∨ 0xF4 < b) :
    first b = .malformed := by
  rw [first, if_neg (by omega)]
  rcases h with hlow | hhigh
  · rw [if_pos hlow.2]
  · iterate 8 rw [if_neg (by omega)]

/-- Where no gap is read and there is a byte at all, the first bytes are those of a character. -/
private theorem exists_first_character (h : none ∉ decodeFrom none (b :: bytes)) :
    ∃ c rest, b :: bytes = String.utf8EncodeChar c ++ rest := by
  by_cases hone : b.toNat < 0x80
  · refine ⟨Char.ofNat b.toNat, bytes, ?_⟩
    rw [utf8EncodeChar_ofNat (.inl (by omega)), if_pos (by omega), UInt8.ofNat_toNat]
    rfl
  by_cases htwo : 0xC2 ≤ b.toNat ∧ b.toNat < 0xE0
  · exact exists_character_of_two htwo h
  by_cases hthree : 0xE0 ≤ b.toNat ∧ b.toNat < 0xF0
  · exact exists_character_of_three hthree h
  by_cases hfour : 0xF0 ≤ b.toNat ∧ b.toNat ≤ 0xF4
  · exact exists_character_of_four hfour h
  · rw [decodeFrom, first_of_malformed (by omega)] at h
    simp at h

/-- Bytes in which no gap is read are those of a text. -/
theorem exists_eq_encode (h : none ∉ decodeFrom none bytes) : ∃ t, bytes = encode t := by
  -- A character takes at least one byte, so the bytes behind the first one are fewer.
  induction hlength : bytes.length using Nat.strongRecOn generalizing bytes with
  | _ n ih =>
    cases bytes with
    | nil => exact ⟨[], rfl⟩
    | cons b bytes =>
      obtain ⟨c, rest, hsplit⟩ := exists_first_character h
      rw [hsplit, decodeFrom_utf8EncodeChar] at h
      have hshorter : rest.length < n := by
        have hpos : 0 < (String.utf8EncodeChar c).length := by
          rw [String.length_utf8EncodeChar]
          exact Char.utf8Size_pos c
        rw [← hlength, hsplit, List.length_append]
        omega
      obtain ⟨t, rfl⟩ := ih _ hshorter (fun hgap => h (List.mem_cons_of_mem _ hgap)) rfl
      exact ⟨c :: t, hsplit.trans List.flatMap_cons.symm⟩

/-- A list whose items are all there is the list of these. -/
private theorem mapM_id_eq_some_iff {l : List (Option Char)} {t : Text} :
    l.mapM id = some t ↔ l = t.map some := by
  induction l generalizing t with
  | nil => cases t <;> simp
  | cons c l ih =>
    cases c with
    | none => cases t <;> simp
    | some c =>
      cases t with
      | nil => simp [Option.bind_eq_some_iff]
      | cons d t => simpa [Option.bind_eq_some_iff, ih] using and_comm

/-- Strict decoding accepts exactly the bytes of texts, and gives the text. -/
theorem decode?_eq_some_iff {t : Text} : decode? bytes = some t ↔ bytes = encode t := by
  rw [decode?, mapM_id_eq_some_iff]
  constructor
  · intro h
    have hgap : none ∉ decodeFrom none bytes := by
      rw [h]
      simp
    obtain ⟨t', rfl⟩ := exists_eq_encode hgap
    rw [decodeFrom_encode] at h
    rw [(List.map_inj_right fun _ _ => Option.some.inj).mp h]
  · rintro rfl
    exact decodeFrom_encode t

end WithoutGap

end ExprGate.Utf8
