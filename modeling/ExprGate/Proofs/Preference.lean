import ExprGate.Proofs.Operands

/-!
# The preferred match

Of all the places where a match can end, matching takes the first one. A run prefers to be as long
as possible, and so does a decimal literal. Hence a pattern that closes with an operand takes as its
last operand the longest decimal literal that begins where that operand begins.
-/

namespace ExprGate

/-- The farthest station is behind the whole run of characters of the set. -/
theorem Place.getLast?_stations (set : CharSet) (operands : List Stretch) (behind ahead : Text) :
    (Place.stations set operands behind ahead).getLast? =
      some ⟨(ahead.takeWhile set.accepts).reverse ++ behind, ahead.dropWhile set.accepts,
        operands⟩ := by
  induction ahead generalizing behind with
  | nil => rfl
  | cons c rest ih =>
    by_cases hc : set.accepts c = true
    · rw [Place.stations, if_pos hc, List.getLast?_cons, ih]
      simp [hc]
    · rw [Place.stations, if_neg hc]
      simp [hc]

/-- A run prefers to pass over all characters of the set that come next. -/
theorem Place.head?_sweep (set : CharSet) (s : Place) :
    (s.sweep set).head? = some ⟨(s.ahead.takeWhile set.accepts).reverse ++ s.behind,
      s.ahead.dropWhile set.accepts, s.operands⟩ := by
  rw [Place.sweep, List.head?_reverse, Place.getLast?_stations]

namespace Pattern

variable {p q : Pattern} {s e mid : Place} {behind ahead text : Text} {m : Match}

/-- The preferred end of two patterns in a row is that of the second one after some end of the
first. -/
theorem exists_mid_of_head?_ends_seq (h : ((seq p q).ends s).head? = some e) :
    ∃ mid ∈ p.ends s, (q.ends mid).head? = some e := by
  rw [ends, List.head?_flatMap] at h
  exact List.exists_of_findSome?_eq_some h

/-- If the second of two patterns can go on from the preferred end of the first one, it does. -/
theorem head?_ends_seq (hmid : (p.ends s).head? = some mid) (he : q.ends mid ≠ []) :
    ((seq p q).ends s).head? = (q.ends mid).head? := by
  obtain ⟨rest, hrest⟩ := List.head?_eq_some_iff.mp hmid
  rw [ends, hrest, List.flatMap_cons, List.head?_append_of_ne_nil _ he]

/-- No end lies before the start. -/
theorem length_ahead_le_of_mem_ends (h : e ∈ p.ends s) : e.ahead.length ≤ s.ahead.length := by
  obtain ⟨m, _, hpasses, _⟩ := reads_of_mem_ends h
  exact hpasses.ahead_suffix.length_le

/-- The leftmost match comes first in the list of all matches. -/
theorem head?_findAll : (p.findAll text).head? = p.find text := by
  rw [findAll, searchAll, find]
  cases p.search [] text with
  | none => rfl
  | some m =>
    dsimp only
    split <;> rfl

/-- A match at a place has the text behind the place before it. -/
theorem before_of_matchAt (h : p.matchAt behind ahead = some m) : m.before = behind.reverse := by
  obtain ⟨e, _, rfl⟩ := Option.map_eq_some_iff.mp h
  rfl

/-- A pattern that can be matched right away has its leftmost match there. -/
theorem search_of_matchAt (h : p.matchAt behind ahead = some m) :
    p.search behind ahead = some m := by
  cases ahead with
  | nil => exact h
  | cons c rest => rw [search, h]

/-- The leftmost match is the one at its place. -/
theorem matchAt_of_search (h : p.search behind ahead = some m) :
    p.matchAt m.before.reverse (m.matched ++ m.after) = some m := by
  have hplace {behind ahead : Text} (h : p.matchAt behind ahead = some m) :
      p.matchAt m.before.reverse (m.matched ++ m.after) = some m := by
    have htext := (readIn_of_matchAt h).text_eq
    rw [before_of_matchAt h, List.append_assoc] at htext
    rw [before_of_matchAt h, List.reverse_reverse, ← List.append_cancel_left htext]
    exact h
  induction ahead generalizing behind with
  | nil => exact hplace h
  | cons c rest ih =>
    rw [search] at h
    cases hfirst : p.matchAt behind (c :: rest) with
    | some first =>
      rw [hfirst] at h
      exact hplace (Option.some.inj h ▸ hfirst)
    | none =>
      rw [hfirst] at h
      exact ih h

/-- The leftmost match is the preferred one of those that start at its place. -/
theorem exists_preferred_of_search (h : p.search behind ahead = some m) :
    ∃ s e, (p.ends s).head? = some e ∧ m = Match.between s e := by
  obtain ⟨e, he, hm⟩ := Option.map_eq_some_iff.mp (matchAt_of_search h)
  exact ⟨_, e, he, hm.symm⟩

/-- Where a pattern reads a part of a text, it has a match in the text. -/
theorem exists_find_of_reads {p : Pattern} {before m after : Text} {operands : List Text}
    (h : p.Reads before.reverse m after operands) :
    ∃ found, p.find (before ++ m ++ after) = some found := by
  have hoccurs : p.occursIn (before ++ m ++ after) = true :=
    occursIn_iff_reads.mpr ⟨before, m, after, operands, rfl, h⟩
  exact Option.isSome_iff_exists.mp hoccurs

/-- Where a match can start at the beginning of a text, the leftmost match does. -/
theorem before_eq_nil_of_find (h : p.find text = some m) (he : e ∈ p.ends ⟨[], text, []⟩) :
    m.before = [] := by
  have hhere : (p.matchAt [] text).isSome = true := (matchAt_isSome_iff p [] text).mpr ⟨e, he⟩
  obtain ⟨first, hfirst⟩ := Option.isSome_iff_exists.mp hhere
  have hfind : p.find text = some first := search_of_matchAt hfirst
  rw [hfind] at h
  exact Option.some.inj h ▸ before_of_matchAt hfirst

end Pattern

namespace TranslationRule

open Pattern

variable {s e : Place}

/-- Digits prefer to pass over all digits that come next. -/
theorem head?_ends_digits (h : s.ahead.head?.any Char.isDigit = true) :
    (digits.ends s).head? = some ⟨(s.ahead.takeWhile Char.isDigit).reverse ++ s.behind,
      s.ahead.dropWhile Char.isDigit, s.operands⟩ := by
  obtain ⟨behind, ahead, operands⟩ := s
  cases ahead with
  | nil => exact absurd h Bool.false_ne_true
  | cons c rest =>
    have hc : c.isDigit = true := h
    have hstep : ((one .digit).ends ⟨behind, c :: rest, operands⟩).head? =
        some ⟨c :: behind, rest, operands⟩ := by
      simp [ends, Place.step, CharSet.accepts, hc]
    have hsweep : ((many .digit).ends ⟨c :: behind, rest, operands⟩).head? = some
        ⟨(rest.takeWhile Char.isDigit).reverse ++ c :: behind, rest.dropWhile Char.isDigit,
          operands⟩ := Place.head?_sweep .digit _
    rw [digits, atLeastOne,
      head?_ends_seq hstep (List.ne_nil_of_mem (List.mem_of_head? hsweep)), hsweep]
    simp [hc]

/-- A point with digits after it, or nothing. -/
private def fractionPart : Pattern := optionally (seq (Pattern.char '.') digits)

/-- The preferred decimal literal ends at the preferred end of what can follow all the digits that
come next. -/
private theorem head?_fractionPart_of_head?_decimal (h : (decimal.ends s).head? = some e)
    (hs : s.ahead.head?.any Char.isDigit = true) :
    ∃ behind operands last, (fractionPart.ends
      ⟨behind, s.ahead.dropWhile Char.isDigit, operands⟩).head? = some last ∧
      last.ahead = e.ahead := by
  have hne (mid : Place) : fractionPart.ends mid ≠ [] := by simp [fractionPart, optionally, ends]
  change (((seq digits fractionPart).ends s).map s.record).head? = some e at h
  rw [List.head?_map, head?_ends_seq (head?_ends_digits hs) (hne _)] at h
  obtain ⟨last, hlast, rfl⟩ := Option.map_eq_some_iff.mp h
  exact ⟨_, _, last, hlast, rfl⟩

/-- A point that digits follow is passed over together with all of them. -/
private theorem ahead_of_head?_fractionPart {behind after : Text} {operands : List Stretch}
    (h : (fractionPart.ends ⟨behind, '.' :: after, operands⟩).head? = some e)
    (hafter : after.head?.any Char.isDigit = true) : e.ahead = after.dropWhile Char.isDigit := by
  have hpoint : ((Pattern.char '.').ends ⟨behind, '.' :: after, operands⟩).head? =
      some ⟨'.' :: behind, after, operands⟩ := by rfl
  have hdigits := head?_ends_digits (s := ⟨'.' :: behind, after, operands⟩) hafter
  have hseq := head?_ends_seq hpoint (List.ne_nil_of_mem (List.mem_of_head? hdigits))
  have hfirst := hseq.trans hdigits
  rw [fractionPart, optionally, ends,
    List.head?_append_of_ne_nil _ (List.ne_nil_of_mem (List.mem_of_head? hfirst)), hfirst] at h
  exact (Option.some.inj h) ▸ rfl

/-- A numeral begins with a digit, whatever follows it. -/
theorem head?_append_of_isNumeral {n : Text} (hn : IsNumeral n) (rest : Text) :
    (n ++ rest).head?.any Char.isDigit = true := by
  obtain ⟨c, digits, rfl⟩ := List.exists_cons_of_ne_nil hn.1
  exact hn.2 c List.mem_cons_self

/-- The decimal literal that is preferred is at least as long as any that begins at its place. -/
theorem length_ahead_le_of_head?_decimal (h : (decimal.ends s).head? = some e)
    {n rest : Text} (hn : IsDecimalLiteral n) (hs : s.ahead = n ++ rest) :
    e.ahead.length ≤ rest.length := by
  have hdigit : s.ahead.head?.any Char.isDigit = true := by
    obtain ⟨digit, others, rfl, hdigit⟩ := hn.exists_first_digit
    rw [hs]
    exact hdigit
  obtain ⟨whole, hwhole, hcases⟩ := hn
  obtain ⟨behind, operands, last, hlast, hahead⟩ := head?_fractionPart_of_head?_decimal h hdigit
  rw [← hahead]
  rw [hs] at hlast
  rcases hcases with rfl | ⟨fraction, hfraction, rfl⟩
  · have hle := length_ahead_le_of_mem_ends (List.mem_of_head? hlast)
    rw [List.dropWhile_append_of_pos hwhole.2] at hle
    exact hle.trans (List.dropWhile_suffix _).length_le
  · have hrest : (whole ++ '.' :: fraction ++ rest).dropWhile Char.isDigit =
        '.' :: (fraction ++ rest) := by
      rw [List.append_assoc, List.dropWhile_append_of_pos hwhole.2]
      rfl
    rw [hrest] at hlast
    rw [ahead_of_head?_fractionPart hlast (head?_append_of_isNumeral hfraction rest),
      List.dropWhile_append_of_pos hfraction.2]
    exact (List.dropWhile_suffix _).length_le

end TranslationRule

namespace Pattern

/-- Whether a decimal literal is the last part of every text that the pattern reads. -/
def endsWithDecimal : Pattern → Bool
  | seq p q => q.endsWithDecimal || q == nothing && p.endsWithDecimal
  | operand p => operand p == TranslationRule.decimal
  | _ => false

/-- The preferred match of a pattern that ends with a decimal literal has a last operand that ends
where the match does, and that goes on as far as a decimal literal can. -/
theorem exists_last_operand_of_head?_ends {p : Pattern} {s e : Place}
    (hp : p.endsWithDecimal = true) (h : (p.ends s).head? = some e) :
    ∃ recorded last, e.operands = recorded ++ [last] ∧ last.last = e.ahead ∧
      IsDecimalLiteral last.text ∧
      ∀ more rest, e.ahead = more ++ rest → IsDecimalLiteral (last.text ++ more) → more = [] := by
  induction p generalizing s e with
  | never | nothing | boundary | one _ | many _ | either _ _ => exact absurd hp Bool.false_ne_true
  | seq p q ihp ihq =>
    simp only [endsWithDecimal, Bool.or_eq_true, Bool.and_eq_true, beq_iff_eq] at hp
    rcases hp with hq | ⟨rfl, hp⟩
    · obtain ⟨mid, _, hlast⟩ := exists_mid_of_head?_ends_seq h
      exact ihq hq hlast
    · have hends : (seq p nothing).ends s = p.ends s := List.flatMap_singleton' _
      exact ihp hp (hends ▸ h)
  | operand p =>
    have hdecimal : operand p = TranslationRule.decimal := beq_iff_eq.mp hp
    obtain ⟨m, _, hpasses, _, hreads⟩ := reads_of_mem_ends (List.mem_of_head? h)
    have hliteral := (TranslationRule.isDecimalLiteral_of_reads (hdecimal ▸ hreads)).1
    obtain ⟨last, _, rfl⟩ := mem_ends_operand.mp (List.mem_of_head? h)
    have htext : (s.stretchTo last).text = m := hpasses.text_stretchTo
    refine ⟨last.operands, s.stretchTo last, rfl, rfl, htext ▸ hliteral,
      fun more rest hrest hlonger => ?_⟩
    rw [htext] at hlonger
    have hahead : s.ahead = m ++ more ++ rest := by
      rw [hpasses.1, List.append_assoc]
      exact congrArg (m ++ ·) hrest
    have hle := TranslationRule.length_ahead_le_of_head?_decimal (hdecimal ▸ h) hlonger hahead
    rw [hrest, List.length_append] at hle
    exact List.eq_nil_of_length_eq_zero (by omega)

/-- The leftmost match of a pattern that ends with a decimal literal has a last operand that goes on
as far as a decimal literal can. -/
theorem exists_last_operand_of_find {p : Pattern} {text : Text} {m : Match}
    (hp : p.endsWithDecimal = true) (h : p.find text = some m) :
    ∃ operands n, m.operands = operands ++ [n] ∧
      ∀ more rest, m.after = more ++ rest → IsDecimalLiteral (n ++ more) → more = [] := by
  obtain ⟨s, e, he, rfl⟩ := exists_preferred_of_search h
  obtain ⟨recorded, last, hoperands, _, _, hlongest⟩ := exists_last_operand_of_head?_ends hp he
  refine ⟨recorded.map Stretch.text, last.text, ?_, hlongest⟩
  rw [Match.between, hoperands, List.map_append, List.map_singleton]

end Pattern

/-- The leftmost match of a rule is the one taken, unless it is disqualified. -/
theorem TranslationRule.firstMatch_of_find {rule : TranslationRule} {text : Text} {m : Match}
    (h : rule.pattern.find text = some m) (hqualified : rule.disqualifies m = false) :
    rule.firstMatch text = some m := by
  obtain ⟨later, hall⟩ := List.head?_eq_some_iff.mp (Pattern.head?_findAll.trans h)
  rw [firstMatch, hall, List.find?_cons_of_pos (by simp [hqualified])]

end ExprGate
