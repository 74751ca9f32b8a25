import ExprGate.Pattern
import Mathlib.Data.List.Infix

/-!
# Occurrences of patterns

A pattern occurs in a text when a match can end somewhere. This file relates the list of ends to the
text that a match passes over, reads off a pattern the literal characters with which its matches can
begin, and concludes that a pattern is barred from a text in which none of these beginnings occurs.
-/

namespace ExprGate

/-- `e` is the place reached from `s` by passing over the text `m`. -/
def Place.Passes (s : Place) (m : Text) (e : Place) : Prop :=
  s.ahead = m ++ e.ahead ∧ e.behind = m.reverse ++ s.behind

/-- Passing over nothing stays at the same place. -/
theorem Place.Passes.refl (s : Place) : s.Passes [] s := ⟨rfl, rfl⟩

/-- Passing over one text and then another passes over both in turn. -/
theorem Place.Passes.trans {s mid e : Place} {m n : Text} (hm : s.Passes m mid)
    (hn : mid.Passes n e) : s.Passes (m ++ n) e := by
  refine ⟨?_, ?_⟩
  · rw [hm.1, hn.1, List.append_assoc]
  · rw [hn.2, hm.2, List.reverse_append, List.append_assoc]

/-- What lies ahead of a later place is an end of what lay ahead before. -/
theorem Place.Passes.ahead_suffix {s e : Place} {m : Text} (h : s.Passes m e) :
    e.ahead <:+ s.ahead := ⟨m, h.1.symm⟩

/-- A step reaches exactly the place after the next character, if that is in the set. -/
theorem Place.mem_step_iff {set : CharSet} {s e : Place} :
    e ∈ s.step set ↔ ∃ c, set.accepts c = true ∧ s.Passes [c] e ∧ e.operands = s.operands := by
  obtain ⟨behind, ahead, operands⟩ := s
  obtain ⟨behind', ahead', operands'⟩ := e
  cases ahead with
  | nil => simp [Place.step, Place.Passes]
  | cons c rest =>
    by_cases hc : set.accepts c = true
    · simp only [Place.step, hc, if_true, List.mem_singleton, Place.mk.injEq, Place.Passes,
        List.cons_append, List.nil_append, List.cons.injEq, List.reverse_singleton]
      constructor
      · rintro ⟨rfl, rfl, rfl⟩
        exact ⟨c, hc, ⟨⟨rfl, rfl⟩, rfl⟩, rfl⟩
      · rintro ⟨d, _, ⟨⟨rfl, rfl⟩, rfl⟩, rfl⟩
        exact ⟨rfl, rfl, rfl⟩
    · simp only [Place.step, hc, Bool.false_eq_true, if_false, List.not_mem_nil, false_iff]
      rintro ⟨d, hd, ⟨hahead, _⟩, _⟩
      simp only [List.cons_append, List.nil_append, List.cons.injEq] at hahead
      rw [hahead.1] at hc
      exact hc hd

/-- A station lies behind a run of characters of the set, and records nothing. -/
theorem Place.exists_run_of_mem_stations {set : CharSet} {operands : List Stretch}
    {behind ahead : Text} {e : Place} (h : e ∈ Place.stations set operands behind ahead) :
    ∃ m, Place.Passes ⟨behind, ahead, operands⟩ m e ∧ (∀ c ∈ m, set.accepts c = true) ∧
      e.operands = operands := by
  induction ahead generalizing behind with
  | nil =>
    simp only [Place.stations, List.mem_singleton] at h
    exact ⟨[], h ▸ Place.Passes.refl _, by simp, by rw [h]⟩
  | cons c rest ih =>
    rcases List.mem_cons.mp h with rfl | hlater
    · exact ⟨[], Place.Passes.refl _, by simp, rfl⟩
    by_cases hc : set.accepts c = true
    · rw [if_pos hc] at hlater
      obtain ⟨m, hm, hrun, hoperands⟩ := ih hlater
      have hfirst : Place.Passes ⟨behind, c :: rest, operands⟩ [c] ⟨c :: behind, rest, operands⟩ :=
        ⟨rfl, rfl⟩
      exact ⟨[c] ++ m, hfirst.trans hm, List.forall_mem_cons.mpr ⟨hc, hrun⟩, hoperands⟩
    · rw [if_neg hc] at hlater
      exact absurd hlater List.not_mem_nil

/-- Before a word character there is a boundary exactly when no word character is behind. -/
theorem Place.atBoundary_cons_iff {behind ahead : Text} {operands : List Stretch} {c : Char}
    (hc : isWordCharacter c = true) :
    Place.atBoundary ⟨behind, c :: ahead, operands⟩ = true ↔
      behind.head?.any isWordCharacter = false := by
  simp [Place.atBoundary, hc]

namespace Pattern

variable {p q : Pattern} {s e : Place}

/-- The empty text ends where it begins. -/
theorem mem_ends_nothing : e ∈ nothing.ends s ↔ e = s := List.mem_singleton

/-- A boundary ends where it begins, if it is one. -/
theorem mem_ends_boundary : e ∈ boundary.ends s ↔ e = s ∧ s.atBoundary = true := by
  by_cases h : s.atBoundary = true <;> simp [ends, h]

/-- The second of two patterns in a row goes on where the first one ends. -/
theorem mem_ends_seq : e ∈ (seq p q).ends s ↔ ∃ mid ∈ p.ends s, e ∈ q.ends mid :=
  List.mem_flatMap

/-- A choice ends where one of its two patterns does. -/
theorem mem_ends_either : e ∈ (either p q).ends s ↔ e ∈ p.ends s ∨ e ∈ q.ends s :=
  List.mem_append

/-- An operand ends where its pattern does, with the operand recorded. -/
theorem mem_ends_operand : e ∈ (operand p).ends s ↔ ∃ last ∈ p.ends s, s.record last = e :=
  List.mem_map

/-- A literal beginning of the matches of a pattern. -/
structure Opening where
  /-- The characters that the match begins with, after case folding. -/
  literal : Text
  /-- Whether the match is nothing but these characters. -/
  whole : Bool
  deriving DecidableEq, Repr

/-- Whether a text begins, or is, as the opening says. -/
def Opening.Fits (o : Opening) (m : Text) : Prop :=
  if o.whole then m.map foldCase = o.literal else o.literal <+: m.map foldCase

/-- A text begins with the characters of every opening that fits it. -/
theorem Opening.Fits.literal_prefix {o : Opening} {m : Text} (h : o.Fits m) :
    o.literal <+: m.map foldCase := by
  unfold Opening.Fits at h
  split at h
  · exact h ▸ List.prefix_rfl
  · exact h

/-- The openings of two texts in a row: where the first one is a whole match, those of the second
one go on from it. -/
def Opening.followedBy (o : Opening) (nexts : List Opening) : List Opening :=
  if o.whole then nexts.map fun next => ⟨o.literal ++ next.literal, next.whole⟩ else [o]

/-- Openings compose along the texts that they fit. -/
theorem Opening.Fits.followedBy {o next : Opening} {nexts : List Opening} {m n : Text}
    (hm : o.Fits m) (hnext : next ∈ nexts) (hn : next.Fits n) :
    ∃ o' ∈ o.followedBy nexts, o'.Fits (m ++ n) := by
  by_cases hwhole : o.whole = true
  · have heq : m.map foldCase = o.literal := by simpa [Opening.Fits, hwhole] using hm
    refine ⟨⟨o.literal ++ next.literal, next.whole⟩, ?_, ?_⟩
    · rw [Opening.followedBy, if_pos hwhole]
      exact List.mem_map_of_mem hnext
    by_cases hlast : next.whole = true
    · have heq' : n.map foldCase = next.literal := by simpa [Opening.Fits, hlast] using hn
      simp [Opening.Fits, hlast, heq, heq']
    · simpa [Opening.Fits, hlast, heq] using hn.literal_prefix
  · refine ⟨o, ?_, ?_⟩
    · rw [Opening.followedBy, if_neg hwhole]
      exact List.mem_singleton_self o
    · simpa [Opening.Fits, hwhole] using hm.literal_prefix.trans (List.prefix_append _ _)

/-- The literal beginnings of the matches of a pattern, one for each way of reading it. -/
def openings : Pattern → List Opening
  | never => []
  | nothing | boundary => [⟨[], true⟩]
  | one (.char c) => [⟨[c], true⟩]
  | one _ | many _ => [⟨[], false⟩]
  | seq p q => p.openings.flatMap fun o => o.followedBy q.openings
  | either p q => p.openings ++ q.openings
  | operand p => p.openings

/-- Every match passes over a text, and one of the openings of the pattern fits that text. -/
theorem exists_opening_of_mem_ends (h : e ∈ p.ends s) :
    ∃ m, s.Passes m e ∧ ∃ o ∈ p.openings, o.Fits m := by
  induction p generalizing s e with
  | never => simp [ends] at h
  | nothing =>
    have heq : e = s := mem_ends_nothing.mp h
    exact ⟨[], heq ▸ Place.Passes.refl s, ⟨[], true⟩, by simp [openings], by simp [Opening.Fits]⟩
  | boundary =>
    have heq : e = s := (mem_ends_boundary.mp h).1
    exact ⟨[], heq ▸ Place.Passes.refl s, ⟨[], true⟩, by simp [openings], by simp [Opening.Fits]⟩
  | one set =>
    obtain ⟨c, hc, hpasses, _⟩ := Place.mem_step_iff.mp h
    refine ⟨[c], hpasses, ?_⟩
    cases set with
    | char x =>
      have hfold : foldCase c = x := by simpa [CharSet.accepts] using hc
      exact ⟨⟨[x], true⟩, by simp [openings], by simp [Opening.Fits, hfold]⟩
    | blank => exact ⟨⟨[], false⟩, by simp [openings], by simp [Opening.Fits]⟩
    | digit => exact ⟨⟨[], false⟩, by simp [openings], by simp [Opening.Fits]⟩
    | latin => exact ⟨⟨[], false⟩, by simp [openings], by simp [Opening.Fits]⟩
  | many set =>
    obtain ⟨m, hm, _⟩ := Place.exists_run_of_mem_stations (List.mem_reverse.mp h)
    exact ⟨m, hm, ⟨[], false⟩, by simp [openings], by simp [Opening.Fits]⟩
  | seq p q ihp ihq =>
    obtain ⟨mid, hmid, hend⟩ := mem_ends_seq.mp h
    obtain ⟨m, hm, o, ho, hfits⟩ := ihp hmid
    obtain ⟨n, hn, next, hnext, hfits'⟩ := ihq hend
    obtain ⟨o', ho', hboth⟩ := hfits.followedBy hnext hfits'
    exact ⟨m ++ n, hm.trans hn, o', List.mem_flatMap.mpr ⟨o, ho, ho'⟩, hboth⟩
  | either p q ihp ihq =>
    rcases mem_ends_either.mp h with hp | hq
    · obtain ⟨m, hm, o, ho, hfits⟩ := ihp hp
      exact ⟨m, hm, o, List.mem_append_left _ ho, hfits⟩
    · obtain ⟨m, hm, o, ho, hfits⟩ := ihq hq
      exact ⟨m, hm, o, List.mem_append_right _ ho, hfits⟩
  | operand p ih =>
    obtain ⟨last, hlast, rfl⟩ := mem_ends_operand.mp h
    obtain ⟨m, hm, hopening⟩ := ih hlast
    exact ⟨m, hm, hopening⟩

/-- Whether every match of the pattern passes over text for which `foreign` holds: at the beginning
of each of its readings, or in a part that no reading avoids. -/
def barredBy (foreign : Text → Bool) : Pattern → Bool
  | seq p q => ((seq p q).openings.all fun o => foreign o.literal) || p.barredBy foreign ||
      q.barredBy foreign
  | either p q => p.barredBy foreign && q.barredBy foreign
  | operand p => p.barredBy foreign
  | p => p.openings.all fun o => foreign o.literal

/-- If no text ahead is foreign, a pattern whose openings are all foreign has no match. -/
private theorem not_mem_ends_of_openings {foreign : Text → Bool}
    (hp : (p.openings.all fun o => foreign o.literal) = true)
    (hs : ∀ f, foreign f = true → ¬ f <:+: s.ahead.map foldCase) : e ∉ p.ends s := by
  intro h
  obtain ⟨m, hm, o, ho, hfits⟩ := exists_opening_of_mem_ends h
  have hstart : m.map foldCase <+: s.ahead.map foldCase := by
    rw [hm.1, List.map_append]
    exact List.prefix_append _ _
  exact hs o.literal (List.all_eq_true.mp hp o ho)
    (hfits.literal_prefix.trans hstart).isInfix

/-- A barred pattern has no match where none of the foreign texts occurs ahead. -/
theorem not_mem_ends_of_barredBy {foreign : Text → Bool}
    (hp : p.barredBy foreign = true)
    (hs : ∀ f, foreign f = true → ¬ f <:+: s.ahead.map foldCase) : e ∉ p.ends s := by
  induction p generalizing s e with
  | never => simp [ends]
  | nothing | boundary | one _ | many _ => exact not_mem_ends_of_openings hp hs
  | seq p q ihp ihq =>
    simp only [barredBy, Bool.or_eq_true] at hp
    rcases hp with (hopenings | hfirst) | hsecond
    · exact not_mem_ends_of_openings hopenings hs
    · intro h
      obtain ⟨mid, hmid, _⟩ := mem_ends_seq.mp h
      exact ihp hfirst hs hmid
    · intro h
      obtain ⟨mid, hmid, hend⟩ := mem_ends_seq.mp h
      obtain ⟨m, hm, _⟩ := exists_opening_of_mem_ends hmid
      have hlater : mid.ahead.map foldCase <:+ s.ahead.map foldCase := hm.ahead_suffix.map foldCase
      exact ihq hsecond (fun f hf hinside => hs f hf (hinside.trans hlater.isInfix)) hend
  | either p q ihp ihq =>
    simp only [barredBy, Bool.and_eq_true] at hp
    intro h
    rcases mem_ends_either.mp h with hfirst | hsecond
    · exact ihp hp.1 hs hfirst
    · exact ihq hp.2 hs hsecond
  | operand p ih =>
    intro h
    obtain ⟨last, hlast, _⟩ := mem_ends_operand.mp h
    exact ih hp hs hlast

/-- A match is found at a place exactly when a match that starts there can end somewhere. -/
theorem matchAt_isSome_iff (p : Pattern) (behind ahead : Text) :
    (p.matchAt behind ahead).isSome = true ↔ ∃ e, e ∈ p.ends ⟨behind, ahead, []⟩ := by
  unfold matchAt
  cases p.ends ⟨behind, ahead, []⟩ with
  | nil => simp
  | cons e ends =>
    simp only [List.head?_cons, Option.map_some, Option.isSome_some, true_iff]
    exact ⟨e, List.mem_cons_self⟩

/-- A search succeeds exactly when a match can end somewhere after one of the places ahead. -/
theorem search_isSome_iff (p : Pattern) (behind text : Text) :
    (p.search behind text).isSome = true ↔ ∃ before ahead e, text = before ++ ahead ∧
      e ∈ p.ends ⟨before.reverse ++ behind, ahead, []⟩ := by
  induction text generalizing behind with
  | nil =>
    rw [search, matchAt_isSome_iff]
    constructor
    · rintro ⟨e, he⟩
      exact ⟨[], [], e, rfl, he⟩
    · rintro ⟨before, ahead, e, heq, he⟩
      obtain ⟨rfl, rfl⟩ := List.append_eq_nil_iff.mp heq.symm
      exact ⟨e, he⟩
  | cons c rest ih =>
    have hsplit : (p.search behind (c :: rest)).isSome = true ↔
        (p.matchAt behind (c :: rest)).isSome = true ∨
          (p.search (c :: behind) rest).isSome = true := by
      rw [search]
      cases p.matchAt behind (c :: rest) <;> simp
    rw [hsplit, matchAt_isSome_iff, ih (c :: behind)]
    constructor
    · rintro (⟨e, he⟩ | ⟨before, ahead, e, rfl, he⟩)
      · exact ⟨[], c :: rest, e, rfl, he⟩
      · exact ⟨c :: before, ahead, e, rfl, by simpa using he⟩
    · rintro ⟨before, ahead, e, heq, he⟩
      cases before with
      | nil =>
        left
        obtain rfl : c :: rest = ahead := by simpa using heq
        exact ⟨e, he⟩
      | cons d before =>
        right
        simp only [List.cons_append, List.cons.injEq] at heq
        obtain ⟨rfl, rfl⟩ := heq
        exact ⟨before, ahead, e, rfl, by simpa using he⟩

/-- A pattern occurs in a text exactly when a match can end somewhere after a place of the text. -/
theorem occursIn_iff {text : Text} :
    p.occursIn text = true ↔ ∃ before ahead e, text = before ++ ahead ∧
      e ∈ p.ends ⟨before.reverse, ahead, []⟩ := by
  have hsearch := search_isSome_iff p [] text
  simp only [List.append_nil] at hsearch
  exact hsearch

/-- A barred pattern does not occur in a text without foreign parts. -/
theorem occursIn_eq_false_of_barredBy {foreign : Text → Bool} {text : Text}
    (hp : p.barredBy foreign = true)
    (htext : ∀ f, foreign f = true → ¬ f <:+: text.map foldCase) : p.occursIn text = false := by
  rw [← Bool.not_eq_true, occursIn_iff]
  rintro ⟨before, ahead, e, rfl, he⟩
  refine not_mem_ends_of_barredBy hp (fun f hf hinside => htext f hf ?_) he
  rw [List.map_append]
  exact hinside.trans (List.suffix_append _ _).isInfix

end Pattern

end ExprGate
