import ExprGate.Pattern
import Mathlib.Data.List.Basic

/-!
# Matching and relettering

A pattern sees of a character only to which sets it belongs and whether it is a word character. A
change of characters that keeps both is not noticed by matching: the matches in the changed text are
the changed matches, in the same order of preference and at the same places.
-/

namespace ExprGate

/-- A change of characters that keeps the sets that a character belongs to, and its being a word
character or not. -/
structure KeepsClasses (f : Char → Char) : Prop where
  /-- A character is in the same sets after the change. -/
  accepts_eq : ∀ (set : CharSet) (c : Char), set.accepts (f c) = set.accepts c
  /-- A character is a word character after the change when it was one. -/
  isWordCharacter_eq : ∀ c, isWordCharacter (f c) = isWordCharacter c

/-- The stretch of the changed text. -/
def Stretch.map (f : Char → Char) (s : Stretch) : Stretch := ⟨s.first.map f, s.last.map f⟩

/-- The place in the changed text. -/
def Place.map (f : Char → Char) (s : Place) : Place :=
  ⟨s.behind.map f, s.ahead.map f, s.operands.map (Stretch.map f)⟩

/-- The occurrence in the changed text. -/
def Match.map (f : Char → Char) (m : Match) : Match :=
  ⟨m.before.map f, m.matched.map f, m.after.map f, m.operands.map (List.map f)⟩

/-- The text of a changed stretch is the changed text of the stretch. -/
theorem Stretch.text_map (f : Char → Char) (s : Stretch) : (s.map f).text = s.text.map f := by
  simp only [Stretch.text, Stretch.map, List.length_map, List.map_take]

/-- The occurrence between two changed places is the changed occurrence. -/
theorem Match.between_map (f : Char → Char) (s e : Place) :
    Match.between (s.map f) (e.map f) = (Match.between s e).map f := by
  have hmatched : ((s.map f).stretchTo (e.map f)).text = (s.stretchTo e).text.map f :=
    Stretch.text_map f (s.stretchTo e)
  have hoperands : (e.map f).operands.map Stretch.text =
      (e.operands.map Stretch.text).map (List.map f) := by
    simp only [Place.map, List.map_map]
    exact List.map_congr_left fun operand _ => Stretch.text_map f operand
  rw [Match.between, hmatched, hoperands]
  simp [Match.between, Match.map, Place.map]

section Matching

variable {f : Char → Char} (hf : KeepsClasses f)
include hf

/-- A changed place is at a word boundary when the place was. -/
theorem Place.atBoundary_map (s : Place) : (s.map f).atBoundary = s.atBoundary := by
  have hany (t : Text) : (t.map f).head?.any isWordCharacter = t.head?.any isWordCharacter := by
    cases t with
    | nil => rfl
    | cons c t => exact hf.isWordCharacter_eq c
  simp only [Place.atBoundary, Place.map, hany]

/-- A step from a changed place leads to the changed places. -/
theorem Place.step_map (set : CharSet) (s : Place) :
    (s.map f).step set = (s.step set).map (Place.map f) := by
  obtain ⟨behind, ahead, operands⟩ := s
  cases ahead with
  | nil => rfl
  | cons c rest =>
    simp only [Place.step, Place.map, List.map_cons, hf.accepts_eq]
    split <;> rfl

/-- The stations after a changed place are the changed stations. -/
theorem Place.stations_map (set : CharSet) (operands : List Stretch) (behind ahead : Text) :
    Place.stations set (operands.map (Stretch.map f)) (behind.map f) (ahead.map f) =
      (Place.stations set operands behind ahead).map (Place.map f) := by
  induction ahead generalizing behind with
  | nil => rfl
  | cons c rest ih =>
    have hlater := ih (c :: behind)
    rw [List.map_cons] at hlater
    simp only [Place.stations, List.map_cons, hf.accepts_eq, hlater]
    split <;> rfl

namespace Pattern

/-- The ends of a pattern after a changed place are the changed ends. -/
theorem ends_map (p : Pattern) (s : Place) :
    p.ends (s.map f) = (p.ends s).map (Place.map f) := by
  induction p generalizing s with
  | never => rfl
  | nothing => rfl
  | boundary =>
    simp only [ends, Place.atBoundary_map hf]
    split <;> rfl
  | one set => exact Place.step_map hf set s
  | many set =>
    have hstations := Place.stations_map hf set s.operands s.behind s.ahead
    exact (congrArg List.reverse hstations).trans List.map_reverse.symm
  | seq p q ihp ihq =>
    simp only [ends, ihp, List.flatMap_map, List.map_flatMap, ihq]
  | either p q ihp ihq => simp only [ends, ihp, ihq, List.map_append]
  | operand p ih =>
    simp only [ends, ih, List.map_map]
    refine List.map_congr_left fun e _ => ?_
    simp [Place.record, Place.map, Place.stretchTo, Stretch.map]

/-- The match at a changed place is the changed match. -/
theorem matchAt_map (p : Pattern) (behind ahead : Text) :
    p.matchAt (behind.map f) (ahead.map f) = (p.matchAt behind ahead).map (Match.map f) := by
  have hends := ends_map hf p ⟨behind, ahead, []⟩
  have hplace : Place.map f ⟨behind, ahead, []⟩ = ⟨behind.map f, ahead.map f, []⟩ := rfl
  rw [hplace] at hends
  rw [matchAt, matchAt, hends, List.head?_map, Option.map_map, Option.map_map, ← hplace]
  congr 1
  funext e
  exact Match.between_map f _ e

/-- The leftmost match in a changed text is the changed leftmost match. -/
theorem search_map (p : Pattern) (behind ahead : Text) :
    p.search (behind.map f) (ahead.map f) = (p.search behind ahead).map (Match.map f) := by
  induction ahead generalizing behind with
  | nil => exact matchAt_map hf p behind []
  | cons c rest ih =>
    have hhere := matchAt_map hf p behind (c :: rest)
    have hlater := ih (c :: behind)
    rw [List.map_cons] at hhere hlater ⊢
    rw [search, search, hhere]
    cases p.matchAt behind (c :: rest) with
    | some m => rfl
    | none => exact hlater

/-- The leftmost match in a changed text is the changed leftmost match. -/
theorem find_map (p : Pattern) (t : Text) : p.find (t.map f) = (p.find t).map (Match.map f) :=
  search_map hf p [] t

/-- A pattern occurs in a changed text when it occurs in the text. -/
theorem occursIn_map (p : Pattern) (t : Text) : p.occursIn (t.map f) = p.occursIn t := by
  rw [occursIn, occursIn, find_map hf, Option.isSome_map]

/-- The matches from a changed place on are the changed matches. -/
theorem searchAll_map (p : Pattern) (behind ahead : Text) :
    p.searchAll (behind.map f) (ahead.map f) = (p.searchAll behind ahead).map (Match.map f) := by
  fun_induction searchAll p behind ahead with
  | case1 behind ahead hnone =>
    rw [searchAll, search_map hf, hnone]
    rfl
  | case2 behind ahead m hfirst hshorter ih =>
    have hbehind : (m.matched.reverse ++ m.before.reverse).map f =
        (m.map f).matched.reverse ++ (m.map f).before.reverse := by
      simp [Match.map, List.map_reverse]
    have hahead : m.after.map f = (m.map f).after := rfl
    rw [hbehind, hahead] at ih
    have hless : (m.map f).after.length < (ahead.map f).length := by
      simpa [Match.map] using hshorter
    rw [searchAll, search_map hf, hfirst]
    simp only [Option.map_some, if_pos hless, ih, List.map_cons]
  | case3 behind ahead m hlast hlonger =>
    have hless : ¬ (m.map f).after.length < (ahead.map f).length := by
      simpa [Match.map] using hlonger
    rw [searchAll, search_map hf, hlast]
    simp only [Option.map_some, if_neg hless, List.map_cons, List.map_nil]

/-- The matches in a changed text are the changed matches. -/
theorem findAll_map (p : Pattern) (t : Text) :
    p.findAll (t.map f) = (p.findAll t).map (Match.map f) :=
  searchAll_map hf p [] t

end Pattern

end Matching

end ExprGate
