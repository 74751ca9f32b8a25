import ExprGate.CommandLine.Report
import ExprGate.Proofs.CleanTexts
import ExprGate.Proofs.JsonLayouts

/-!
# What a report shows

The report of a check shows the expression that was admitted, and whoever reads the report can tell
which expression that is: in a text it stands behind the last colon, since no admitted expression
has a colon, and in JSON it is a field of the object that the report is read as.
-/

namespace ExprGate

/-- No clean text has a colon. -/
theorem colon_not_mem_of_isClean {t : Text} (h : isClean t = true) : ':' ∉ t := by
  intro hcolon
  obtain ⟨hvalid, -⟩ := isClean_iff.mp h
  rw [hasValidCharacters, Bool.and_eq_true, List.all_eq_true] at hvalid
  exact absurd (hvalid.2 ':' hcolon) (by decide)

/-- An admission is written in JSON. -/
theorem Admission.wellFormed_toJson (a : Admission) : a.toJson.WellFormed := by
  refine .record ?_
  cases a.ruleId <;> simp [Json.WellFormed.text, Route.toJson]

/-- The lines of two lists are those of the first one and then those of the second one. -/
theorem unlines_append (lines more : List Text) :
    unlines (lines ++ more) = unlines lines ++ unlines more :=
  List.flatMap_append

/-- One line is followed by its line break. -/
theorem unlines_singleton (line : Text) : unlines [line] = line ++ ['\n'] :=
  List.flatMap_singleton _ _

namespace Format

/-- A report shows an expression. A text shows it by a last line with its label, up to the line
break at the very end; JSON shows it as a field of an object. -/
def Shows (format : Format) (report expression : Text) : Prop :=
  match format with
  | text => ':' ∉ expression ∧
      ∃ lines, report = unlines lines ++ "Expression: ".toList ++ expression ++ ['\n']
  | json => ∃ members, Json.parse? report = some (.object members) ∧
      Wire.member? "expression".toList members = some (.text expression)

variable {format : Format} {report expression other : Text} {a : Admission}

/-- Read backwards up to the first colon, a text has the line break, the expression that it shows,
and the blank behind the label. -/
private theorem takeWhile_reverse_of_shows (h : text.Shows report expression) :
    report.reverse.takeWhile (· != ':') = '\n' :: (expression.reverse ++ [' ']) := by
  obtain ⟨hcolon, lines, rfl⟩ := h
  have hinside : ∀ c ∈ '\n' :: (expression.reverse ++ [' ']), (c != ':') = true := by
    intro c hc
    simp only [List.mem_cons, List.mem_append, List.mem_reverse, List.not_mem_nil, or_false] at hc
    rcases hc with rfl | hc | rfl
    · rfl
    · exact bne_iff_ne.mpr fun heq => hcolon (heq ▸ hc)
    · rfl
  have hsplit : (unlines lines ++ "Expression: ".toList ++ expression ++ ['\n']).reverse =
      '\n' :: (expression.reverse ++ [' ']) ++ ':' :: ("Expression".toList.reverse ++
        (unlines lines).reverse) := by
    simp
  rw [hsplit, List.takeWhile_append_of_pos hinside, List.takeWhile_cons_of_neg (by decide),
    List.append_nil]

/-- A report shows one expression at most. -/
theorem Shows.unique (h : format.Shows report expression) (hother : format.Shows report other) :
    expression = other := by
  cases format with
  | text =>
    have hbehind := (takeWhile_reverse_of_shows h).symm.trans (takeWhile_reverse_of_shows hother)
    simpa using hbehind
  | json =>
    obtain ⟨members, hmembers, hfield⟩ := h
    obtain ⟨members', hmembers', hfield'⟩ := hother
    obtain rfl : members = members' := by
      simpa using hmembers.symm.trans hmembers'
    simpa [Json.text] using hfield.symm.trans hfield'

/-- The report of an admission shows the expression. -/
theorem shows_admitted (h : ':' ∉ a.expression) :
    format.Shows (format.admitted a) a.expression := by
  cases format with
  | text =>
    obtain ⟨lines, hlines⟩ : ∃ lines, Format.text.admitted a =
        unlines (lines ++ ["Expression: ".toList ++ a.expression]) := ⟨_, rfl⟩
    refine ⟨h, lines, ?_⟩
    rw [hlines, unlines_append, unlines_singleton, List.append_assoc, List.append_assoc,
      List.append_assoc]
  | json =>
    have hreport : a.toJson.report = a.toJson.pretty ++ ['\n'] := unlines_singleton _
    have hread : Json.parse? (a.toJson.pretty ++ ['\n']) = some a.toJson :=
      Json.parse?_pretty a.wellFormed_toJson fun c hc => by
        rw [List.mem_singleton.mp hc]
        rfl
    rw [← hreport] at hread
    exact ⟨_, hread, rfl⟩

/-- The report of an admission of a clean expression shows that expression and no other. -/
theorem shows_admitted_iff (h : isClean a.expression = true) :
    format.Shows (format.admitted a) expression ↔ expression = a.expression := by
  have hshown : format.Shows (format.admitted a) a.expression :=
    shows_admitted (colon_not_mem_of_isClean h)
  constructor
  · intro hother
    exact hother.unique hshown
  · rintro rfl
    exact hshown

end Format

end ExprGate
