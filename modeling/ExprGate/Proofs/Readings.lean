import ExprGate.Proofs.Occurrences

/-!
# What a pattern reads

To the matcher a match is an entry in a list of ends; to a reader it is a text with something before
it and after it, and with operands in it. `Pattern.Reads` says, by recursion on the pattern and
without any order of preference, which texts a pattern reads between given neighbours, and with
which operands. The matcher finds readings only, and it can find every one of them, so questions
about the occurrences of a pattern become questions about its readings.
-/

namespace ExprGate

/-- The stretch between two places has the text that was passed over between them. -/
theorem Place.Passes.text_stretchTo {s e : Place} {m : Text} (h : s.Passes m e) :
    (s.stretchTo e).text = m := by
  simp [Place.stretchTo, Stretch.text, h.1]

/-- Behind every run of characters of the set there is a station. -/
theorem Place.mem_stations_of_run {set : CharSet} {operands : List Stretch} {m : Text}
    (h : ∀ c ∈ m, set.accepts c = true) (behind after : Text) :
    ⟨m.reverse ++ behind, after, operands⟩ ∈ Place.stations set operands behind (m ++ after) := by
  induction m generalizing behind with
  | nil => cases after <;> simp [Place.stations]
  | cons c m ih =>
    obtain ⟨hc, hm⟩ := List.forall_mem_cons.mp h
    have hlater := ih hm (c :: behind)
    simpa [Place.stations, hc] using Or.inr hlater

namespace Pattern

/-- `p.Reads behind m after operands`: between `behind`, whose nearest character comes first, and
`after`, the pattern reads the text `m` and takes the operands from it. -/
def Reads : Pattern → Text → Text → Text → List Text → Prop
  | never, _, _, _, _ => False
  | nothing, _, m, _, operands => m = [] ∧ operands = []
  | boundary, behind, m, after, operands =>
    m = [] ∧ operands = [] ∧ Place.atBoundary ⟨behind, after, []⟩ = true
  | one set, _, m, _, operands => (∃ c, m = [c] ∧ set.accepts c = true) ∧ operands = []
  | many set, _, m, _, operands => (∀ c ∈ m, set.accepts c = true) ∧ operands = []
  | seq p q, behind, m, after, operands => ∃ m₁ m₂ operands₁ operands₂, m = m₁ ++ m₂ ∧
      operands = operands₁ ++ operands₂ ∧ p.Reads behind m₁ (m₂ ++ after) operands₁ ∧
      q.Reads (m₁.reverse ++ behind) m₂ after operands₂
  | either p q, behind, m, after, operands =>
    p.Reads behind m after operands ∨ q.Reads behind m after operands
  | operand p, behind, m, after, operands =>
    ∃ inner, operands = inner ++ [m] ∧ p.Reads behind m after inner

variable {p q : Pattern}

/-- A match passes over a text that the pattern reads, and records the operands of that reading. -/
theorem reads_of_mem_ends {s e : Place} (h : e ∈ p.ends s) :
    ∃ m operands, s.Passes m e ∧
      e.operands.map Stretch.text = s.operands.map Stretch.text ++ operands ∧
      p.Reads s.behind m e.ahead operands := by
  induction p generalizing s e with
  | never => simp [ends] at h
  | nothing =>
    obtain rfl : e = s := mem_ends_nothing.mp h
    exact ⟨[], [], Place.Passes.refl e, by simp, rfl, rfl⟩
  | boundary =>
    obtain ⟨rfl, hboundary⟩ := mem_ends_boundary.mp h
    exact ⟨[], [], Place.Passes.refl e, by simp, rfl, rfl, hboundary⟩
  | one set =>
    obtain ⟨c, hc, hpasses, hoperands⟩ := Place.mem_step_iff.mp h
    exact ⟨[c], [], hpasses, by simp [hoperands], ⟨c, rfl, hc⟩, rfl⟩
  | many set =>
    obtain ⟨m, hpasses, hrun, hoperands⟩ :=
      Place.exists_run_of_mem_stations (List.mem_reverse.mp h)
    exact ⟨m, [], hpasses, by simp [hoperands], hrun, rfl⟩
  | seq p q ihp ihq =>
    obtain ⟨mid, hmid, hend⟩ := mem_ends_seq.mp h
    obtain ⟨m₁, operands₁, hpasses₁, hoperands₁, hreads₁⟩ := ihp hmid
    obtain ⟨m₂, operands₂, hpasses₂, hoperands₂, hreads₂⟩ := ihq hend
    refine ⟨m₁ ++ m₂, operands₁ ++ operands₂, hpasses₁.trans hpasses₂, ?_,
      m₁, m₂, operands₁, operands₂, rfl, rfl, ?_, ?_⟩
    · rw [hoperands₂, hoperands₁, List.append_assoc]
    · rwa [← hpasses₂.1]
    · rwa [← hpasses₁.2]
  | either p q ihp ihq =>
    rcases mem_ends_either.mp h with hfirst | hsecond
    · obtain ⟨m, operands, hpasses, hoperands, hreads⟩ := ihp hfirst
      exact ⟨m, operands, hpasses, hoperands, Or.inl hreads⟩
    · obtain ⟨m, operands, hpasses, hoperands, hreads⟩ := ihq hsecond
      exact ⟨m, operands, hpasses, hoperands, Or.inr hreads⟩
  | operand p ih =>
    obtain ⟨last, hlast, rfl⟩ := mem_ends_operand.mp h
    obtain ⟨m, inner, hpasses, hinner, hreads⟩ := ih hlast
    refine ⟨m, inner ++ [m], hpasses, ?_, inner, rfl, hreads⟩
    rw [Place.record, List.map_append, hinner, List.map_singleton, hpasses.text_stretchTo,
      List.append_assoc]

/-- Every reading is found by the matcher, whatever it has recorded before. -/
theorem exists_mem_ends_of_reads {behind m after : Text} {operands : List Text}
    (h : p.Reads behind m after operands) (recorded : List Stretch) :
    ∃ e ∈ p.ends ⟨behind, m ++ after, recorded⟩,
      e.behind = m.reverse ++ behind ∧ e.ahead = after := by
  induction p generalizing behind m after operands recorded with
  | never => exact h.elim
  | nothing =>
    obtain ⟨rfl, _⟩ := h
    exact ⟨_, mem_ends_nothing.mpr rfl, rfl, rfl⟩
  | boundary =>
    obtain ⟨rfl, _, hboundary⟩ := h
    exact ⟨_, mem_ends_boundary.mpr ⟨rfl, hboundary⟩, rfl, rfl⟩
  | one set =>
    obtain ⟨⟨c, rfl, hc⟩, _⟩ := h
    exact ⟨⟨c :: behind, after, recorded⟩,
      Place.mem_step_iff.mpr ⟨c, hc, ⟨rfl, rfl⟩, rfl⟩, rfl, rfl⟩
  | many set =>
    exact ⟨⟨m.reverse ++ behind, after, recorded⟩,
      List.mem_reverse.mpr (Place.mem_stations_of_run h.1 behind after), rfl, rfl⟩
  | seq p q ihp ihq =>
    obtain ⟨m₁, m₂, operands₁, operands₂, rfl, rfl, hfirst, hsecond⟩ := h
    obtain ⟨⟨behind', ahead', recorded'⟩, hmid, rfl, rfl⟩ := ihp hfirst recorded
    obtain ⟨e, he, hbehind, hahead⟩ := ihq hsecond recorded'
    refine ⟨e, mem_ends_seq.mpr ⟨_, ?_, he⟩, ?_, hahead⟩
    · rwa [List.append_assoc]
    · rw [hbehind, List.reverse_append, List.append_assoc]
  | either p q ihp ihq =>
    rcases h with hfirst | hsecond
    · obtain ⟨e, he, hplace⟩ := ihp hfirst recorded
      exact ⟨e, mem_ends_either.mpr (Or.inl he), hplace⟩
    · obtain ⟨e, he, hplace⟩ := ihq hsecond recorded
      exact ⟨e, mem_ends_either.mpr (Or.inr he), hplace⟩
  | operand p ih =>
    obtain ⟨inner, _, hreads⟩ := h
    obtain ⟨last, hlast, hplace⟩ := ih hreads recorded
    exact ⟨_, mem_ends_operand.mpr ⟨last, hlast, rfl⟩, hplace⟩

/-- A pattern occurs in a text exactly when it reads a part of it. -/
theorem occursIn_iff_reads {text : Text} : p.occursIn text = true ↔
    ∃ before m after operands, text = before ++ m ++ after ∧
      p.Reads before.reverse m after operands := by
  rw [occursIn_iff]
  constructor
  · rintro ⟨before, ahead, e, rfl, he⟩
    obtain ⟨m, operands, hpasses, _, hreads⟩ := reads_of_mem_ends he
    obtain rfl : ahead = m ++ e.ahead := hpasses.1
    exact ⟨before, m, e.ahead, operands, (List.append_assoc _ _ _).symm, hreads⟩
  · rintro ⟨before, m, after, operands, rfl, hreads⟩
    obtain ⟨e, he, _⟩ := exists_mem_ends_of_reads hreads []
    exact ⟨before, m ++ after, e, List.append_assoc _ _ _, he⟩

/-- A set of one character occurs in a text exactly when the text has a character of the set. -/
theorem occursIn_one_iff {set : CharSet} {text : Text} :
    (one set).occursIn text = true ↔ ∃ c ∈ text, set.accepts c = true := by
  rw [occursIn_iff_reads]
  constructor
  · rintro ⟨before, _, after, _, rfl, ⟨c, rfl, hc⟩, _⟩
    exact ⟨c, by simp, hc⟩
  · rintro ⟨c, hmem, hc⟩
    obtain ⟨before, after, rfl⟩ := List.append_of_mem hmem
    exact ⟨before, [c], after, [], by simp, ⟨c, rfl, hc⟩, rfl⟩

end Pattern

/-- The match lies in the text, and the pattern reads it there. -/
structure Match.ReadIn (p : Pattern) (text : Text) (m : Match) : Prop where
  /-- The text is the match with what stands before and after it. -/
  text_eq : text = m.before ++ m.matched ++ m.after
  /-- The pattern reads the match and takes its operands from it. -/
  reads : p.Reads m.before.reverse m.matched m.after m.operands

namespace Pattern

variable {p : Pattern} {behind ahead : Text} {m : Match}

/-- The match found at a place is read there. -/
theorem readIn_of_matchAt (h : p.matchAt behind ahead = some m) :
    m.ReadIn p (behind.reverse ++ ahead) := by
  obtain ⟨e, he, rfl⟩ := Option.map_eq_some_iff.mp h
  obtain ⟨text, operands, hpasses, hoperands, hreads⟩ :=
    reads_of_mem_ends (List.mem_of_head? he)
  obtain rfl : ahead = text ++ e.ahead := hpasses.1
  have htext := hpasses.text_stretchTo
  rw [List.map_nil, List.nil_append] at hoperands
  constructor
  · simp only [Match.between, htext, List.append_assoc]
  · simpa only [Match.between, htext, hoperands, List.reverse_reverse] using hreads

/-- The leftmost match is read in the text. -/
theorem readIn_of_search (h : p.search behind ahead = some m) :
    m.ReadIn p (behind.reverse ++ ahead) := by
  induction ahead generalizing behind with
  | nil => exact readIn_of_matchAt h
  | cons c rest ih =>
    rw [search] at h
    cases hfirst : p.matchAt behind (c :: rest) with
    | some first =>
      rw [hfirst] at h
      exact Option.some.inj h ▸ readIn_of_matchAt hfirst
    | none =>
      rw [hfirst] at h
      simpa using ih h

/-- Every match of a run through the text is the leftmost one from some place of the text on. -/
theorem exists_search_of_mem_searchAll (h : m ∈ p.searchAll behind ahead) :
    ∃ behind' ahead', behind'.reverse ++ ahead' = behind.reverse ++ ahead ∧
      p.search behind' ahead' = some m := by
  fun_induction searchAll p behind ahead with
  | case1 behind ahead hnone => exact absurd h List.not_mem_nil
  | case2 behind ahead first hfirst hshorter ih =>
    rcases List.mem_cons.mp h with rfl | hlater
    · exact ⟨behind, ahead, rfl, hfirst⟩
    · -- The run goes on behind the first match, in the same text.
      obtain ⟨behind', ahead', htext, hsearch⟩ := ih hlater
      refine ⟨behind', ahead', htext.trans ?_, hsearch⟩
      simp [(readIn_of_search hfirst).text_eq]
  | case3 behind ahead last hlast _ =>
    exact ⟨behind, ahead, rfl, List.mem_singleton.mp h ▸ hlast⟩

/-- Every match of a run through the text is read in it. -/
theorem readIn_of_mem_searchAll (h : m ∈ p.searchAll behind ahead) :
    m.ReadIn p (behind.reverse ++ ahead) := by
  obtain ⟨behind', ahead', htext, hsearch⟩ := exists_search_of_mem_searchAll h
  exact htext ▸ readIn_of_search hsearch

/-- Every match in a text is read in it. -/
theorem readIn_of_mem_findAll {text : Text} (h : m ∈ p.findAll text) : m.ReadIn p text :=
  readIn_of_mem_searchAll h

/-- A pattern that has a match in a text occurs there. -/
theorem occursIn_of_mem_findAll {text : Text} (h : m ∈ p.findAll text) :
    p.occursIn text = true := by
  obtain ⟨htext, hreads⟩ := readIn_of_mem_findAll h
  exact occursIn_iff_reads.mpr ⟨_, _, _, _, htext, hreads⟩

end Pattern

end ExprGate
