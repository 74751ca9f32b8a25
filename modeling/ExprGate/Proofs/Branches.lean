import ExprGate.Proofs.Readings

/-!
# Branches of a pattern

Every choice in a pattern can be made in advance, except inside its operands. What is left is a
branch: a row of single characters, runs of characters, word boundaries and operands. A pattern
reads exactly what its branches read. So if each branch of one pattern has a branch of another one
inside, the other one occurs wherever the first one does.
-/

namespace ExprGate

/-- One piece of a branch. -/
inductive Piece
  /-- A word boundary. -/
  | boundary
  /-- One character of the set. -/
  | one (set : CharSet)
  /-- Any number of characters of the set. -/
  | run (set : CharSet)
  /-- An operand, with the choices inside it left open. -/
  | operand (inner : Pattern)
  deriving DecidableEq, Repr

/-- `piece.Reads behind m after`: between `behind`, whose nearest character comes first, and
`after`, the piece reads the text `m`. -/
def Piece.Reads : Piece → Text → Text → Text → Prop
  | boundary, behind, m, after => m = [] ∧ Place.atBoundary ⟨behind, after, []⟩ = true
  | one set, _, m, _ => ∃ c, m = [c] ∧ set.accepts c = true
  | run set, _, m, _ => ∀ c ∈ m, set.accepts c = true
  | operand p, behind, m, after => ∃ operands, p.Reads behind m after operands

/-- Some pieces in a row. -/
abbrev Branch := List Piece

namespace Branch

/-- A branch reads the texts that its pieces read, one after another. -/
def Reads : Branch → Text → Text → Text → Prop
  | [], _, m, _ => m = []
  | piece :: rest, behind, m, after => ∃ m₁ m₂, m = m₁ ++ m₂ ∧
      piece.Reads behind m₁ (m₂ ++ after) ∧ Reads rest (m₁.reverse ++ behind) m₂ after

variable {b b₁ b₂ : Branch} {behind m after : Text}

/-- A branch of one piece reads what the piece reads. -/
theorem reads_singleton {piece : Piece} :
    Reads [piece] behind m after ↔ piece.Reads behind m after := by
  constructor
  · rintro ⟨m₁, _, rfl, hpiece, rfl⟩
    simpa using hpiece
  · intro h
    exact ⟨m, [], (List.append_nil m).symm, h, rfl⟩

/-- Two branches in a row read a text of the first one and then one of the second. -/
theorem reads_append : Reads (b₁ ++ b₂) behind m after ↔ ∃ m₁ m₂, m = m₁ ++ m₂ ∧
    Reads b₁ behind m₁ (m₂ ++ after) ∧ Reads b₂ (m₁.reverse ++ behind) m₂ after := by
  induction b₁ generalizing behind m with
  | nil =>
    constructor
    · intro h
      exact ⟨[], m, rfl, rfl, h⟩
    · rintro ⟨_, _, rfl, rfl, h⟩
      exact h
  | cons piece b₁ ih =>
    constructor
    · rintro ⟨m₁, _, rfl, hpiece, hrest⟩
      obtain ⟨m₂, m₃, rfl, hfirst, hsecond⟩ := ih.mp hrest
      refine ⟨m₁ ++ m₂, m₃, by simp, ⟨m₁, m₂, rfl, ?_, hfirst⟩, ?_⟩
      · rwa [List.append_assoc] at hpiece
      · rwa [List.reverse_append, List.append_assoc]
    · rintro ⟨_, m₃, rfl, ⟨m₁, m₂, rfl, hpiece, hfirst⟩, hsecond⟩
      refine ⟨m₁, m₂ ++ m₃, by simp, ?_, ih.mpr ⟨m₂, m₃, rfl, hfirst, ?_⟩⟩
      · rwa [List.append_assoc]
      · rwa [List.reverse_append, List.append_assoc] at hsecond

/-- A part of a branch reads a part of what the branch reads. -/
theorem exists_reads_of_infix (hinside : b₁ <:+: b) (h : Reads b behind m after) :
    ∃ m₁ m₂ m₃, m = m₁ ++ m₂ ++ m₃ ∧ Reads b₁ (m₁.reverse ++ behind) m₂ (m₃ ++ after) := by
  obtain ⟨first, last, rfl⟩ := hinside
  obtain ⟨_, m₃, rfl, hfirst, _⟩ := reads_append.mp h
  obtain ⟨m₁, m₂, rfl, _, hreads⟩ := reads_append.mp hfirst
  exact ⟨m₁, m₂, m₃, rfl, hreads⟩

end Branch

namespace Pattern

variable {p : Pattern} {behind m after : Text}

/-- The branches of a pattern, one for each way to make the choices outside its operands. -/
def branches : Pattern → List Branch
  | never => []
  | nothing => [[]]
  | boundary => [[.boundary]]
  | one set => [[.one set]]
  | many set => [[.run set]]
  | seq p q => p.branches.flatMap fun b => q.branches.map (b ++ ·)
  | either p q => p.branches ++ q.branches
  | operand p => [[.operand p]]

/-- What a pattern reads is read by one of its branches. -/
theorem exists_branch_of_reads {operands : List Text} (h : p.Reads behind m after operands) :
    ∃ b ∈ p.branches, b.Reads behind m after := by
  induction p generalizing behind m after operands with
  | never => exact h.elim
  | nothing => exact ⟨[], List.mem_singleton_self _, h.1⟩
  | boundary =>
    obtain ⟨hm, _, hboundary⟩ := h
    exact ⟨_, List.mem_singleton_self _, Branch.reads_singleton.mpr ⟨hm, hboundary⟩⟩
  | one set | many set =>
    exact ⟨_, List.mem_singleton_self _, Branch.reads_singleton.mpr h.1⟩
  | seq p q ihp ihq =>
    obtain ⟨m₁, m₂, _, _, hm, _, hfirst, hsecond⟩ := h
    obtain ⟨b₁, hmem₁, hreads₁⟩ := ihp hfirst
    obtain ⟨b₂, hmem₂, hreads₂⟩ := ihq hsecond
    refine ⟨b₁ ++ b₂, ?_, Branch.reads_append.mpr ⟨m₁, m₂, hm, hreads₁, hreads₂⟩⟩
    exact List.mem_flatMap.mpr ⟨b₁, hmem₁, List.mem_map_of_mem hmem₂⟩
  | either p q ihp ihq =>
    rcases h with hfirst | hsecond
    · obtain ⟨b, hmem, hreads⟩ := ihp hfirst
      exact ⟨b, List.mem_append_left _ hmem, hreads⟩
    · obtain ⟨b, hmem, hreads⟩ := ihq hsecond
      exact ⟨b, List.mem_append_right _ hmem, hreads⟩
  | operand p =>
    obtain ⟨inner, _, hinner⟩ := h
    exact ⟨_, List.mem_singleton_self _, Branch.reads_singleton.mpr ⟨inner, hinner⟩⟩

/-- What a branch of a pattern reads is read by the pattern. -/
theorem exists_reads_of_branch {b : Branch} (hmem : b ∈ p.branches)
    (h : b.Reads behind m after) : ∃ operands, p.Reads behind m after operands := by
  induction p generalizing b behind m after with
  | never => exact absurd hmem List.not_mem_nil
  | nothing =>
    obtain rfl : b = [] := List.mem_singleton.mp hmem
    exact ⟨[], h, rfl⟩
  | boundary =>
    obtain rfl : b = [.boundary] := List.mem_singleton.mp hmem
    obtain ⟨hm, hboundary⟩ := Branch.reads_singleton.mp h
    exact ⟨[], hm, rfl, hboundary⟩
  | one set | many set =>
    rw [List.mem_singleton.mp hmem, Branch.reads_singleton] at h
    exact ⟨[], h, rfl⟩
  | seq p q ihp ihq =>
    obtain ⟨b₁, hmem₁, hmap⟩ := List.mem_flatMap.mp hmem
    obtain ⟨b₂, hmem₂, rfl⟩ := List.mem_map.mp hmap
    obtain ⟨m₁, m₂, hm, hreads₁, hreads₂⟩ := Branch.reads_append.mp h
    obtain ⟨operands₁, hfirst⟩ := ihp hmem₁ hreads₁
    obtain ⟨operands₂, hsecond⟩ := ihq hmem₂ hreads₂
    exact ⟨operands₁ ++ operands₂, m₁, m₂, operands₁, operands₂, hm, rfl, hfirst, hsecond⟩
  | either p q ihp ihq =>
    rcases List.mem_append.mp hmem with hfirst | hsecond
    · obtain ⟨operands, hreads⟩ := ihp hfirst h
      exact ⟨operands, Or.inl hreads⟩
    · obtain ⟨operands, hreads⟩ := ihq hsecond h
      exact ⟨operands, Or.inr hreads⟩
  | operand p =>
    rw [List.mem_singleton.mp hmem, Branch.reads_singleton] at h
    obtain ⟨inner, hreads⟩ := h
    exact ⟨inner ++ [m], inner, rfl, hreads⟩

/-- Whether every branch of the pattern has a branch of one of the targets inside. -/
def leadsTo (targets : List Pattern) (p : Pattern) : Bool :=
  p.branches.all fun b => targets.any fun q => q.branches.any fun b' =>
    b.tails.any fun rest => b'.isPrefixOf rest

/-- Where a pattern occurs that leads to the targets, one of the targets occurs. -/
theorem exists_occursIn_of_leadsTo {targets : List Pattern} (hp : p.leadsTo targets = true)
    {t : Text} (h : p.occursIn t = true) : ∃ q ∈ targets, q.occursIn t = true := by
  obtain ⟨before, m, after, operands, rfl, hreads⟩ := occursIn_iff_reads.mp h
  obtain ⟨b, hmem, hbranch⟩ := exists_branch_of_reads hreads
  obtain ⟨q, hq, hinside⟩ := List.any_eq_true.mp (List.all_eq_true.mp hp b hmem)
  obtain ⟨b', hmem', hpart⟩ := List.any_eq_true.mp hinside
  obtain ⟨rest, hrest, hbegin⟩ := List.any_eq_true.mp hpart
  have hstart : b' <+: rest := List.isPrefixOf_iff_prefix.mp hbegin
  have hend : rest <:+ b := (List.mem_tails rest b).mp hrest
  obtain ⟨m₁, m₂, m₃, rfl, hpassed⟩ :=
    Branch.exists_reads_of_infix (hstart.isInfix.trans hend.isInfix) hbranch
  obtain ⟨operands', hreads'⟩ := exists_reads_of_branch hmem' hpassed
  refine ⟨q, hq, occursIn_iff_reads.mpr ⟨before ++ m₁, m₂, m₃ ++ after, operands', by simp, ?_⟩⟩
  rwa [List.reverse_append]

end Pattern

end ExprGate
