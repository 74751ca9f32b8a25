import ExprGate.Proofs.Weaving

/-!
# Names side by side

An expression that the evaluator can read is a concatenation of recognized names and characters of
notation. Validation accepts every such text, but also texts in which the erasure of one name brings
about another. The two kinds are told apart by leaving a blank where a name was erased: then no name
comes about, and notation is left exactly of the concatenations.
-/

namespace ExprGate

/-- The concatenations of names from the list and characters of notation. -/
inductive Spelled (names : List String) : Text → Prop
  | nil : Spelled names []
  | symbol {c : Char} {t : Text} : isNotationCharacter c = true → Spelled names t →
      Spelled names (c :: t)
  | name {name : String} {t : Text} : name ∈ names → Spelled names t →
      Spelled names (name.toList ++ t)

namespace Spelled

variable {names : List String}

/-- Notation is a concatenation of any names. -/
theorem of_notation {t : Text} (h : ∀ c ∈ t, isNotationCharacter c = true) : Spelled names t := by
  induction t with
  | nil => exact nil
  | cons c t ih =>
    obtain ⟨hc, ht⟩ := List.forall_mem_cons.mp h
    exact symbol hc (ih ht)

/-- Two concatenations make up another one. -/
theorem append {s t : Text} (hs : Spelled names s) (ht : Spelled names t) :
    Spelled names (s ++ t) := by
  induction hs with
  | nil => exact ht
  | symbol hc _ ih => exact symbol hc ih
  | name hname _ ih =>
    rw [List.append_assoc]
    exact name hname ih

/-- Concatenations, one after another, make up another one. -/
theorem flatMap {α : Type} {f : α → Text} {parts : List α}
    (h : ∀ part ∈ parts, Spelled names (f part)) : Spelled names (parts.flatMap f) := by
  induction parts with
  | nil => exact nil
  | cons part parts ih =>
    obtain ⟨hpart, hparts⟩ := List.forall_mem_cons.mp h
    rw [List.flatMap_cons]
    exact hpart.append (ih hparts)

/-- The characters of a concatenation are those of notation and of the names. -/
theorem notation_or_mem_name {t : Text} (h : Spelled names t) {c : Char} (hc : c ∈ t) :
    isNotationCharacter c = true ∨ ∃ name ∈ names, c ∈ name.toList := by
  induction h with
  | nil => exact absurd hc List.not_mem_nil
  | symbol hd _ ih =>
    rcases List.mem_cons.mp hc with rfl | hlater
    · exact Or.inl hd
    · exact ih hlater
  | @name name t hname _ ih =>
    rcases List.mem_append.mp hc with hinside | hlater
    · exact Or.inr ⟨name, hname, hinside⟩
    · exact ih hlater

end Spelled

/-- A concatenation without names is notation. -/
theorem spelled_nil_iff {t : Text} : Spelled [] t ↔ ∀ c ∈ t, isNotationCharacter c = true := by
  constructor
  · intro h
    induction h with
    | nil => simp
    | symbol hc _ ih => exact List.forall_mem_cons.mpr ⟨hc, ih⟩
    | name hname => exact absurd hname List.not_mem_nil
  · intro h
    exact Spelled.of_notation h

/-- Taking the copies of its first name out of a concatenation leaves one of the other names. -/
theorem Spelled.exists_inserted {first : String} {names : List String} {t : Text}
    (h : Spelled (first :: names) t) : ∃ u, Spelled names u ∧ Inserted first.toList u t := by
  induction h with
  | nil => exact ⟨[], Spelled.nil, Inserted.nil⟩
  | symbol hc _ ih =>
    obtain ⟨u, hu, hinserted⟩ := ih
    exact ⟨_, hu.symbol hc, hinserted.keep _⟩
  | name hname _ ih =>
    obtain ⟨u, hu, hinserted⟩ := ih
    rcases List.mem_cons.mp hname with rfl | hlater
    · exact ⟨u, hu, hinserted.put⟩
    · exact ⟨_, hu.name hlater, hinserted.append_left _⟩

/-- Every concatenation is woven: no name has to be put inside another. -/
theorem Spelled.woven {names : List String} {t : Text} (h : Spelled names t) : Woven names t := by
  induction names generalizing t with
  | nil => exact spelled_nil_iff.mp h
  | cons first names ih =>
    obtain ⟨u, hu, hinserted⟩ := h.exists_inserted
    exact ⟨u, ih hu, hinserted⟩

namespace Text

/-- The text with each of the names replaced everywhere by a blank, one name after another. -/
def blankAll (names : List String) (t : Text) : Text :=
  names.foldl (fun t name => substitute [' '] name.toList t) t

/-- Whether the word neither lies inside the other word nor begins inside it and goes on, over its
end, into one of the names. -/
def apart (names : List String) (word other : Text) : Bool :=
  other.tails.all fun s => s.isEmpty || !word.isPrefixOf s && (!s.isPrefixOf word ||
    names.all fun name => !(word.drop s.length).isPrefixOf name.toList &&
      !name.toList.isPrefixOf (word.drop s.length))

end Text

/-- Whether, in any concatenation of the names, the copies of each name are where the name itself
stands, once the earlier names are replaced. -/
def separable : List String → Bool
  | [] => true
  | name :: names => !name.toList.isEmpty &&
      (name.toList.all fun c => !isNotationCharacter c) &&
      (names.all fun other => Text.apart (name :: names) name.toList other.toList) &&
      separable names

/-- Separable names have no character of notation. -/
theorem not_notation_of_separable {names : List String} (h : separable names = true) :
    ∀ name ∈ names, ∀ c ∈ name.toList, isNotationCharacter c = false := by
  induction names with
  | nil => simp
  | cons first names ih =>
    simp only [separable, Bool.and_eq_true, List.all_eq_true, Bool.not_eq_true'] at h
    obtain ⟨⟨⟨_, hfirst⟩, _⟩, hnames⟩ := h
    exact List.forall_mem_cons.mpr ⟨hfirst, ih hnames⟩

/-- A text free of notation does not begin with a character of notation. -/
private theorem not_prefix_cons {c : Char} {s t : Text} (hne : s ≠ [])
    (hs : ∀ d ∈ s, isNotationCharacter d = false) (hc : isNotationCharacter c = true) :
    ¬ s <+: c :: t := by
  intro hstart
  obtain ⟨d, s, rfl⟩ := List.exists_cons_of_ne_nil hne
  obtain ⟨rfl, _⟩ := List.cons_prefix_cons.mp hstart
  rw [hs d List.mem_cons_self] at hc
  exact Bool.false_ne_true hc

/-- No concatenation begins with a text, free of notation, that neither begins one of the names nor
goes on from one of them. -/
theorem Spelled.not_prefix {names : List String} {t s : Text} (h : Spelled names t) (hne : s ≠ [])
    (hs : ∀ c ∈ s, isNotationCharacter c = false)
    (hnames : ∀ name ∈ names, ¬ s <+: name.toList ∧ ¬ name.toList <+: s) : ¬ s <+: t := by
  intro hstart
  cases h with
  | nil => exact hne (List.prefix_nil.mp hstart)
  | symbol hc _ => exact not_prefix_cons hne hs hc hstart
  | @name name t hname _ =>
    rcases List.prefix_or_prefix_of_prefix hstart (List.prefix_append name.toList t) with h | h
    · exact (hnames name hname).1 h
    · exact (hnames name hname).2 h

section Blanks

variable {first : String} {names : List String}

/-- Replacing a word passes over any name that stands apart from it in a concatenation. -/
theorem substitute_append_of_apart {word other t : Text} (r : Text)
    (hword : ∀ c ∈ word, isNotationCharacter c = false)
    (hapart : Text.apart names word other = true) (ht : Spelled names t) :
    Text.substitute r word (other ++ t) = other ++ Text.substitute r word t := by
  have hends (s : Text) (hs : s <:+ other) :
      Text.substitute r word (s ++ t) = s ++ Text.substitute r word t := by
    induction s with
    | nil => rfl
    | cons c s ih =>
      -- A copy that began here would lie inside the name or go on into the rest of the text.
      have hcopy : ¬ word <+: c :: (s ++ t) := by
        intro hstart
        have hend := List.all_eq_true.mp hapart (c :: s) ((List.mem_tails _ _).mpr hs)
        simp only [List.isEmpty_cons, Bool.false_or, Bool.and_eq_true, Bool.or_eq_true,
          Bool.not_eq_true', ← Bool.not_eq_true, List.isPrefixOf_iff_prefix,
          List.all_eq_true] at hend
        obtain ⟨hinside, hover⟩ := hend
        have hbegins : c :: s <+: word :=
          (List.prefix_or_prefix_of_prefix hstart (List.prefix_append (c :: s) t)).resolve_left
            hinside
        obtain ⟨rest, rfl⟩ := hbegins
        have hnames := hover.resolve_left (by simp)
        rw [List.drop_left] at hnames
        have hne : rest ≠ [] := by
          rintro rfl
          simp at hinside
        have hrest := fun d hd => hword d (List.mem_append_right _ hd)
        exact ht.not_prefix hne hrest hnames ((List.prefix_append_right_inj (c :: s)).mp hstart)
      rw [List.cons_append, Text.substitute_cons hcopy,
        ih ((List.suffix_cons c s).trans hs), List.cons_append]
  exact hends other List.suffix_rfl

/-- Replacing the first of separable names by a blank turns a concatenation into one of the other
names. -/
theorem Spelled.substitute_blank {t : Text} (hnames : separable (first :: names) = true)
    (h : Spelled (first :: names) t) : Spelled names (Text.substitute [' '] first.toList t) := by
  have hsymbols := not_notation_of_separable hnames first List.mem_cons_self
  simp only [separable, Bool.and_eq_true, Bool.not_eq_true', List.isEmpty_eq_false_iff,
    List.all_eq_true] at hnames
  obtain ⟨⟨⟨hne, _⟩, hapart⟩, _⟩ := hnames
  induction h with
  | nil => exact Spelled.nil
  | symbol hc _ ih =>
    rw [Text.substitute_cons (not_prefix_cons hne hsymbols hc)]
    exact ih.symbol hc
  | @name name t hname ht ih =>
    rcases List.mem_cons.mp hname with rfl | hlater
    · rw [Text.substitute_append_self hne]
      exact ih.symbol (by decide)
    · rw [substitute_append_of_apart [' '] hsymbols (hapart name hlater) ht]
      exact ih.name hlater

/-- What stands at the start of a text once a word is replaced by a blank, and has no blank itself,
stood there before. -/
theorem exists_of_substitute_blank_eq_append {word s t u : Text} (hword : word ≠ [])
    (hs : ' ' ∉ s) (h : Text.substitute [' '] word t = s ++ u) :
    ∃ rest, t = s ++ rest ∧ Text.substitute [' '] word rest = u := by
  induction s generalizing t with
  | nil => exact ⟨t, rfl, h⟩
  | cons c s ih =>
    simp only [List.mem_cons, not_or] at hs
    induction t using Text.scan_induction hword with
    | nil => simp at h
    | copy t =>
      rw [Text.substitute_append_self hword] at h
      exact absurd (List.cons.inj h).1 hs.1
    | cons d t hcopy =>
      rw [Text.substitute_cons hcopy] at h
      obtain ⟨rfl, hrest⟩ := List.cons.inj h
      obtain ⟨rest, rfl, hu⟩ := ih hs.2 hrest
      exact ⟨rest, rfl, hu⟩

/-- If replacing a name by a blank gives a concatenation of the other names, the text is one of all
the names. -/
theorem Spelled.of_substitute_blank {t : Text} (hne : first.toList ≠ [])
    (hnames : ∀ name ∈ names, ∀ c ∈ name.toList, isNotationCharacter c = false)
    (h : Spelled names (Text.substitute [' '] first.toList t)) : Spelled (first :: names) t := by
  generalize hu : Text.substitute [' '] first.toList t = u at h
  induction h generalizing t with
  | nil =>
    induction t using Text.scan_induction hne with
    | nil => exact Spelled.nil
    | copy t => simp [Text.substitute_append_self hne] at hu
    | cons c t hcopy => simp [Text.substitute_cons hcopy] at hu
  | symbol hc _ ih =>
    induction t using Text.scan_induction hne with
    | nil => simp at hu
    | copy t =>
      rw [Text.substitute_append_self hne] at hu
      exact Spelled.name List.mem_cons_self (ih (List.cons.inj hu).2)
    | cons d t hcopy =>
      rw [Text.substitute_cons hcopy] at hu
      obtain ⟨rfl, hrest⟩ := List.cons.inj hu
      exact Spelled.symbol hc (ih hrest)
  | @name name u hname _ ih =>
    have hblank : ' ' ∉ name.toList := fun hmem =>
      absurd (hnames name hname ' ' hmem) (by decide)
    obtain ⟨rest, rfl, hrest⟩ := exists_of_substitute_blank_eq_append hne hblank hu
    exact Spelled.name (List.mem_cons_of_mem first hname) (ih hrest)

end Blanks

/-- Replacing separable names by blanks, one after another, leaves notation exactly of their
concatenations. -/
theorem spelled_iff_blankAll {names : List String} (h : separable names = true) {t : Text} :
    Spelled names t ↔ ∀ c ∈ Text.blankAll names t, isNotationCharacter c = true := by
  induction names generalizing t with
  | nil => exact spelled_nil_iff
  | cons first names ih =>
    have hall := h
    simp only [separable, Bool.and_eq_true, Bool.not_eq_true', List.isEmpty_eq_false_iff] at h
    obtain ⟨⟨⟨hne, _⟩, _⟩, hnames⟩ := h
    rw [Text.blankAll, List.foldl_cons]
    refine Iff.trans ?_ (ih hnames)
    constructor
    · exact Spelled.substitute_blank hall
    · exact Spelled.of_substitute_blank hne (not_notation_of_separable hnames)

/-- The recognized names are separable. -/
theorem separable_recognizedNames : separable recognizedNames = true := by rfl

/-- Validation accepts exactly the texts of valid characters whose lower case is woven from the
recognized names. Such a text is a concatenation of names and notation exactly when only notation is
left once every name, in the order of erasure, is replaced by a blank; and every concatenation is
accepted. -/
theorem accepted_iff_woven_and_spelled_iff_blanked (t : Text) :
    (validateExpression t = .ok () ↔
      hasValidCharacters t = true ∧ Woven recognizedNames (Text.lower t)) ∧
    (hasValidCharacters t = true → (Spelled recognizedNames (Text.lower t) ↔
      validateExpression t = .ok () ∧ ∀ c ∈ Text.blankAll recognizedNames (Text.lower t),
        isNotationCharacter c = true)) := by
  refine ⟨validateExpression_eq_ok_iff_woven, fun hvalid => ?_⟩
  rw [spelled_iff_blankAll separable_recognizedNames]
  constructor
  · intro hblanked
    have hspelled := (spelled_iff_blankAll separable_recognizedNames).mpr hblanked
    exact ⟨validateExpression_eq_ok_iff_woven.mpr ⟨hvalid, hspelled.woven⟩, hblanked⟩
  · rintro ⟨_, hblanked⟩
    exact hblanked

/-- The text `csinos(2)` is accepted and admitted: erasing `sin` brings about `cos`. It is not a
concatenation of names and notation. -/
theorem accepted_not_spelled :
    validateExpression "csinos(2)".toList = .ok () ∧
      admitExpression .standard false "csinos(2)".toList =
        .ok ⟨"csinos(2)".toList, .strictMath, none⟩ ∧
      ¬ Spelled recognizedNames (Text.lower "csinos(2)".toList) := by
  refine ⟨by rfl, by rfl, ?_⟩
  rw [spelled_iff_blankAll separable_recognizedNames, ← List.all_eq_true]
  decide

end ExprGate
