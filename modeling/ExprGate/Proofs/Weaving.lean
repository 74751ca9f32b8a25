import ExprGate.Proofs.CleanTexts

/-!
# Names woven into notation

Erasing a name undoes putting copies of it into a text, provided that the copies can be told apart
from what stands around them. The recognized names are of this kind, in the order in which they are
erased. The texts that validation accepts are therefore those that come about from notation by
putting in names one after another, each one possibly inside a name that was put in before.
-/

namespace ExprGate

namespace Text

/-- Replaces the occurrences of `word`, found from left to right without overlap, by `r`, after
leaving out the next `skip` characters. -/
def substituteFrom (r word : Text) : Nat → Text → Text
  | _, [] => []
  | skip + 1, _ :: rest => substituteFrom r word skip rest
  | 0, c :: rest =>
    if word.isPrefixOf (c :: rest) then r ++ substituteFrom r word (word.length - 1) rest
    else c :: substituteFrom r word 0 rest

/-- Replaces every occurrence of `word`, found from left to right without overlap, by `r`. -/
def substitute (r word t : Text) : Text := substituteFrom r word 0 t

/-- Nothing is replaced in the empty text. -/
@[simp] theorem substitute_nil (r word : Text) : substitute r word [] = [] := rfl

/-- Leaving out characters comes to the same as beginning after them. -/
private theorem substituteFrom_eq_drop (r word : Text) (skip : Nat) (t : Text) :
    substituteFrom r word skip t = substitute r word (t.drop skip) := by
  induction t generalizing skip with
  | nil => simp [substitute, substituteFrom]
  | cons c t ih =>
    cases skip with
    | zero => rfl
    | succ skip => simpa [substituteFrom] using ih skip

/-- A copy of the word at the start of a text is replaced. -/
theorem substitute_append_self {word : Text} (hword : word ≠ []) (r t : Text) :
    substitute r word (word ++ t) = r ++ substitute r word t := by
  obtain ⟨c, rest, rfl⟩ := List.exists_cons_of_ne_nil hword
  have hcopy : (c :: rest).isPrefixOf (c :: (rest ++ t)) = true := by
    rw [List.isPrefixOf_iff_prefix]
    exact List.prefix_append (c :: rest) t
  rw [substitute, List.cons_append, substituteFrom, if_pos hcopy, substituteFrom_eq_drop]
  simp

/-- A character with which no copy of the word begins stays. -/
theorem substitute_cons {word t : Text} {c : Char} (h : ¬ word <+: c :: t) (r : Text) :
    substitute r word (c :: t) = c :: substitute r word t := by
  rw [← List.isPrefixOf_iff_prefix] at h
  rw [substitute, substituteFrom, if_neg h, substitute]

/-- Erasing a word replaces it by nothing. -/
theorem erase_eq_substitute (word t : Text) : erase word t = substitute [] word t := by
  have hfrom (skip : Nat) : eraseFrom word skip t = substituteFrom [] word skip t := by
    induction t generalizing skip with
    | nil => simp [eraseFrom, substituteFrom]
    | cons c t ih => cases skip <;> simp [eraseFrom, substituteFrom, ih]
  exact hfrom 0

/-- Induction along a scan for copies of a word. -/
theorem scan_induction {word : Text} (hword : word ≠ []) {motive : Text → Prop}
    (nil : motive []) (copy : ∀ t, motive t → motive (word ++ t))
    (cons : ∀ c t, ¬ word <+: c :: t → motive t → motive (c :: t)) (t : Text) : motive t := by
  generalize hn : t.length = n
  induction n using Nat.strong_induction_on generalizing t with
  | _ n ih =>
    cases t with
    | nil => exact nil
    | cons c t =>
      by_cases hcopy : word <+: c :: t
      · obtain ⟨rest, hrest⟩ := hcopy
        have hlength := congrArg List.length hrest
        have hpositive := List.length_pos_iff.mpr hword
        rw [List.length_append] at hlength
        rw [← hrest]
        exact copy rest (ih rest.length (by omega) rest rfl)
      · rw [List.length_cons] at hn
        exact cons c t hcopy (ih t.length (by omega) t rfl)

/-- Whether no end of the word other than itself is also a beginning of it. -/
def unbordered (word : Text) : Bool :=
  word.tail.tails.all fun s => s.isEmpty || !s.isPrefixOf word

end Text

/-- The second text is the first one with copies of the word put in. -/
inductive Inserted (word : Text) : Text → Text → Prop
  | nil : Inserted word [] []
  | put {u t : Text} : Inserted word u t → Inserted word u (word ++ t)
  | keep {u t : Text} (c : Char) : Inserted word u t → Inserted word (c :: u) (c :: t)

namespace Inserted

variable {word u t : Text}

/-- Keeping a whole text keeps each of its characters. -/
theorem append_left (s : Text) (h : Inserted word u t) : Inserted word (s ++ u) (s ++ t) := by
  induction s with
  | nil => exact h
  | cons c s ih => exact ih.keep c

/-- Putting the erased copies of a word back gives the text. -/
theorem of_erase (hword : word ≠ []) (t : Text) : Inserted word (Text.erase word t) t := by
  rw [Text.erase_eq_substitute]
  induction t using Text.scan_induction hword with
  | nil => exact nil
  | copy t ih =>
    rw [Text.substitute_append_self hword, List.nil_append]
    exact ih.put
  | cons c t hcopy ih =>
    rw [Text.substitute_cons hcopy]
    exact ih.keep c

/-- An end of an unbordered word that the text begins with was there before copies of the word were
put in: it cannot reach into a copy. -/
theorem prefix_of_suffix (hword : Text.unbordered word = true) (h : Inserted word u t) {s : Text}
    (hs : s <:+ word.tail) (hstart : s <+: t) : s <+: u := by
  induction h generalizing s with
  | nil => exact hstart
  | @put u t _ ih =>
    by_cases hempty : s = []
    · subst hempty
      exact List.nil_prefix
    have hshort : s.length ≤ word.length := by
      have := hs.length_le
      rw [List.length_tail] at this
      omega
    have hbegins : s <+: word :=
      List.prefix_of_prefix_length_le hstart (List.prefix_append word t) hshort
    have hborder := List.all_eq_true.mp hword s ((List.mem_tails _ _).mpr hs)
    rw [Bool.or_eq_true, List.isEmpty_iff, Bool.not_eq_true', ← Bool.not_eq_true,
      List.isPrefixOf_iff_prefix] at hborder
    exact absurd hbegins (hborder.resolve_left hempty)
  | keep c _ ih =>
    cases s with
    | nil => exact List.nil_prefix
    | cons d s =>
      obtain ⟨rfl, hrest⟩ := List.cons_prefix_cons.mp hstart
      exact List.cons_prefix_cons.mpr ⟨rfl, ih ((List.suffix_cons d s).trans hs) hrest⟩

/-- Erasing an unbordered word takes out the copies that were put into a text without the word, and
nothing else. -/
theorem erase_eq (hne : word ≠ []) (hword : Text.unbordered word = true)
    (h : Inserted word u t) (hu : ¬ word <:+: u) : Text.erase word t = u := by
  rw [Text.erase_eq_substitute]
  induction h with
  | nil => rfl
  | put _ ih => rw [Text.substitute_append_self hne, List.nil_append, ih hu]
  | @keep u t c h ih =>
    -- No end of the word reaches into a copy put in, so a copy that begins here lies in `c :: u`.
    have hcopy : ¬ word <+: c :: t := by
      intro hstart
      obtain ⟨d, rest, rfl⟩ := List.exists_cons_of_ne_nil hne
      obtain ⟨rfl, hrest⟩ := List.cons_prefix_cons.mp hstart
      have hbefore : rest <+: u := h.prefix_of_suffix hword List.suffix_rfl hrest
      exact hu (List.cons_prefix_cons.mpr ⟨rfl, hbefore⟩).isInfix
    have hrest : ¬ word <:+: u := fun hinside =>
      hu (hinside.trans (List.suffix_cons c u).isInfix)
    rw [Text.substitute_cons hcopy, ih hrest]

end Inserted

/-- The texts that come about from notation by putting in the names, the last one of the list first
and each one anywhere. -/
def Woven : List String → Text → Prop
  | [], t => ∀ c ∈ t, isNotationCharacter c = true
  | name :: names, t => ∃ u, Woven names u ∧ Inserted name.toList u t

/-- Whether the erasure of the names, one after another, finds exactly the copies put in: each name
is unbordered, and lasts through the erasure of the later ones. -/
def orderly : List String → Bool
  | [] => true
  | name :: names => !name.toList.isEmpty && Text.unbordered name.toList &&
      Text.lasts names name.toList && orderly names

/-- The erasure of orderly names reduces exactly the woven texts to notation. -/
theorem woven_iff_eraseAll {names : List String} (h : orderly names = true) {t : Text} :
    Woven names t ↔ ∀ c ∈ Text.eraseAll names t, isNotationCharacter c = true := by
  induction names generalizing t with
  | nil => rfl
  | cons name names ih =>
    simp only [orderly, Bool.and_eq_true, Bool.not_eq_true', List.isEmpty_eq_false_iff] at h
    obtain ⟨⟨⟨hne, hunbordered⟩, hlasts⟩, hnames⟩ := h
    constructor
    · rintro ⟨u, hu, hinserted⟩
      have hsymbols := (ih hnames).mp hu
      -- A copy of the name in `u` would have lasted through the erasure of the later names.
      have hu' : ¬ name.toList <:+: u := Text.not_infix_of_lasts hlasts hsymbols
      rw [Text.eraseAll, List.foldl_cons, hinserted.erase_eq hne hunbordered hu']
      exact hsymbols
    · intro hsymbols
      exact ⟨Text.erase name.toList t, (ih hnames).mpr hsymbols, Inserted.of_erase hne t⟩

/-- The recognized names are orderly. -/
theorem orderly_recognizedNames : orderly recognizedNames = true := by rfl

/-- Validation accepts exactly the texts of valid characters whose lower case is woven from the
recognized names. -/
theorem validateExpression_eq_ok_iff_woven {t : Text} : validateExpression t = .ok () ↔
    hasValidCharacters t = true ∧ Woven recognizedNames (Text.lower t) := by
  rw [validateExpression_eq_ok_iff, isClean_iff, woven_iff_eraseAll orderly_recognizedNames]

end ExprGate
