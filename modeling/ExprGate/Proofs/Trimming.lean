import ExprGate.Sanitized
import Mathlib.Data.List.DropRight
import Mathlib.Data.List.Infix

/-!
# Trimming and sanitizing

Trimming leaves the one part of a text that has no blank at either end and nothing but blanks around
it. Some blanks are also control characters that sanitizing strips, so it could matter which of the
two comes first. It does not: a trimmed text is sanitized to the same as the text itself.
-/

namespace ExprGate

namespace Text

/-- No blank stands at either end of the text. -/
def Solid (t : Text) : Prop :=
  t.head?.any ExprGate.isBlank = false ∧ t.getLast?.any ExprGate.isBlank = false

/-- Trimming at the start ends where a text begins that does not start with a blank. -/
theorem trimStart_append {before t : Text} (ht : t.head?.any ExprGate.isBlank = false) :
    trimStart (before ++ t) = trimStart before ++ t := by
  have hstart : t.dropWhile ExprGate.isBlank = t := by
    cases t with
    | nil => rfl
    | cons c t => exact List.dropWhile_cons_of_neg (by simpa using ht)
  rw [trimStart, trimStart, List.dropWhile_append, hstart]
  by_cases hblank : before.dropWhile ExprGate.isBlank = []
  · simp [hblank]
  · simp [hblank]

/-- Trimming at the end stops at a text that does not end with a blank. -/
theorem trimEnd_append {t after : Text} (ht : t.getLast?.any ExprGate.isBlank = false) :
    trimEnd (t ++ after) = t ++ trimEnd after := by
  have hstart : trimStart (after.reverse ++ t.reverse) = trimStart after.reverse ++ t.reverse :=
    trimStart_append (by simpa using ht)
  simp only [trimStart] at hstart
  rw [trimEnd, trimEnd, List.reverse_append, hstart, List.reverse_append, List.reverse_reverse]

/-- Around a solid text, what stands before it is trimmed at its start and what stands after it at
its end. -/
theorem trim_append_append {before t after : Text} (hne : t ≠ []) (ht : t.Solid) :
    trim (before ++ t ++ after) = trimStart before ++ t ++ trimEnd after := by
  have hhead : (t ++ after).head?.any ExprGate.isBlank = false := by
    rw [List.head?_append_of_ne_nil t hne]
    exact ht.1
  have hlast : (trimStart before ++ t).getLast?.any ExprGate.isBlank = false := by
    rw [List.getLast?_append_of_ne_nil _ hne]
    exact ht.2
  rw [trim, List.append_assoc, trimStart_append hhead, ← List.append_assoc, trimEnd_append hlast]

/-- Blanks around a solid text are trimmed off, and nothing else is. -/
theorem trim_append_of_solid {before t after : Text}
    (hbefore : ∀ c ∈ before, ExprGate.isBlank c = true)
    (hafter : ∀ c ∈ after, ExprGate.isBlank c = true) (ht : t.Solid) :
    trim (before ++ t ++ after) = t := by
  by_cases hne : t = []
  · have hall : trimStart (before ++ t ++ after) = [] := by
      rw [hne, List.append_nil]
      exact List.dropWhile_eq_nil_iff.mpr (List.forall_mem_append.mpr ⟨hbefore, hafter⟩)
    rw [trim, hall, hne]
    rfl
  · have hstart : trimStart before = [] := List.dropWhile_eq_nil_iff.mpr hbefore
    have hend : trimEnd after = [] := List.rdropWhile_eq_nil_iff.mpr hafter
    rw [trim_append_append hne ht, hstart, hend, List.append_nil, List.nil_append]

/-- What is trimmed off at the end of a text are the blanks there. -/
private theorem trim_append_rtakeWhile (t : Text) :
    trim t ++ (trimStart t).rtakeWhile ExprGate.isBlank = trimStart t :=
  List.rdropWhile_append_rtakeWhile

/-- A trimmed text is solid. -/
theorem solid_trim (t : Text) : (trim t).Solid := by
  constructor
  · cases htrim : trim t with
    | nil => rfl
    | cons c rest =>
      have hsplit := trim_append_rtakeWhile t
      have hfirst := List.head?_dropWhile_not ExprGate.isBlank t
      rw [htrim, trimStart] at hsplit
      rw [← hsplit] at hfirst
      simpa using hfirst
  · by_cases hne : trim t = []
    · rw [hne]
      rfl
    · have hlast := List.rdropWhile_last_not ExprGate.isBlank (trimStart t) hne
      rw [List.getLast?_eq_some_getLast hne]
      exact Bool.eq_false_iff.mpr hlast

/-- A text is its trimmed part between blanks. -/
theorem exists_trim (t : Text) : ∃ before after, t = before ++ trim t ++ after ∧
    (∀ c ∈ before, ExprGate.isBlank c = true) ∧ ∀ c ∈ after, ExprGate.isBlank c = true := by
  refine ⟨t.takeWhile ExprGate.isBlank, (trimStart t).rtakeWhile ExprGate.isBlank, ?_,
    fun c hc => List.mem_takeWhile_imp hc, fun c hc => List.mem_rtakeWhile_imp hc⟩
  rw [List.append_assoc, trim_append_rtakeWhile]
  exact List.takeWhile_append_dropWhile.symm

/-- Nothing is trimmed off exactly the solid texts. -/
theorem trim_eq_self_iff {t : Text} : trim t = t ↔ t.Solid := by
  constructor
  · intro h
    exact h ▸ solid_trim t
  · intro h
    have hbare : trim ([] ++ t ++ []) = t := trim_append_of_solid (by simp) (by simp) h
    simpa using hbare

/-- Blanks around a text make no difference to trimming. -/
theorem trim_append_of_blank {before t after : Text}
    (hbefore : ∀ c ∈ before, ExprGate.isBlank c = true)
    (hafter : ∀ c ∈ after, ExprGate.isBlank c = true) :
    trim (before ++ t ++ after) = trim t := by
  obtain ⟨first, last, ht, hfirst, hlast⟩ := exists_trim t
  have hsplit : before ++ t ++ after = (before ++ first) ++ trim t ++ (last ++ after) := by
    conv_lhs => rw [ht]
    simp only [List.append_assoc]
  rw [hsplit]
  exact trim_append_of_solid (List.forall_mem_append.mpr ⟨hbefore, hfirst⟩)
    (List.forall_mem_append.mpr ⟨hlast, hafter⟩) (solid_trim t)

/-- Trimming a trimmed text changes nothing. -/
theorem trim_trim (t : Text) : trim (trim t) = trim t := trim_eq_self_iff.mpr (solid_trim t)

/-- Nothing is left by trimming exactly the blank texts. -/
theorem trim_eq_nil_iff {t : Text} : trim t = [] ↔ isBlank t = true := by
  obtain ⟨before, after, ht, hbefore, hafter⟩ := exists_trim t
  constructor
  · intro h
    rw [h, List.append_nil] at ht
    rw [ht]
    exact List.all_eq_true.mpr (List.forall_mem_append.mpr ⟨hbefore, hafter⟩)
  · intro h
    have hstart : trimStart t = [] := List.dropWhile_eq_nil_iff.mpr (List.all_eq_true.mp h)
    rw [trim, hstart]
    rfl

/-- A text is blank exactly if it is blank once trimmed. -/
theorem isBlank_trim (t : Text) : isBlank (trim t) = isBlank t := by
  rw [Bool.eq_iff_iff, ← trim_eq_nil_iff, ← trim_eq_nil_iff, trim_trim]

/-- A text that begins with one that is not blank is not blank. -/
theorem isBlank_append_left {s : Text} (hs : isBlank s = false) (t : Text) :
    isBlank (s ++ t) = false := by
  have hall : (s.all ExprGate.isBlank && t.all ExprGate.isBlank) = false := by
    rw [show s.all ExprGate.isBlank = false from hs, Bool.false_and]
  rw [isBlank, List.all_append, hall]

/-- Words that begin with a character that is not blank are not blank. -/
theorem isBlank_toList {c : Char} {rest : List Char} (hc : ExprGate.isBlank c = false) :
    isBlank (String.ofList (c :: rest)).toList = false := by
  rw [String.toList_ofList, isBlank, List.all_cons, hc, Bool.false_and]

/-- A string that begins with one that is not blank is not blank. -/
theorem isBlank_toList_append {s : String} (hs : isBlank s.toList = false) (t : String) :
    isBlank (s ++ t).toList = false := by
  rw [String.toList_append]
  exact isBlank_append_left hs _

/-- A trimmed text is no longer than the text. -/
theorem length_trim_le (t : Text) : (trim t).length ≤ t.length := by
  obtain ⟨before, after, ht, _, _⟩ := exists_trim t
  have hlength := congrArg List.length ht
  simp only [List.length_append] at hlength
  omega

end Text

/-- Blanks around a text make no difference to sanitizing, whether they are stripped or trimmed. -/
theorem sanitize_append_blank {before t after : Text} (hbefore : ∀ c ∈ before, isBlank c = true)
    (hafter : ∀ c ∈ after, isBlank c = true) :
    sanitize (before ++ t ++ after) = sanitize t := by
  have hkept (s : Text) (hs : ∀ c ∈ s, isBlank c = true) :
      ∀ c ∈ s.filter (fun c => !isStrippedControl c), isBlank c = true :=
    fun c hc => hs c (List.mem_of_mem_filter hc)
  rw [sanitize, sanitize, List.filter_append, List.filter_append,
    Text.trim_append_of_blank (hkept before hbefore) (hkept after hafter)]

/-- Trimming before sanitizing makes no difference. -/
theorem sanitize_trim (t : Text) : sanitize (Text.trim t) = sanitize t := by
  obtain ⟨before, after, ht, hbefore, hafter⟩ := Text.exists_trim t
  conv_rhs => rw [ht]
  exact (sanitize_append_blank hbefore hafter).symm

/-- Stripping leaves a text as it is that has no control character to strip. -/
theorem filter_eq_self_of_no_control {t : Text} (h : ∀ c ∈ t, isStrippedControl c = false) :
    t.filter (fun c => !isStrippedControl c) = t := by
  refine List.filter_eq_self.mpr fun c hc => ?_
  rw [h c hc]
  rfl

/-- Without a control character to strip, sanitizing is trimming. -/
theorem sanitize_of_no_control {t : Text} (h : ∀ c ∈ t, isStrippedControl c = false) :
    sanitize t = Text.trim t := by
  rw [sanitize, filter_eq_self_of_no_control h]

/-- Sanitizing leaves exactly the solid texts without control characters to strip as they are. -/
theorem sanitize_eq_self_iff {t : Text} :
    sanitize t = t ↔ (∀ c ∈ t, isStrippedControl c = false) ∧ t.Solid := by
  constructor
  · intro h
    have hall : t.filter (fun c => !isStrippedControl c) = t := by
      refine List.filter_sublist.eq_of_length_le ?_
      conv_lhs => rw [← h]
      exact Text.length_trim_le _
    rw [sanitize, hall] at h
    refine ⟨fun c hc => ?_, Text.trim_eq_self_iff.mp h⟩
    simpa using List.filter_eq_self.mp hall c hc
  · rintro ⟨hcontrol, hsolid⟩
    rw [sanitize_of_no_control hcontrol, Text.trim_eq_self_iff.mpr hsolid]

end ExprGate
