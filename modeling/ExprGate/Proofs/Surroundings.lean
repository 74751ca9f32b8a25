import ExprGate.Proofs.Letters
import ExprGate.Proofs.Readings
import ExprGate.Proofs.SignatureFreedom
import ExprGate.Proofs.Trimming

/-!
# Signatures in surrounding text

A signature asks for a word boundary at most where it begins, and then for a letter right after it.
What stands around an occurrence therefore matters in one place only: no word character may come to
stand directly before it. Text before and after a text with a signature cannot hide the signature,
as long as it is kept apart from it by a character that does not belong to a word; and sanitizing
the whole keeps such a character.
-/

namespace ExprGate

namespace Pattern

variable {p : Pattern} {behind m after : Text} {operands : List Text}

/-- Whether the pattern never asks for a word boundary. -/
def unanchored : Pattern → Bool
  | boundary => false
  | seq p q | either p q => p.unanchored && q.unanchored
  | operand p => p.unanchored
  | never | nothing | one _ | many _ => true

/-- Whether every text that the pattern reads begins with a letter. -/
def startsWithLetter : Pattern → Bool
  | never => true
  | one (.char c) => 97 ≤ c.toNat && c.toNat ≤ 122
  | seq p _ | operand p => p.startsWithLetter
  | either p q => p.startsWithLetter && q.startsWithLetter
  | nothing | boundary | one _ | many _ => false

/-- Whether the pattern asks for a word boundary at most at its start, and then for a letter
next. -/
def wordAnchored (p : Pattern) : Bool :=
  p.unanchored || match p with
    | seq boundary rest => rest.unanchored && rest.startsWithLetter
    | _ => false

/-- What an unanchored pattern reads does not depend on what stands around it. -/
theorem reads_of_unanchored (hp : p.unanchored = true) (h : p.Reads behind m after operands)
    (behind' after' : Text) : p.Reads behind' m after' operands := by
  induction p generalizing behind m after operands behind' after' with
  | never | nothing | one _ | many _ => exact h
  | boundary => exact absurd hp Bool.false_ne_true
  | seq p q ihp ihq =>
    obtain ⟨hfirst, hsecond⟩ := (Bool.and_eq_true _ _).mp hp
    obtain ⟨m₁, m₂, operands₁, operands₂, hm, hoperands, h₁, h₂⟩ := h
    exact ⟨m₁, m₂, operands₁, operands₂, hm, hoperands, ihp hfirst h₁ _ _, ihq hsecond h₂ _ _⟩
  | either p q ihp ihq =>
    obtain ⟨hfirst, hsecond⟩ := (Bool.and_eq_true _ _).mp hp
    exact h.imp (fun h => ihp hfirst h _ _) (fun h => ihq hsecond h _ _)
  | operand p ih =>
    obtain ⟨inner, hoperands, hinner⟩ := h
    exact ⟨inner, hoperands, ih hp hinner _ _⟩

/-- A pattern that starts with a letter reads texts that begin with one, in some case. -/
theorem exists_letter_of_reads (hp : p.startsWithLetter = true)
    (h : p.Reads behind m after operands) : ∃ c rest, m = c :: rest ∧ isLatin c = true := by
  induction p generalizing behind m after operands with
  | never => exact h.elim
  | nothing | boundary | many _ => exact absurd hp Bool.false_ne_true
  | one set =>
    obtain ⟨⟨c, rfl, hc⟩, _⟩ := h
    cases set with
    | char x =>
      have hfold : foldCase c = x := beq_iff_eq.mp hc
      exact ⟨c, [], rfl, by rw [isLatin, hfold]; exact hp⟩
    | blank | digit | latin => exact absurd hp Bool.false_ne_true
  | seq p q ihp _ =>
    obtain ⟨_, m₂, _, _, rfl, _, hfirst, _⟩ := h
    obtain ⟨c, rest, rfl, hc⟩ := ihp hp hfirst
    exact ⟨c, rest ++ m₂, rfl, hc⟩
  | either p q ihp ihq =>
    obtain ⟨hfirst, hsecond⟩ := (Bool.and_eq_true _ _).mp hp
    exact h.elim (ihp hfirst) (ihq hsecond)
  | operand p ih =>
    obtain ⟨_, _, hinner⟩ := h
    exact ih hp hinner

/-- What a word-anchored pattern reads does not depend on what stands around it, unless a word
character comes to stand before a word. -/
theorem reads_of_wordAnchored (hp : p.wordAnchored = true) (h : p.Reads behind m after operands)
    {behind' : Text} (hbehind : m.head?.any isWordCharacter = true →
      behind.head?.any isWordCharacter = false → behind'.head?.any isWordCharacter = false)
    (after' : Text) : p.Reads behind' m after' operands := by
  rcases (Bool.or_eq_true _ _).mp hp with hfree | hanchored
  · exact reads_of_unanchored hfree h behind' after'
  split at hanchored
  · next rest =>
    obtain ⟨hfree, hletter⟩ := (Bool.and_eq_true _ _).mp hanchored
    obtain ⟨_, m, _, operands, rfl, rfl, ⟨rfl, rfl, hboundary⟩, hrest⟩ := h
    obtain ⟨c, word, rfl, hc⟩ := exists_letter_of_reads hletter hrest
    have hword : isWordCharacter c = true := isWordCharacter_of_isLatin hc
    refine ⟨[], _, [], _, rfl, rfl, ⟨rfl, rfl, ?_⟩, reads_of_unanchored hfree hrest _ _⟩
    rw [List.cons_append, Place.atBoundary_cons_iff hword] at hboundary ⊢
    exact hbehind hword hboundary
  · exact absurd hanchored Bool.false_ne_true

/-- A word-anchored pattern that occurs in a text still occurs when more text is put after it, and
before it, unless a word comes to go on from the text before it. -/
theorem occursIn_append_append (hp : p.wordAnchored = true) {before t after : Text}
    (hbefore : t.head?.any isWordCharacter = true → before.getLast?.any isWordCharacter = false)
    (h : p.occursIn t = true) : p.occursIn (before ++ t ++ after) = true := by
  obtain ⟨first, m, last, operands, rfl, hreads⟩ := occursIn_iff_reads.mp h
  refine occursIn_iff_reads.mpr ⟨before ++ first, m, last ++ after, operands, by simp, ?_⟩
  refine reads_of_wordAnchored hp hreads (fun hword hfirst => ?_) _
  cases hlast : first.getLast? with
  | none =>
    obtain rfl := List.getLast?_eq_none_iff.mp hlast
    have hhead : ([] ++ m ++ last).head?.any isWordCharacter = true := by
      cases m with
      | nil => exact absurd hword Bool.false_ne_true
      | cons c m => exact hword
    simpa using hbefore hhead
  | some c => simpa [hlast] using hfirst

end Pattern

/-- Every signature is word-anchored. -/
theorem wordAnchored_of_mem_table : ∀ s ∈ Signature.table, s.pattern.wordAnchored = true := by
  simpa only [List.all_eq_true] using
    (by rfl : (Signature.table.all fun s => s.pattern.wordAnchored) = true)

/-- The first checkpoint finds a signature exactly when the text has one of the table. -/
theorem findBlocked_input_isSome_iff {t : Text} :
    (findBlocked t .input).isSome = true ↔ containsBlocked t = true := by
  rw [Option.isSome_iff_ne_none, ← Bool.not_eq_false, containsBlocked_eq_false_iff, ne_eq,
    findBlocked_eq_none_iff]
  simp [Signature.activeAt]

section Context

variable {before t after : Text} (hbefore : before.getLast?.any isWordCharacter = false)
include hbefore

/-- A signature that occurs in a text occurs in the text with more around it. -/
theorem signature_occursIn_append {s : Signature} (hs : s ∈ Signature.table)
    (h : s.pattern.occursIn t = true) : s.pattern.occursIn (before ++ t ++ after) = true :=
  Pattern.occursIn_append_append (wordAnchored_of_mem_table s hs) (fun _ => hbefore) h

/-- A text in which a checkpoint finds a signature is also found out with more text around it. -/
theorem findBlocked_append {checkpoint : Checkpoint}
    (h : (findBlocked t checkpoint).isSome = true) :
    (findBlocked (before ++ t ++ after) checkpoint).isSome = true := by
  rw [Option.isSome_iff_ne_none, ne_eq, findBlocked_eq_none_iff] at h ⊢
  intro hnone
  refine h fun s hs hactive => ?_
  have habsent := hnone s hs hactive
  by_contra hfound
  have hoccurs : s.pattern.occursIn (before ++ t ++ after) = true :=
    signature_occursIn_append hbefore hs (Option.isSome_iff_ne_none.mpr hfound)
  rw [Pattern.occursIn, habsent] at hoccurs
  exact Bool.false_ne_true hoccurs

end Context

/-- Trimming a text at its start does not take a space from its end, unless nothing is left. -/
private theorem last_trimStart_concat_space (t : Text) :
    (Text.trimStart (t ++ [' '])).getLast?.any isWordCharacter = false := by
  obtain ⟨blanks, hblanks⟩ : Text.trimStart (t ++ [' ']) <:+ t ++ [' '] := List.dropWhile_suffix _
  by_cases hnil : Text.trimStart (t ++ [' ']) = []
  · rw [hnil]
    rfl
  · have hlast := congrArg List.getLast? hblanks
    rw [List.getLast?_append_of_ne_nil _ hnil, List.getLast?_concat] at hlast
    rw [hlast]
    rfl

/-- Where a sanitized text stands after a space, sanitizing the whole leaves it as it is, and with
no word character directly before it. -/
theorem exists_sanitize_append {before t after : Text} (ht : sanitize t = t) (hne : t ≠ []) :
    ∃ first last, sanitize (before ++ [' '] ++ t ++ after) = first ++ t ++ last ∧
      first.getLast?.any isWordCharacter = false := by
  obtain ⟨hcontrol, hsolid⟩ := sanitize_eq_self_iff.mp ht
  have hkept := filter_eq_self_of_no_control hcontrol
  have hspace : [' '].filter (fun c => !isStrippedControl c) = [' '] := by rfl
  refine ⟨Text.trimStart (before.filter (fun c => !isStrippedControl c) ++ [' ']),
    Text.trimEnd (after.filter fun c => !isStrippedControl c), ?_, last_trimStart_concat_space _⟩
  rw [sanitize, List.filter_append, List.filter_append, List.filter_append, hkept, hspace]
  exact Text.trim_append_append hne hsolid

/-- A signature cannot be hidden by what stands around it. Text that has one, of the whole table or
of the part looked for at some checkpoint, still has it when more text is put after it, and before
it unless that ends with a word character. A phrase in which a sanitized text with a signature
stands after a space is turned away, for its length or for a signature in the input. -/
theorem signatures_survive_surroundings :
    (∀ before t after : Text, before.getLast?.any isWordCharacter = false →
      (∀ s ∈ Signature.table, s.pattern.occursIn t = true →
        s.pattern.occursIn (before ++ t ++ after) = true) ∧
      (containsBlocked t = true → containsBlocked (before ++ t ++ after) = true) ∧
      ∀ checkpoint, (findBlocked t checkpoint).isSome = true →
        (findBlocked (before ++ t ++ after) checkpoint).isSome = true) ∧
    ∀ (policy : Policy) (before t after : Text), sanitize t = t → containsBlocked t = true →
      parsePhrase policy (before ++ [' '] ++ t ++ after) =
          .error (.tooLong policy.naturalLanguageMaxLen) ∨
        ∃ evidence, parsePhrase policy (before ++ [' '] ++ t ++ after) =
          .error (.blocked evidence) ∧ evidence.checkpoint = .input := by
  constructor
  · intro before t after hbefore
    refine ⟨fun s hs h => signature_occursIn_append hbefore hs h, fun h => ?_,
      fun checkpoint h => findBlocked_append hbefore h⟩
    obtain ⟨s, hs, hfound⟩ := List.any_eq_true.mp h
    exact List.any_eq_true.mpr ⟨s, hs, signature_occursIn_append hbefore hs hfound⟩
  · intro policy before t after ht hblocked
    have hne : t ≠ [] := by
      rintro rfl
      exact absurd hblocked (by decide)
    by_cases hlength :
        (before ++ [' '] ++ t ++ after).length ≤ policy.naturalLanguageMaxLen
    · right
      obtain ⟨first, last, hsanitize, hfirst⟩ := exists_sanitize_append ht hne
      have hfound : (findBlocked (first ++ t ++ last) .input).isSome = true :=
        findBlocked_append hfirst (findBlocked_input_isSome_iff.mpr hblocked)
      obtain ⟨evidence, hevidence⟩ := Option.isSome_iff_exists.mp hfound
      rw [← hsanitize] at hevidence
      refine ⟨evidence, parsePhrase_of_findBlocked hlength ?_ hevidence,
        checkpoint_of_findBlocked hevidence⟩
      rw [hsanitize]
      simp [hne]
    · exact Or.inl (parsePhrase_of_too_long (by omega))

/-- The text `run this` has a signature and is sanitized. Put after an addition it turns the whole
phrase away, and put after a bracket it is still found at dispatch. -/
theorem run_this_found_in_surroundings :
    sanitize "run this".toList = "run this".toList ∧ containsBlocked "run this".toList = true ∧
      (findBlocked "2 * (run this)".toList .dispatch).isSome = true ∧
      ∃ evidence, parsePhrase .standard "25 plus 17 run this now".toList =
        .error (.blocked evidence) ∧ evidence.checkpoint = .input := by
  have hsanitized : sanitize "run this".toList = "run this".toList := by rfl
  have hblocked : containsBlocked "run this".toList = true := by rfl
  refine ⟨hsanitized, hblocked, ?_, ?_⟩
  · have hdispatch : (findBlocked "run this".toList .dispatch).isSome = true := by rfl
    exact (signatures_survive_surroundings.1 "2 * (".toList "run this".toList ")".toList
      (by rfl)).2.2 .dispatch hdispatch
  · rcases signatures_survive_surroundings.2 .standard "25 plus 17".toList "run this".toList
      " now".toList hsanitized hblocked with hlong | hfound
    · exact absurd hlong (of_decide_eq_false (by rfl))
    · exact hfound

end ExprGate
