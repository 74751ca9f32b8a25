import ExprGate.CommandEvaluator
import ExprGate.Proofs.Trimming
import ExprGate.Proofs.Utf8Decoding
import ExprGate.Proofs.Weaving

/-!
# Answers of programs

What a program printed reaches the caller as it stands, apart from the joining of continued lines
and the blanks around it: whether the answer is kept as a number or as a text, it is written back
character for character. A program that did not answer is reported with a message that says why.
-/

namespace ExprGate

namespace ProcessOutput

/-! ## Continued lines -/

/-- What breaks a long answer into lines. -/
def continuation : Text := ['\\', '\n']

/-- A continuation that begins at a character lies within what stands before a text that does not
start with a line break. -/
theorem infix_of_prefix_append {c : Char} {s t : Text} (ht : t.head? ≠ some '\n')
    (h : continuation <+: c :: (s ++ t)) : continuation <:+: c :: s := by
  obtain ⟨rest, hrest⟩ := h
  obtain ⟨rfl, hnext⟩ := List.cons.inj hrest
  cases s with
  | nil =>
    rw [List.nil_append] at hnext
    rw [← hnext] at ht
    exact absurd rfl ht
  | cons d s =>
    obtain ⟨rfl, _⟩ := List.cons.inj hnext
    exact ⟨[], s, rfl⟩

/-- Joining lines replaces every continuation by nothing. -/
theorem joinLines_eq_substitute (t : Text) :
    joinLines t = Text.substitute [] continuation t := Text.erase_eq_substitute _ t

/-- What stands before a text that does not start with a line break is kept, if it has no
continuation. -/
theorem joinLines_append {s t : Text} (hs : ¬ continuation <:+: s) (ht : t.head? ≠ some '\n') :
    joinLines (s ++ t) = s ++ joinLines t := by
  rw [joinLines_eq_substitute, joinLines_eq_substitute]
  induction s with
  | nil => rfl
  | cons c s ih =>
    have hstart : ¬ continuation <+: c :: (s ++ t) := fun h => hs (infix_of_prefix_append ht h)
    have hrest : ¬ continuation <:+: s := fun h => hs (h.trans (List.suffix_cons c s).isInfix)
    rw [List.cons_append, Text.substitute_cons hstart, ih hrest, List.cons_append]

/-- A text without continuation is kept. -/
theorem joinLines_of_not_infix {s : Text} (hs : ¬ continuation <:+: s) : joinLines s = s := by
  have hbare := joinLines_append hs (t := []) (by simp)
  rw [List.append_nil] at hbare
  rw [hbare, joinLines_eq_substitute, Text.substitute_nil, List.append_nil]

/-- A continuation between two texts is dropped. -/
theorem joinLines_append_continuation {s : Text} (hs : ¬ continuation <:+: s) (t : Text) :
    joinLines (s ++ continuation ++ t) = s ++ joinLines t := by
  have hne : continuation ≠ [] := List.cons_ne_nil _ _
  have hdropped : joinLines (continuation ++ t) = joinLines t := by
    rw [joinLines_eq_substitute, joinLines_eq_substitute, Text.substitute_append_self hne,
      List.nil_append]
  rw [List.append_assoc, joinLines_append hs (by simp [continuation]), hdropped]

/-- Joining lines concatenates the segments between the continuations. -/
theorem joinLines_intercalate {segments : List Text}
    (h : ∀ s ∈ segments, ¬ continuation <:+: s) :
    joinLines (continuation.intercalate segments) = segments.flatten := by
  induction segments with
  | nil => rfl
  | cons first rest ih =>
    obtain ⟨hfirst, hrest⟩ := List.forall_mem_cons.mp h
    cases rest with
    | nil =>
      rw [List.intercalate_singleton, joinLines_of_not_infix hfirst, List.flatten_singleton]
    | cons second rest =>
      rw [List.intercalate_cons_cons, joinLines_append_continuation hfirst, ih hrest]
      rfl

/-- A text without a backslash has no continuation. -/
theorem not_infix_of_not_mem {s : Text} (h : '\\' ∉ s) : ¬ continuation <:+: s := by
  intro hoccurs
  exact h (hoccurs.subset (by simp [continuation]))

/-- Segments without a backslash give the same when they are joined by continuations and when they
are joined by nothing. -/
theorem joinLines_intercalate_eq {segments : List Text} (h : ∀ s ∈ segments, '\\' ∉ s) :
    joinLines (continuation.intercalate segments) = joinLines segments.flatten := by
  have hflat : '\\' ∉ segments.flatten := by simpa using h
  rw [joinLines_intercalate fun s hs => not_infix_of_not_mem (h s hs),
    joinLines_of_not_infix (not_infix_of_not_mem hflat)]

/-! ## Answers and failures -/

/-- An answer is written back as it was read. -/
theorem render_valueOf (answer : Text) : (valueOf answer).render = answer := by
  unfold valueOf
  split
  · split
    · next htext => exact htext
    · rfl
  · rfl

/-- What is left of a printed text by joining and trimming is the answer. -/
theorem readAnswer_of_printed {printed : Text} (h : Text.isBlank (joinLines printed) = false) :
    readAnswer printed = .ok (valueOf (Text.trim (joinLines printed))) := by
  unfold readAnswer
  split
  · next hnone =>
    rw [Text.trim_eq_nil_iff, h] at hnone
    cases hnone
  · rfl

/-- A printed text of which joining leaves blanks only is no answer. -/
theorem readAnswer_of_blank {printed : Text} (h : Text.isBlank (joinLines printed) = true) :
    readAnswer printed = .error (.failed "Evaluator produced no output".toList) := by
  rw [readAnswer, Text.trim_eq_nil_iff.mpr h]

/-- Whether the program answered: it ended with success, said nothing on its error output, and
printed something. -/
structure Answered (output : ProcessOutput) : Prop where
  /-- The program ended with success. -/
  success : output.ending.isSuccess = true
  /-- Its error output is blank. -/
  silent : Text.isBlank (Utf8.decodeLossy output.stderr) = true
  /-- Once continued lines are joined, its standard output is not blank. -/
  printed : Text.isBlank (joinLines (Utf8.decodeLossy output.stdout)) = false

/-- Why a program did not answer: in its own words if it said something on its error output, else by
how it ended if that was not with success, and else for having printed nothing. -/
def failureMessage (output : ProcessOutput) : Text :=
  if Text.isBlank (Utf8.decodeLossy output.stderr) then
    if output.ending.isSuccess then "Evaluator produced no output".toList
    else "Evaluator exited with ".toList ++ output.ending.text
  else Text.trim (Utf8.decodeLossy output.stderr)

/-- The message on a program that did not answer says something. -/
theorem failureMessage_not_blank (output : ProcessOutput) :
    Text.isBlank output.failureMessage = false := by
  unfold failureMessage
  split
  · split
    · exact Text.isBlank_toList (by decide)
    · exact Text.isBlank_append_left (Text.isBlank_toList (by decide)) _
  · next hcomplaint =>
    rw [Text.isBlank_trim]
    exact Bool.eq_false_iff.mpr hcomplaint

/-- A program that answered gives a value that is written back as what it printed. -/
theorem interpret_of_answered {output : ProcessOutput} (h : output.Answered) :
    ∃ v, output.interpret = .ok v ∧
      v.render = Text.trim (joinLines (Utf8.decodeLossy output.stdout)) := by
  have hcomplaint : output.complaint = [] := Text.trim_eq_nil_iff.mpr h.silent
  refine ⟨_, ?_, render_valueOf _⟩
  rw [interpret, hcomplaint]
  simp only [h.success, if_true]
  exact readAnswer_of_printed h.printed

/-- A program that did not answer fails with the message on it. -/
theorem interpret_of_not_answered {output : ProcessOutput} (h : ¬ output.Answered) :
    output.interpret = .error (.failed output.failureMessage) := by
  unfold interpret failureMessage
  cases hsilent : Text.isBlank (Utf8.decodeLossy output.stderr) with
  | false =>
    have hcomplaint : output.complaint ≠ [] := by
      rw [complaint, Ne, Text.trim_eq_nil_iff, hsilent]
      exact Bool.false_ne_true
    split
    · contradiction
    · rfl
  | true =>
    have hcomplaint : output.complaint = [] := Text.trim_eq_nil_iff.mpr hsilent
    rw [hcomplaint]
    cases hsuccess : output.ending.isSuccess with
    | false => rfl
    | true =>
      have hblank : Text.isBlank (joinLines (Utf8.decodeLossy output.stdout)) = true := by
        by_contra hprinted
        exact h ⟨hsuccess, hsilent, Bool.eq_false_iff.mpr hprinted⟩
      exact readAnswer_of_blank hblank

/-- Every value comes from a program that answered, and is written back as what it printed. -/
theorem answered_of_interpret {output : ProcessOutput} {v : Value}
    (h : output.interpret = .ok v) : output.Answered ∧
      v.render = Text.trim (joinLines (Utf8.decodeLossy output.stdout)) := by
  have hanswered : output.Answered := by
    by_contra hnot
    rw [interpret_of_not_answered hnot] at h
    cases h
  obtain ⟨v', hv', hrender⟩ := interpret_of_answered hanswered
  obtain rfl : v' = v := Except.ok.inj (hv'.symm.trans h)
  exact ⟨hanswered, hrender⟩

/-- What an output says depends on the text that its standard output is decoded to, and on that only
once its lines are joined. -/
theorem interpret_congr {output : ProcessOutput} {stdout stdout' : List UInt8}
    (h : joinLines (Utf8.decodeLossy stdout) = joinLines (Utf8.decodeLossy stdout')) :
    interpret { output with stdout := stdout } = interpret { output with stdout := stdout' } := by
  have hcomplaint : complaint { output with stdout := stdout } =
      complaint { output with stdout := stdout' } := rfl
  simp only [interpret, hcomplaint, readAnswer, h]

end ProcessOutput

open ProcessOutput in
/-- What a program leaves behind is passed on exactly. The evaluator gives a value if and only if
the program answered, and that value is written back as what was printed, with its lines joined and
the blanks around it trimmed off; otherwise the evaluator fails with a message that says why.
Answers without backslashes give the same whether they are broken into lines or not. -/
theorem output_is_passed_on_exactly {e : CommandEvaluator} {host : Host} {expression : Text}
    {output : ProcessOutput} (hended : host (e.invocation expression) = .ended output) :
    ((∃ v, e.evaluate host expression = .ok v) ↔ output.Answered) ∧
    (∀ v, e.evaluate host expression = .ok v →
      v.render = Text.trim (joinLines (Utf8.decodeLossy output.stdout))) ∧
    (¬ output.Answered → Text.isBlank output.failureMessage = false ∧
      e.evaluate host expression = .error (.failed output.failureMessage)) ∧
    ∀ segments : List Text, (∀ s ∈ segments, '\\' ∉ s) → ∀ broken whole : List UInt8,
      Utf8.decodeLossy broken = continuation.intercalate segments →
      Utf8.decodeLossy whole = segments.flatten →
      interpret { output with stdout := broken } = interpret { output with stdout := whole } := by
  have hevaluate : e.evaluate host expression = output.interpret := by
    rw [CommandEvaluator.evaluate, hended]
    rfl
  rw [hevaluate]
  refine ⟨⟨fun ⟨v, hv⟩ => (answered_of_interpret hv).1, fun h => ?_⟩,
    fun v hv => (answered_of_interpret hv).2,
    fun h => ⟨output.failureMessage_not_blank, interpret_of_not_answered h⟩, ?_⟩
  · obtain ⟨v, hv, _⟩ := interpret_of_answered h
    exact ⟨v, hv⟩
  · intro segments hsegments broken whole hbroken hwhole
    apply interpret_congr
    rw [hbroken, hwhole, joinLines_intercalate_eq hsegments]

open ProcessOutput in
/-- A long decimal with a trailing zero, broken into two lines, is passed on as it is, and in two
parts or in one it says the same. -/
theorem broken_decimal_is_passed_on :
    let calculator := CommandEvaluator.plain ['b', 'c'] [] ⟨5000000000⟩
    let host : Host := fun _ => .ended ⟨Utf8.encode "1234\\\n5.50\n".toList, [], .exited 0⟩
    (∃ v, calculator.evaluate host "1".toList = .ok v ∧ v.render = "12345.50".toList) ∧
    interpret ⟨Utf8.encode "1234\\\n5.50".toList, [], .exited 0⟩ =
      interpret ⟨Utf8.encode "12345.50".toList, [], .exited 0⟩ := by
  intro calculator host
  have hended : host (calculator.invocation "1".toList) =
      .ended ⟨Utf8.encode "1234\\\n5.50\n".toList, [], .exited 0⟩ := rfl
  obtain ⟨hiff, hrender, _, hsegments⟩ := output_is_passed_on_exactly hended
  have hstdout : Utf8.decodeLossy (Utf8.encode "1234\\\n5.50\n".toList) = "1234\\\n5.50\n".toList :=
    Utf8.decodeLossy_encode _
  constructor
  · obtain ⟨v, hv⟩ := hiff.mpr ⟨rfl, rfl, by rw [hstdout]; rfl⟩
    refine ⟨v, hv, ?_⟩
    rw [hrender v hv, hstdout]
    rfl
  · exact hsegments ["1234".toList, "5.50".toList] (by simp) _ _ (Utf8.decodeLossy_encode _)
      (Utf8.decodeLossy_encode _)

end ExprGate
