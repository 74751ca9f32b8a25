import ExprGate.Proofs.Canonical

/-!
# Control characters

Sanitizing strips the control characters other than tab, line feed and carriage return. What is put
into a phrase and stripped again, or trimmed again, has no influence on what becomes of the phrase.
Notation is only trimmed. Its character class excludes all control characters but the blanks among
them, so three control characters that a phrase never passes on can stand inside admitted notation.
-/

namespace ExprGate

/-- The padded text is the raw text with control characters that sanitizing strips put in anywhere,
and blanks put at its two ends, one after another in any order. -/
inductive Padded (raw : Text) : Text → Prop
  /-- Nothing is put in. -/
  | bare : Padded raw raw
  /-- A control character is put in somewhere. -/
  | control {before after : Text} {c : Char} (hc : isStrippedControl c = true) :
    Padded raw (before ++ after) → Padded raw (before ++ c :: after)
  /-- A blank is put at the start. -/
  | blankBefore {t : Text} {c : Char} (hc : isBlank c = true) : Padded raw t → Padded raw (c :: t)
  /-- A blank is put at the end. -/
  | blankAfter {t : Text} {c : Char} (hc : isBlank c = true) : Padded raw t → Padded raw (t ++ [c])

/-- A control character to strip makes no difference to sanitizing. -/
theorem sanitize_append_control {before after : Text} {c : Char} (hc : isStrippedControl c = true) :
    sanitize (before ++ c :: after) = sanitize (before ++ after) := by
  simp [sanitize, hc]

/-- Padding is sanitized away. -/
theorem Padded.sanitize_eq {raw t : Text} (h : Padded raw t) : sanitize t = sanitize raw := by
  induction h with
  | bare => rfl
  | control hc _ ih => rw [sanitize_append_control hc, ih]
  | @blankBefore t c hc _ ih =>
    have hone : sanitize ([c] ++ t ++ []) = sanitize t :=
      sanitize_append_blank (by simpa using hc) (by simp)
    rw [← ih, ← hone, List.append_nil, List.singleton_append]
  | @blankAfter t c hc _ ih =>
    have hone : sanitize ([] ++ t ++ [c]) = sanitize t :=
      sanitize_append_blank (by simp) (by simpa using hc)
    rw [← ih, ← hone, List.nil_append]

/-- A sanitized text has no control character to strip, and no blank at either end. -/
theorem stripped_and_solid_sanitize (raw : Text) :
    (∀ c ∈ sanitize raw, isStrippedControl c = false) ∧ (sanitize raw).Solid := by
  refine ⟨fun c hc => ?_, Text.solid_trim _⟩
  obtain ⟨before, after, hsplit, _, _⟩ :=
    Text.exists_trim (raw.filter fun c => !isStrippedControl c)
  have hmem : c ∈ raw.filter fun c => !isStrippedControl c := by
    rw [hsplit]
    exact List.mem_append_left _ (List.mem_append_right _ hc)
  simpa using List.of_mem_filter hmem

/-- Sanitizing a sanitized text changes nothing. -/
theorem sanitize_sanitize (raw : Text) : sanitize (sanitize raw) = sanitize raw :=
  sanitize_eq_self_iff.mpr (stripped_and_solid_sanitize raw)

/-- A sanitized text is no longer than the text. -/
theorem length_sanitize_le (raw : Text) : (sanitize raw).length ≤ raw.length :=
  (Text.length_trim_le _).trans (List.length_filter_le _ _)

/-- Control characters to strip and outer blanks cannot influence what becomes of a phrase. A phrase
within its bound is treated, up to the offsets of a signature in it, as what sanitizing leaves of
it, and so is every padded phrase within the bound. What sanitizing leaves has no control character
to strip and no blank at either end, and sanitizing it again changes nothing. -/
theorem padding_cannot_influence_parsing {policy : Policy} {raw : Text}
    (hlength : raw.length ≤ policy.naturalLanguageMaxLen) :
    parsePhrase policy (sanitize raw) = parsePhrase policy raw ∧
    (∀ padded, Padded raw padded → padded.length ≤ policy.naturalLanguageMaxLen →
      parsePhrase policy padded = parsePhrase policy raw) ∧
    (∀ c ∈ sanitize raw, isStrippedControl c = false) ∧ (sanitize raw).Solid ∧
    sanitize (sanitize raw) = sanitize raw := by
  obtain ⟨hstripped, hsolid⟩ := stripped_and_solid_sanitize raw
  refine ⟨?_, fun padded hpadded hbound => ?_, hstripped, hsolid, sanitize_sanitize raw⟩
  · have hbound := (length_sanitize_le raw).trans hlength
    exact parsePhrase_congr hbound hlength (sanitize_sanitize raw)
  · exact parsePhrase_congr hbound hlength hpadded.sanitize_eq

/-- With a null character inside `run` and blanks around it, among them one that is stripped, a
phrase is turned away for the same signature at the same offsets. -/
theorem padded_run_treated_alike :
    Padded "run 5 plus 5".toList "\u0085 r\x00un 5 plus 5 ".toList ∧
      parsePhrase .standard "\u0085 r\x00un 5 plus 5 ".toList =
        .error (.blocked ⟨"S4".toList, .commandExecution, .input, 0, 3, "run".toList⟩) := by
  have hpadded : Padded "run 5 plus 5".toList "\u0085 r\x00un 5 plus 5 ".toList := by
    have hcontrol : Padded "run 5 plus 5".toList ("r".toList ++ '\x00' :: "un 5 plus 5".toList) :=
      .control (by rfl) .bare
    exact .blankBefore (by rfl) (.blankBefore (by rfl) (.blankAfter (by rfl) hcontrol))
  have hlength : "run 5 plus 5".toList.length ≤ Policy.standard.naturalLanguageMaxLen := by decide
  refine ⟨hpadded, ?_⟩
  rw [(padding_cannot_influence_parsing hlength).2.1 _ hpadded (by decide)]
  rfl

/-- The blanks among the control characters that sanitizing strips: the vertical tab, the form feed
and the next line. -/
def blankControls : List Char := ['\x0B', '\x0C', '\u0085']

/-- The blank controls are the control characters to strip that are blanks. -/
theorem mem_blankControls_iff {c : Char} :
    c ∈ blankControls ↔ isStrippedControl c = true ∧ isBlank c = true := by
  have hcode (d : Char) : c = d ↔ c.toNat = d.toNat :=
    ⟨congrArg Char.toNat, fun h => Char.ext (UInt32.toNat_inj.mp h)⟩
  simp only [blankControls, List.mem_cons, List.not_mem_nil, or_false, hcode, isStrippedControl,
    isBlank, Bool.or_eq_true, Bool.and_eq_true, decide_eq_true_eq, beq_iff_eq, Char.reduceToNat]
  omega

/-- A letter is no control character to strip. -/
theorem isStrippedControl_of_isLatin {c : Char} (h : isLatin c = true) :
    isStrippedControl c = false := by
  rcases letter_cases_of_isLatin h with rfl | rfl | hascii
  · rfl
  · rfl
  · rw [← Bool.not_eq_true]
    simp only [isStrippedControl, Bool.or_eq_true, Bool.and_eq_true, decide_eq_true_eq, beq_iff_eq]
    omega

/-- A digit is no control character to strip. -/
theorem isStrippedControl_of_isDigit {c : Char} (h : c.isDigit = true) :
    isStrippedControl c = false := by
  have hlow : 48 ≤ c.toNat := (Char.isDigit_iff_toNat.mp h).1
  have hhigh : c.toNat ≤ 57 := (Char.isDigit_iff_toNat.mp h).2
  rw [← Bool.not_eq_true]
  simp only [isStrippedControl, Bool.or_eq_true, Bool.and_eq_true, decide_eq_true_eq, beq_iff_eq]
  omega

/-- The control characters to strip that validation lets through are the blanks among them. -/
theorem mem_blankControls_of_valid {c : Char} (h : (isLatin c || isNotationCharacter c) = true)
    (hc : isStrippedControl c = true) : c ∈ blankControls := by
  rw [mem_blankControls_iff]
  simp only [isNotationCharacter, Bool.or_eq_true] at h
  rcases h with hlatin | (hdigit | hsymbol) | hblank
  · rw [isStrippedControl_of_isLatin hlatin] at hc
    exact absurd hc Bool.false_ne_true
  · rw [isStrippedControl_of_isDigit hdigit] at hc
    exact absurd hc Bool.false_ne_true
  · have hall : ("+-*/().^,".toList.all fun d => !isStrippedControl d) = true := by rfl
    have hnot := List.all_eq_true.mp hall c (by simpa using hsymbol)
    rw [hc] at hnot
    exact absurd hnot (by decide)
  · exact ⟨hc, hblank⟩

/-- A translation has no control character to strip. -/
theorem isStrippedControl_of_mem_translation {phrase : Text} {t : Translation}
    (h : translate phrase = some t) : ∀ c ∈ t.expression, isStrippedControl c = false := by
  have hkept := forall_mem_translation (fun c => !isStrippedControl c)
    (fun c hc => by rw [isStrippedControl_of_isDigit hc]; rfl) (by rfl) (by rfl) h
  simpa using hkept

/-- An admitted expression is free of control characters to strip on the route of phrases. Taken as
notation, it is the trimmed input, and such a character in it is one of the blank controls: it is
free of them exactly when none of these stands in the trimmed input. -/
theorem controls_of_admitted_are_blank {policy : Policy} {allowPhrases : Bool} {input : Text}
    {admission : Admission} (h : admitExpression policy allowPhrases input = .ok admission) :
    (∀ c ∈ admission.expression, isStrippedControl c = true → c ∈ blankControls) ∧
    ((∀ c ∈ admission.expression, isStrippedControl c = false) ↔
      admission.route = .naturalLanguage ∨ ∀ c ∈ blankControls, c ∉ Text.trim input) := by
  have hvalid := (isClean_iff.mp (isClean_of_admitted h)).1
  have hcharacters := List.all_eq_true.mp ((Bool.and_eq_true _ _).mp hvalid).2
  have hblank : ∀ c ∈ admission.expression, isStrippedControl c = true → c ∈ blankControls :=
    fun c hc => mem_blankControls_of_valid (hcharacters c hc)
  refine ⟨hblank, ?_⟩
  obtain ⟨_, _, htaken, _⟩ := admitExpression_eq_ok_iff.mp h
  rcases interpretInput_eq_ok_iff.mp htaken with ⟨_, rfl⟩ | ⟨_, t, ht, rfl⟩
  · simp only [reduceCtorEq, false_or]
    constructor
    · intro hfree c hc hmem
      have hcontrol := (mem_blankControls_iff.mp hc).1
      rw [hfree c hmem] at hcontrol
      exact Bool.false_ne_true hcontrol
    · intro hnone c hmem
      rw [← Bool.not_eq_true]
      exact fun hcontrol => hnone c (hblank c hmem hcontrol) hmem
  · obtain ⟨_, _, _, _, _, htranslate, _⟩ := parsePhrase_eq_ok_iff.mp ht
    have hfree : ∀ c ∈ t.admission.expression, isStrippedControl c = false :=
      isStrippedControl_of_mem_translation htranslate
    exact ⟨fun _ => Or.inl rfl, fun _ => hfree⟩

/-- The expression `2 + 2` is admitted as notation and has none of the blank controls. -/
theorem two_plus_two_free_of_controls :
    admitExpression .standard true " 2 + 2 ".toList = .ok ⟨"2 + 2".toList, .strictMath, none⟩ ∧
      ∀ c ∈ "2 + 2".toList, isStrippedControl c = false := by
  have hadmitted : admitExpression .standard true " 2 + 2 ".toList =
      .ok ⟨"2 + 2".toList, .strictMath, none⟩ := by rfl
  have hnone : (blankControls.all fun c => !(Text.trim " 2 + 2 ".toList).contains c) = true := by
    rfl
  refine ⟨hadmitted, (controls_of_admitted_are_blank hadmitted).2.mpr (Or.inr fun c hc => ?_)⟩
  simpa using List.all_eq_true.mp hnone c hc

/-- Each of the blank controls is admitted inside notation. -/
theorem blank_controls_admitted :
    (admitExpression .standard false "2\x0B+ 2".toList =
        .ok ⟨"2\x0B+ 2".toList, .strictMath, none⟩ ∧
      '\x0B' ∈ "2\x0B+ 2".toList ∧ isStrippedControl '\x0B' = true) ∧
    (admitExpression .standard false "2\x0C+ 2".toList =
        .ok ⟨"2\x0C+ 2".toList, .strictMath, none⟩ ∧
      '\x0C' ∈ "2\x0C+ 2".toList ∧ isStrippedControl '\x0C' = true) ∧
    admitExpression .standard true "2\u0085+ 2".toList =
        .ok ⟨"2\u0085+ 2".toList, .strictMath, none⟩ ∧
      '\u0085' ∈ "2\u0085+ 2".toList ∧ isStrippedControl '\u0085' = true := by
  refine ⟨⟨by rfl, by decide, by rfl⟩, ⟨by rfl, by decide, by rfl⟩, by rfl, by decide, by rfl⟩

end ExprGate
