import ExprGate.Notation
import Mathlib.Data.List.Infix

/-!
# What erasure leaves of a fragment

Erasing a word from a text can erase parts of a fragment of that text in three ways: a copy of the
word may lie inside the fragment, begin before it, or end after it. `Text.remnants` lists what can
be left of a fragment, whatever stands around it. A fragment all of whose remnants keep a character
that notation lacks cannot occur in a text that the erasure of names reduces to notation. Whether a
given fragment can occur there is therefore a finite calculation.
-/

namespace ExprGate

namespace Text

/-- What can be left of the fragment once copies of `word` are erased from left to right, after
leaving out the next `skip` characters. Where the rest of the fragment begins a copy of `word` that
it does not complete, that rest may vanish. -/
def remnantsFrom (word : Text) : Nat → Text → List Text
  | _, [] => [[]]
  | skip + 1, _ :: rest => remnantsFrom word skip rest
  | 0, c :: rest =>
    if word.isPrefixOf (c :: rest) then remnantsFrom word (word.length - 1) rest
    else (remnantsFrom word 0 rest).map (c :: ·) ++
      if (c :: rest).isPrefixOf word then [[]] else []

/-- What can be left of a fragment once every copy of `word` is erased from a text around it. A copy
that begins before the fragment takes an end of `word` from its start. -/
def remnants (word fragment : Text) : List Text :=
  (word.tail.tails.filter fun s => s.isPrefixOf fragment || fragment.isPrefixOf s).flatMap
    fun s => remnantsFrom word s.length fragment

/-- The text with each of the names erased everywhere, one name after another. -/
def eraseAll (names : List String) (t : Text) : Text :=
  names.foldl (fun t name => erase name.toList t) t

/-- What can be left of a fragment once the names are erased one after another from a text around
it. -/
def remnantsAll : List String → Text → List Text
  | [], fragment => [fragment]
  | name :: names, fragment => (remnants name.toList fragment).flatMap (remnantsAll names)

/-- Whether every remnant of the fragment keeps a character that is not notation. -/
def lasts (names : List String) (fragment : Text) : Bool :=
  (remnantsAll names fragment).all fun r => r.any fun c => !isNotationCharacter c

/-- A scan over a fragment leaves one of the listed remnants, followed by what it leaves of the text
after the fragment. -/
theorem exists_remnantsFrom_append (word : Text) (skip : Nat) (fragment after : Text) :
    ∃ r ∈ remnantsFrom word skip fragment, r <+: eraseFrom word skip (fragment ++ after) := by
  induction fragment generalizing skip with
  | nil => exact ⟨[], by simp [remnantsFrom], List.nil_prefix⟩
  | cons c rest ih =>
    cases skip with
    | succ skip => exact ih skip
    | zero =>
      by_cases hinside : word.isPrefixOf (c :: rest) = true
      · have hcopy : word.isPrefixOf (c :: (rest ++ after)) = true := by
          rw [List.isPrefixOf_iff_prefix] at hinside ⊢
          exact hinside.trans (List.prefix_append (c :: rest) after)
        simpa only [remnantsFrom, hinside, if_true, List.cons_append, eraseFrom, hcopy] using
          ih (word.length - 1)
      by_cases hcopy : word.isPrefixOf (c :: (rest ++ after)) = true
      · -- The copy is not inside the fragment, so the fragment ends before the copy does.
        have hbegins : (c :: rest).isPrefixOf word = true := by
          rw [List.isPrefixOf_iff_prefix] at hinside hcopy ⊢
          exact (List.prefix_or_prefix_of_prefix hcopy
            (List.prefix_append (c :: rest) after)).resolve_left hinside
        refine ⟨[], ?_, List.nil_prefix⟩
        simp [remnantsFrom, hinside, hbegins]
      · obtain ⟨r, hr, hstart⟩ := ih 0
        refine ⟨c :: r, ?_, ?_⟩
        · simp [remnantsFrom, hinside, hr]
        · simpa only [List.cons_append, eraseFrom, hcopy, Bool.false_eq_true, if_false,
            List.cons_prefix_cons, true_and] using hstart

/-- A scan that reaches the end of `before` is at that moment leaving out an end of `word`, possibly
an empty one, with which the rest of the text begins. -/
theorem exists_overlap_append (word before rest : Text) (skip : Nat)
    (hskip : ∃ s : Text, s.length = skip ∧ s <:+ word.tail ∧ s <+: before ++ rest) :
    ∃ s : Text, s <:+ word.tail ∧ s <+: rest ∧
      ∃ out, eraseFrom word skip (before ++ rest) = out ++ eraseFrom word s.length rest := by
  induction before generalizing skip with
  | nil =>
    obtain ⟨s, rfl, hword, hrest⟩ := hskip
    exact ⟨s, hword, hrest, [], rfl⟩
  | cons c before ih =>
    cases skip with
    | succ skip =>
      obtain ⟨s, hlength, hword, hrest⟩ := hskip
      cases s with
      | nil => simp at hlength
      | cons d s =>
        have htail : s <+: before ++ rest := (List.cons_prefix_cons.mp hrest).2
        exact ih skip ⟨s, by simpa using hlength, (List.suffix_cons d s).trans hword, htail⟩
    | zero =>
      by_cases hcopy : word.isPrefixOf (c :: (before ++ rest)) = true
      · have htail : word.tail <+: before ++ rest := by
          rw [List.isPrefixOf_iff_prefix] at hcopy
          cases word with
          | nil => exact List.nil_prefix
          | cons d word => exact (List.cons_prefix_cons.mp hcopy).2
        obtain ⟨s, hword, hrest, out, hout⟩ :=
          ih (word.length - 1) ⟨word.tail, List.length_tail, List.suffix_rfl, htail⟩
        exact ⟨s, hword, hrest, out, by simpa [eraseFrom, hcopy] using hout⟩
      · obtain ⟨s, hword, hrest, out, hout⟩ :=
          ih 0 ⟨[], rfl, List.nil_suffix, List.nil_prefix⟩
        exact ⟨s, hword, hrest, c :: out, by simpa [eraseFrom, hcopy] using hout⟩

/-- Erasing a word from a text leaves one of the listed remnants of every fragment. -/
theorem exists_remnant_of_infix (word : Text) {fragment t : Text} (h : fragment <:+: t) :
    ∃ r ∈ remnants word fragment, r <:+: erase word t := by
  obtain ⟨before, after, rfl⟩ := h
  obtain ⟨s, hword, hrest, out, hout⟩ := exists_overlap_append word before (fragment ++ after) 0
    ⟨[], rfl, List.nil_suffix, List.nil_prefix⟩
  obtain ⟨r, hr, hstart⟩ := exists_remnantsFrom_append word s.length fragment after
  have hfits : s <+: fragment ∨ fragment <+: s :=
    List.prefix_or_prefix_of_prefix hrest (List.prefix_append fragment after)
  refine ⟨r, ?_, ?_⟩
  · simp only [remnants, List.mem_flatMap, List.mem_filter, List.mem_tails, Bool.or_eq_true,
      List.isPrefixOf_iff_prefix]
    exact ⟨s, ⟨hword, hfits⟩, hr⟩
  · rw [List.append_assoc, erase, hout]
    exact hstart.isInfix.trans (List.suffix_append out _).isInfix

/-- Of `nas` the erasure of `sin` can take the n, as the end of a copy, and the s, as the start of
one. -/
example : remnants "sin".toList "nas".toList =
    ["as".toList, "a".toList, "nas".toList, "na".toList] := by rfl

/-- Erasing names one after another leaves one of the listed remnants of every fragment. -/
theorem exists_remnantsAll_of_infix (names : List String) {fragment t : Text}
    (h : fragment <:+: t) : ∃ r ∈ remnantsAll names fragment, r <:+: eraseAll names t := by
  induction names generalizing fragment t with
  | nil => exact ⟨fragment, by simp [remnantsAll], h⟩
  | cons name names ih =>
    obtain ⟨first, hfirst, hinside⟩ := exists_remnant_of_infix name.toList h
    obtain ⟨r, hr, hlast⟩ := ih hinside
    exact ⟨r, List.mem_flatMap.mpr ⟨first, hfirst, hr⟩, hlast⟩

/-- A fragment that lasts does not occur in any text that the erasure reduces to notation. -/
theorem not_infix_of_lasts {names : List String} {fragment t : Text}
    (hlasts : lasts names fragment = true)
    (ht : ∀ c ∈ eraseAll names t, isNotationCharacter c = true) : ¬ fragment <:+: t := by
  intro h
  obtain ⟨r, hr, hinside⟩ := exists_remnantsAll_of_infix names h
  obtain ⟨c, hc, hforeign⟩ := List.any_eq_true.mp (List.all_eq_true.mp hlasts r hr)
  simp [ht c (hinside.subset hc)] at hforeign

end Text

end ExprGate
