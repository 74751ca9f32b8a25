import ExprGate.Proofs.Surroundings

/-!
# Checkpoints

A text is screened at three checkpoints, and the last of them looks for a part of the table only.
Since that part stands at the head of the table, whatever is found at dispatch is what is found
first among all signatures: one search through the whole table tells what every checkpoint reports.
-/

namespace ExprGate

/-- The same report for another checkpoint. -/
def SignatureMatch.movedTo (checkpoint : Checkpoint) (evidence : SignatureMatch) :
    SignatureMatch := { evidence with checkpoint }

/-- Whether the report is on a signature with one of the identifiers. -/
def SignatureMatch.isOn (ids : List String) (evidence : SignatureMatch) : Bool :=
  ids.any fun id => id.toList == evidence.signatureId

section FirstFound

variable {text : Text} {checkpoint : Checkpoint} {signatures : List Signature}

/-- What is found first does not depend on the checkpoint. -/
theorem map_movedTo_firstFound (other : Checkpoint) :
    (firstFound text checkpoint signatures).map (.movedTo other) =
      firstFound text other signatures := by
  rw [firstFound, List.map_findSome?]
  refine congrArg (fun f => List.findSome? f signatures) (funext fun s => ?_)
  rw [Function.comp_apply, Option.map_map]
  rfl

/-- The report on a signature is on one with the given identifiers exactly when the identifier of
the signature is among them. -/
theorem SignatureMatch.isOn_report (ids : List String) (s : Signature) (m : Match) :
    (s.report checkpoint m).isOn ids = ids.contains s.id := by
  rw [Bool.eq_iff_iff, isOn, List.any_eq_true, List.contains_iff_mem]
  simp [Signature.report, String.toList_inj]

/-- Where the signatures with the given identifiers stand in front, the first of them that occurs is
the first of all that occurs, if that is one of them. -/
theorem firstFound_eq_filter {ids : List String} {front later : List Signature}
    (hfront : ∀ s ∈ front, ids.contains s.id = true)
    (hlater : ∀ s ∈ later, ids.contains s.id = false) :
    firstFound text checkpoint front =
      (firstFound text checkpoint (front ++ later)).filter (·.isOn ids) := by
  have hsplit : firstFound text checkpoint (front ++ later) =
      (firstFound text checkpoint front).or (firstFound text checkpoint later) :=
    List.findSome?_append
  rw [hsplit]
  cases hfound : firstFound text checkpoint front with
  | some evidence =>
    obtain ⟨s, hs, m, rfl⟩ := exists_report_of_firstFound hfound
    have hkept : (s.report checkpoint m).isOn ids = true := by
      rw [SignatureMatch.isOn_report, hfront s hs]
    rw [Option.some_or, Option.filter_some_pos hkept]
  | none =>
    rw [Option.none_or, eq_comm, Option.filter_eq_none_iff]
    intro evidence hevidence
    obtain ⟨s, hs, m, rfl⟩ := exists_report_of_firstFound hevidence
    rw [SignatureMatch.isOn_report, hlater s hs]
    exact Bool.false_ne_true

end FirstFound

/-- The signatures that are looked for at dispatch stand in front of the others. -/
theorem exists_front_of_table : ∃ front later, Signature.table = front ++ later ∧
    (∀ s ∈ front, s.activeAt .dispatch = true) ∧ ∀ s ∈ later, s.activeAt .dispatch = false := by
  refine ⟨Signature.table.take Signature.dispatchIds.length,
    Signature.table.drop Signature.dispatchIds.length, (List.take_append_drop _ _).symm, ?_, ?_⟩
  · simpa only [List.all_eq_true] using
      (by rfl : ((Signature.table.take Signature.dispatchIds.length).all
        (Signature.activeAt .dispatch)) = true)
  · simpa only [List.all_eq_true, Bool.not_eq_true'] using
      (by rfl : ((Signature.table.drop Signature.dispatchIds.length).all
        fun s => !s.activeAt .dispatch) = true)

section Screened

variable (text : Text)

/-- In the input the whole table is looked for. -/
theorem findBlocked_input : findBlocked text .input = firstFound text .input Signature.table :=
  congrArg (firstFound text .input) (List.filter_eq_self.mpr fun _ _ => rfl)

/-- In a translation the whole table is looked for as well. -/
theorem findBlocked_converted :
    findBlocked text .converted = (findBlocked text .input).map (.movedTo .converted) := by
  rw [findBlocked_input, map_movedTo_firstFound]
  exact congrArg (firstFound text .converted) (List.filter_eq_self.mpr fun _ _ => rfl)

/-- At dispatch the first signature of all that occurs is found, if it is looked for there. -/
theorem findBlocked_dispatch : findBlocked text .dispatch =
    ((findBlocked text .input).filter (·.isOn Signature.dispatchIds)).map
      (.movedTo .dispatch) := by
  obtain ⟨front, later, htable, hfront, hlater⟩ := exists_front_of_table
  have hactive : Signature.table.filter (Signature.activeAt .dispatch) = front := by
    rw [htable, List.filter_append, List.filter_eq_self.mpr hfront,
      List.filter_eq_nil_iff.mpr fun s hs => ne_true_of_eq_false (hlater s hs), List.append_nil]
  rw [findBlocked_input, htable, ← firstFound_eq_filter hfront hlater, map_movedTo_firstFound]
  exact congrArg (firstFound text .dispatch) hactive

end Screened

/-- What is reported on a text at any checkpoint follows from the report at the first of them. -/
structure CheckpointsAgree (text : Text) : Prop where
  /-- The text has a signature exactly when one is found in the input. -/
  contains_iff : containsBlocked text = true ↔ (findBlocked text .input).isSome = true
  /-- In a translation the same is found as in the input. -/
  converted_eq : findBlocked text .converted =
    (findBlocked text .input).map (.movedTo .converted)
  /-- At dispatch the same is found if it is one of the first four signatures, and nothing else
  in its place. -/
  dispatch_eq : findBlocked text .dispatch =
    ((findBlocked text .input).filter (·.isOn ["S1", "S2", "S3", "S4"])).map (.movedTo .dispatch)
  /-- What is found at dispatch is found in the input, too, by the same signature at the same
  place. -/
  input_of_dispatch : ∀ evidence, findBlocked text .dispatch = some evidence →
    findBlocked text .input = some (evidence.movedTo .input)

/-- The checkpoints and the test for any signature agree on every text. Each of them finds what the
others find, up to the checkpoint that the report names; only at dispatch it is left out when it is
none of the first four signatures, and nothing else takes its place. -/
theorem checkpoints_agree (text : Text) : CheckpointsAgree text := by
  constructor
  · exact findBlocked_input_isSome_iff.symm
  · exact findBlocked_converted text
  · exact findBlocked_dispatch text
  · intro evidence h
    rw [findBlocked_dispatch, Option.map_eq_some_iff] at h
    obtain ⟨found, hfound, rfl⟩ := h
    have hinput : findBlocked text .input = some found := (Option.filter_eq_some_iff.mp hfound).1
    have hcheckpoint : found.checkpoint = .input := checkpoint_of_findBlocked hinput
    rw [hinput, SignatureMatch.movedTo, SignatureMatch.movedTo, ← hcheckpoint]

end ExprGate
