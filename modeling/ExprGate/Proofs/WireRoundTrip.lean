import Mathlib.Data.List.Nodup
import ExprGate.Proofs.JsonLayouts
import ExprGate.Wire.Records

/-!
# Round trips of wire records

Each record is read from its compact JSON as the value it was written from. Reading accepts many
more texts than writing produces, so the other way round a text need not come back; but after one
reading and writing it no longer changes.
-/

namespace ExprGate

namespace Wire

/-- What a text says about a record. -/
def decode? {α : Type} (ofJson? : Json → Option α) (t : Text) : Option α :=
  (Json.parse? t).bind ofJson?

/-- The text of a record. -/
def write {α : Type} (toJson : α → Json) (v : α) : Text := (toJson v).compact

/-- Every record whose values are in range is read from what is written for it, and reading yields
nothing else, so that reading and writing settle after one turn. -/
structure RoundTrips {α : Type} (toJson : α → Json) (ofJson? : Json → Option α)
    (InRange : α → Prop) : Prop where
  /-- What is written for a value is read as that value. -/
  decode_write : ∀ v, InRange v → decode? ofJson? (write toJson v) = some v
  /-- What is read from any accepted text is in range. -/
  inRange : ∀ t v, decode? ofJson? t = some v → InRange v
  /-- For every accepted text, what is written after reading it is read and written as itself. -/
  fixed_point : ∀ t t', (decode? ofJson? t).map (write toJson) = some t' →
    (decode? ofJson? t').map (write toJson) = some t'

/-- It is enough to look at the JSON values: those written must be writable and read as what they
were written from. -/
theorem RoundTrips.of_json {α : Type} {toJson : α → Json} {ofJson? : Json → Option α}
    {InRange : α → Prop} (hwritten : ∀ v, (toJson v).WellFormed)
    (hread : ∀ v, InRange v → ofJson? (toJson v) = some v)
    (hrange : ∀ j v, ofJson? j = some v → InRange v) : RoundTrips toJson ofJson? InRange := by
  have hdecode (v : α) (hv : InRange v) : decode? ofJson? (write toJson v) = some v := by
    rw [decode?, write, Json.parse?_compact (hwritten v)]
    exact hread v hv
  have hin (t : Text) (v : α) (h : decode? ofJson? t = some v) : InRange v := by
    obtain ⟨j, -, hj⟩ := Option.bind_eq_some_iff.mp h
    exact hrange j v hj
  refine ⟨hdecode, hin, fun t t' h => ?_⟩
  obtain ⟨v, hv, rfl⟩ := Option.map_eq_some_iff.mp h
  rw [hdecode v (hin t v hv)]
  rfl

section fields

/-- The members of a record with the given names and values. -/
def members (names : List String) (values : List Json) : List (Option Text × Json) :=
  (names.zip values).map fun (name, value) => (some name.toList, value)

/-- A member with another name is passed over. -/
private theorem member?_cons_of_ne {name first : String} (h : first ≠ name) (j : Json)
    (rest : List (Option Text × Json)) :
    member? name.toList ((some first.toList, j) :: rest) = member? name.toList rest := by
  have hne : ((some first.toList == some name.toList) : Bool) = false :=
    beq_eq_false_iff_ne.mpr fun heq => h (String.toList_injective (Option.some.inj heq))
  rw [member?, List.find?_cons, hne]
  rfl

/-- In a record with distinct names each of them has the value that was given for it. -/
theorem map_member?_members {names : List String} {values : List Json} (hdistinct : names.Nodup)
    (hlength : names.length = values.length) :
    names.map (fun name => member? name.toList (members names values)) = values.map some := by
  induction names generalizing values with
  | nil =>
    obtain rfl := List.length_eq_zero_iff.mp hlength.symm
    rfl
  | cons name names ih =>
    obtain ⟨value, values, rfl⟩ := List.exists_cons_of_length_eq_add_one hlength.symm
    obtain ⟨hnew, hdistinct⟩ := List.nodup_cons.mp hdistinct
    have hmembers : members (name :: names) (value :: values) =
        (some name.toList, value) :: members names values := rfl
    have hfirst : member? name.toList (members (name :: names) (value :: values)) = some value := by
      rw [hmembers, member?, List.find?_cons, beq_self_eq_true]
      rfl
    have hothers (other : String) (h : other ∈ names) :
        member? other.toList (members (name :: names) (value :: values)) =
          member? other.toList (members names values) :=
      member?_cons_of_ne (ne_of_mem_of_not_mem h hnew).symm value _
    rw [List.map_cons, List.map_cons, hfirst, List.map_congr_left hothers,
      ih hdistinct (Nat.succ.inj hlength)]

/-- In a record with distinct names none of them occurs twice. -/
theorem occurrences_members_le {names : List String} {values : List Json}
    (hdistinct : names.Nodup) (hlength : names.length = values.length) (name : String) :
    occurrences name.toList (members names values) ≤ 1 := by
  have hname (other : String) : (some other.toList == some name.toList) = (other == name) := by
    rw [Bool.eq_iff_iff, beq_iff_eq, beq_iff_eq, Option.some_inj, String.toList_inj]
  calc occurrences name.toList (members names values)
      = (names.zip values).countP fun pair => pair.1 == name := by
        rw [occurrences, members, List.countP_map]
        exact List.countP_congr fun pair _ => by simp [hname]
    _ = ((names.zip values).map Prod.fst).count name := by
        rw [List.count_eq_countP, List.countP_map]
        rfl
    _ = names.count name := by rw [List.map_fst_zip (Nat.le_of_eq hlength)]
    _ ≤ 1 := List.nodup_iff_count_le_one.mp hdistinct name

/-- The fields of a written record are found. -/
theorem fields?_record {names : List String} {values : List Json} (hdistinct : names.Nodup)
    (hlength : names.length = values.length) :
    fields? names (.record (names.zip values)) = some (values.map some) := by
  change fields? names (.object (members names values)) = _
  have hnamed : (members names values).all (fun member => member.1.isSome) = true := by
    simp [members]
  have honce :
      names.all (fun name => occurrences name.toList (members names values) ≤ 1) = true := by
    rw [List.all_eq_true]
    exact fun name _ => decide_eq_true (occurrences_members_le hdistinct hlength name)
  rw [fields?, hnamed, honce, map_member?_members hdistinct hlength]
  rfl

/-- A number of at most 64 bits is read from its digits. -/
theorem nat64?_nat {n : Nat} (h : n < wordBound) : nat64? (.nat n) = some n := by
  have hvalue := natOfDigits_natText n
  rw [Json.nat, nat64?, hvalue, if_pos h]

/-- Only numbers of at most 64 bits are read. -/
theorem lt_of_nat64? {j : Json} {n : Nat} (h : nat64? j = some n) : n < wordBound := by
  rw [nat64?.eq_def] at h
  split at h
  · obtain ⟨hlt, hn⟩ := Option.ite_none_right_eq_some.mp h
    rwa [← Option.some.inj hn]
  · cases h

/-- A field that must be a number of at most 64 bits is one. -/
theorem lt_of_required {field : Option Json} {n : Nat} (h : required nat64? field = some n) :
    n < wordBound := by
  cases field with
  | none => cases h
  | some j => exact lt_of_nat64? h

/-- A field of at most 64 bits is a number of that size when its default is. -/
theorem lt_of_withDefault {field : Option Json} {default n : Nat} (hdefault : default < wordBound)
    (h : withDefault default nat64? field = some n) : n < wordBound := by
  cases field with
  | none => rwa [← Option.some.inj h]
  | some j => exact lt_of_nat64? h

/-- A record of distinct fields goes round when its fields do. -/
theorem RoundTrips.of_record {α : Type} {toJson : α → Json} {ofJson? : Json → Option α}
    {InRange : α → Prop} (names : List String) (values : α → List Json)
    (hdistinct : names.Nodup) (hlength : ∀ v, names.length = (values v).length)
    (htoJson : ∀ v, toJson v = .record (names.zip (values v)))
    (hwritten : ∀ v, ∀ j ∈ values v, j.WellFormed)
    (hread : ∀ v, InRange v → fields? names (toJson v) = some ((values v).map some) →
      ofJson? (toJson v) = some v)
    (hrange : ∀ j v, ofJson? j = some v → InRange v) : RoundTrips toJson ofJson? InRange := by
  refine .of_json (fun v => ?_) (fun v hv => hread v hv ?_) hrange
  · rw [htoJson]
    exact .record fun member hmember => hwritten v _ (List.of_mem_zip hmember).2
  · rw [htoJson]
    exact fields?_record hdistinct (hlength v)

end fields

end Wire

open Wire

/-- Every kind is read from its name. -/
theorem RejectionKind.ofJson?_toJson (k : RejectionKind) : ofJson? k.toJson = some k := by
  cases k <;> rfl

/-- Every checkpoint is read from its name. -/
theorem Checkpoint.ofJson?_toJson (c : Checkpoint) : ofJson? c.toJson = some c := by
  cases c <;> rfl

/-- Every category is read from its name. -/
theorem SignatureCategory.ofJson?_toJson (c : SignatureCategory) : ofJson? c.toJson = some c := by
  cases c <;> rfl

/-- The offsets of a report fit into words of 64 bits. -/
def SignatureMatch.InRange (m : SignatureMatch) : Prop := m.start < wordBound ∧ m.stop < wordBound

/-- The bounds of a policy fit into words of 64 bits. -/
def Policy.InRange (p : Policy) : Prop :=
  p.naturalLanguageMaxLen < wordBound ∧ p.expressionMaxLen < wordBound

/-- A request to translate is read as it was written. -/
theorem ParseRequest.roundTrips : RoundTrips toJson ofJson? fun _ => True := by
  refine .of_record ["input"] (fun v => [.text v.input]) (by decide) (fun _ => rfl) (fun _ => rfl)
    (by simp [Json.WellFormed.text]) (fun v _ hfields => ?_) (fun _ _ _ => trivial)
  rw [ofJson?, hfields]
  rfl

/-- A translation is read as it was written. -/
theorem ParseResponse.roundTrips : RoundTrips toJson ofJson? fun _ => True := by
  refine .of_record ["expression"] (fun v => [.text v.expression]) (by decide) (fun _ => rfl)
    (fun _ => rfl) (by simp [Json.WellFormed.text]) (fun v _ hfields => ?_) (fun _ _ _ => trivial)
  rw [ofJson?, hfields]
  rfl

/-- A request to evaluate is read as it was written. -/
theorem CalculateRequest.roundTrips : RoundTrips toJson ofJson? fun _ => True := by
  refine .of_record ["expression", "allowNaturalLanguage"]
    (fun v => [.text v.expression, .bool v.allowNaturalLanguage]) (by decide) (fun _ => rfl)
    (fun _ => rfl) (by simp [Json.WellFormed.text, Json.WellFormed.bool]) (fun v _ hfields => ?_)
    (fun _ _ _ => trivial)
  rw [ofJson?, hfields]
  rfl

/-- A result is read as it was written. -/
theorem CalculateResponse.roundTrips : RoundTrips toJson ofJson? fun _ => True := by
  refine .of_record ["result"] (fun v => [.text v.result]) (by decide) (fun _ => rfl)
    (fun _ => rfl) (by simp [Json.WellFormed.text]) (fun v _ hfields => ?_) (fun _ _ _ => trivial)
  rw [ofJson?, hfields]
  rfl

/-- A report of a failure is read as it was written. -/
theorem ErrorBody.roundTrips : RoundTrips toJson ofJson? fun _ => True := by
  refine .of_record ["message", "kind"] (fun v => [.text v.message, v.kind.toJson]) (by decide)
    (fun _ => rfl) (fun _ => rfl) (by simp [Json.WellFormed.text, RejectionKind.toJson])
    (fun v _ hfields => ?_) (fun _ _ _ => trivial)
  rw [ofJson?, hfields]
  change (RejectionKind.ofJson? v.kind.toJson).bind _ = _
  rw [RejectionKind.ofJson?_toJson]
  rfl

/-- A report of a signature is read as it was written, when its offsets have 64 bits. -/
theorem SignatureMatch.roundTrips : RoundTrips toJson ofJson? InRange := by
  refine .of_record ["signature_id", "category", "checkpoint", "start", "end", "matched"]
    (fun v => [.text v.signatureId, v.category.toJson, v.checkpoint.toJson, .nat v.start,
      .nat v.stop, .text v.matched]) (by decide) (fun _ => rfl) (fun _ => rfl)
    (by simp [Json.WellFormed.text, Json.WellFormed.nat, SignatureCategory.toJson,
      Checkpoint.toJson]) (fun v hv hfields => ?_) (fun j v hj => ?_)
  · rw [ofJson?, hfields]
    simp only [List.map, required, SignatureCategory.ofJson?_toJson, Checkpoint.ofJson?_toJson,
      nat64?_nat hv.1, nat64?_nat hv.2]
    rfl
  · rw [ofJson?] at hj
    split at hj
    · simp only [Option.bind_eq_bind, Option.bind_eq_some_iff] at hj
      obtain ⟨_, _, _, _, _, _, start, hstart, stop, hstop, _, _, hv⟩ := hj
      obtain rfl := Option.some.inj hv
      exact ⟨lt_of_required hstart, lt_of_required hstop⟩
    · cases hj

/-- The bounds of a policy that is read have 64 bits. -/
theorem Policy.inRange_of_ofJson? {j : Json} {p : Policy} (h : ofJson? j = some p) : p.InRange := by
  rw [ofJson?] at h
  split at h
  · simp only [Option.bind_eq_bind, Option.bind_eq_some_iff] at h
    obtain ⟨_, hnatural, _, hexpression, hp⟩ := h
    obtain rfl := Option.some.inj hp
    exact ⟨lt_of_withDefault (by decide) hnatural, lt_of_withDefault (by decide) hexpression⟩
  · cases h

/-- A policy is read as it was written, when its bounds have 64 bits. -/
theorem Policy.roundTrips : RoundTrips toJson ofJson? InRange := by
  refine .of_record ["natural_language_max_len", "expression_max_len"]
    (fun v => [.nat v.naturalLanguageMaxLen, .nat v.expressionMaxLen]) (by decide) (fun _ => rfl)
    (fun _ => rfl) (by simp [Json.WellFormed.nat]) (fun v hv hfields => ?_)
    (fun _ _ hj => inRange_of_ofJson? hj)
  rw [ofJson?, hfields]
  simp only [List.map, withDefault, nat64?_nat hv.1, nat64?_nat hv.2]
  rfl

/-- Every record that travels between the gate and its callers is read from its compact text as it
was written, whatever characters its texts hold, and every text that is accepted for one of them,
however it is spelled, is written in a form that reading and writing keep. -/
theorem wire_records_round_trip :
    RoundTrips ParseRequest.toJson ParseRequest.ofJson? (fun _ => True) ∧
    RoundTrips ParseResponse.toJson ParseResponse.ofJson? (fun _ => True) ∧
    RoundTrips CalculateRequest.toJson CalculateRequest.ofJson? (fun _ => True) ∧
    RoundTrips CalculateResponse.toJson CalculateResponse.ofJson? (fun _ => True) ∧
    RoundTrips ErrorBody.toJson ErrorBody.ofJson? (fun _ => True) ∧
    RoundTrips SignatureMatch.toJson SignatureMatch.ofJson? SignatureMatch.InRange ∧
    RoundTrips Policy.toJson Policy.ofJson? Policy.InRange :=
  ⟨ParseRequest.roundTrips, ParseResponse.roundTrips, CalculateRequest.roundTrips,
    CalculateResponse.roundTrips, ErrorBody.roundTrips, SignatureMatch.roundTrips,
    Policy.roundTrips⟩

end ExprGate
