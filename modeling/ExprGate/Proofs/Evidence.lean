import Mathlib.Data.List.Nodup
import ExprGate.Proofs.FirstOperand
import ExprGate.Text.Utf8

/-!
# Evidence of signatures

The report on a signature quotes the part of the text that the signature matched. The quotation
stands for itself: the signature has its leftmost match in it, and that match is all of it. For what
a pattern reads, in order of preference, is the same in a text that is cut off at some place, up to
the readings that go on behind that place; and a signature asks for a word boundary at most where it
begins. No earlier signature matches the quotation either, since it would have matched the text.
-/

namespace ExprGate

section Bytes

/-! ### Offsets in bytes -/

/-- The bytes of two texts one after the other are counted together. -/
theorem Text.utf8Length_append (s t : Text) :
    Text.utf8Length (s ++ t) = Text.utf8Length s + Text.utf8Length t := by
  induction s with
  | nil => simp [Text.utf8Length]
  | cons c s ih => rw [List.cons_append, Text.utf8Length, Text.utf8Length, ih, Nat.add_assoc]

/-- A text that is not empty takes at least one byte. -/
theorem Text.utf8Length_pos {t : Text} (h : t ≠ []) : 0 < Text.utf8Length t := by
  obtain ⟨c, rest, rfl⟩ := List.exists_cons_of_ne_nil h
  have hc := c.utf8Size_pos
  rw [Text.utf8Length]
  omega

/-- As many bytes are counted for a text as encode it. -/
theorem Utf8.length_encode (t : Text) : (Utf8.encode t).length = Text.utf8Length t := by
  induction t with
  | nil => rfl
  | cons c t ih =>
    have hsplit : Utf8.encode (c :: t) = String.utf8EncodeChar c ++ Utf8.encode t :=
      List.flatMap_cons
    rw [hsplit, List.length_append, String.length_utf8EncodeChar, ih, Text.utf8Length]

/-- The bytes between the two offsets of a part of a text encode that part. -/
theorem Utf8.extract_encode (before part after : Text) :
    (Utf8.encode (before ++ part ++ after)).extract (Text.utf8Length before)
      (Text.utf8Length (before ++ part)) = Utf8.encode part := by
  have hbytes : Utf8.encode (before ++ part ++ after) =
      Utf8.encode before ++ (Utf8.encode part ++ Utf8.encode after) := by
    simp only [Utf8.encode, List.flatMap_append, List.append_assoc]
  rw [List.extract, hbytes, Text.utf8Length_append, Nat.add_sub_cancel_left, ← Utf8.length_encode,
    ← Utf8.length_encode, List.drop_left, List.take_left]

end Bytes

section Cutting

/-! ### Texts that are cut off -/

/-- The stretch with more text behind its end. -/
def Stretch.followedBy (after : Text) (s : Stretch) : Stretch := ⟨s.first ++ after, s.last ++ after⟩

/-- The place with more text behind what lies ahead of it. -/
def Place.followedBy (after : Text) (s : Place) : Place :=
  ⟨s.behind, s.ahead ++ after, s.operands.map (Stretch.followedBy after)⟩

/-- Whether the place is not inside the text that the whole ends with. -/
def Place.reachesAt (after : Text) (s : Place) : Bool := after.length ≤ s.ahead.length

/-- A stretch has the same text when more text follows. -/
theorem Stretch.text_followedBy (after : Text) (s : Stretch) :
    (s.followedBy after).text = s.text := by
  have hlength : s.first.length + after.length - (s.last.length + after.length) =
      s.first.length - s.last.length := by omega
  rw [Stretch.text, Stretch.text, Stretch.followedBy, List.length_append, List.length_append,
    hlength, List.take_append_of_le_length (Nat.sub_le _ _)]

/-- A match between two places has more text after it, and is the same in all else. -/
theorem Match.between_followedBy (after : Text) (s e : Place) :
    Match.between (s.followedBy after) (e.followedBy after) =
      { Match.between s e with after := e.ahead ++ after } := by
  have hmatched : ((s.followedBy after).stretchTo (e.followedBy after)).text =
      (s.stretchTo e).text := Stretch.text_followedBy after (s.stretchTo e)
  have hoperands : (e.followedBy after).operands.map Stretch.text =
      e.operands.map Stretch.text := by
    rw [Place.followedBy, List.map_map]
    exact List.map_congr_left fun operand _ => Stretch.text_followedBy after operand
  rw [Match.between, hmatched, hoperands]
  rfl

/-- A place in the text that is followed is not inside the text after it. -/
theorem Place.reachesAt_followedBy (after : Text) (s : Place) :
    (s.followedBy after).reachesAt after = true := by
  simp [Place.reachesAt, Place.followedBy]

/-- Of the stations of a text only the first one is not inside it. -/
private theorem Place.filter_stations_eq_singleton (set : CharSet) (operands : List Stretch)
    (behind after : Text) : (Place.stations set operands behind after).filter
      (Place.reachesAt after) = [⟨behind, after, operands⟩] := by
  cases after with
  | nil => rfl
  | cons c rest =>
    have hlater : (Place.stations set operands (c :: behind) rest).filter
        (Place.reachesAt (c :: rest)) = [] := by
      rw [List.filter_eq_nil_iff]
      intro e he
      obtain ⟨m, hpasses, _⟩ := Place.exists_run_of_mem_stations he
      have hle : e.ahead.length ≤ rest.length := hpasses.ahead_suffix.length_le
      simpa [Place.reachesAt] using Nat.lt_succ_of_le hle
    have hfirst : Place.reachesAt (c :: rest) ⟨behind, c :: rest, operands⟩ = true := by
      simp [Place.reachesAt]
    rw [Place.stations, List.filter_cons_of_pos hfirst]
    split
    · rw [hlater]
    · rfl

/-- The stations of a text are those that are not inside what follows it. -/
theorem Place.filter_stations_append (after : Text) (set : CharSet) (operands : List Stretch)
    (behind ahead : Text) :
    (Place.stations set (operands.map (Stretch.followedBy after)) behind (ahead ++ after)).filter
      (Place.reachesAt after) =
        (Place.stations set operands behind ahead).map (Place.followedBy after) := by
  induction ahead generalizing behind with
  | nil => exact Place.filter_stations_eq_singleton set _ behind after
  | cons c rest ih =>
    have hfirst := Place.reachesAt_followedBy after ⟨behind, c :: rest, operands⟩
    have hlater := ih (c :: behind)
    rw [List.cons_append, Place.stations, Place.stations]
    refine (List.filter_cons_of_pos hfirst).trans ?_
    rw [List.map_cons]
    split
    · rw [hlater]
    · rfl

/-- Members that contribute nothing can be left out of a concatenation. -/
private theorem flatMap_eq_flatMap_filter {α β : Type} {f : α → List β} {keep : α → Bool}
    {l : List α} (h : ∀ a ∈ l, keep a = false → f a = []) :
    l.flatMap f = (l.filter keep).flatMap f := by
  induction l with
  | nil => rfl
  | cons a l ih =>
    obtain ⟨ha, hlater⟩ := List.forall_mem_cons.mp h
    cases hkeep : keep a with
    | true => rw [List.filter_cons_of_pos hkeep, List.flatMap_cons, List.flatMap_cons, ih hlater]
    | false =>
      rw [List.filter_cons_of_neg (by simp [hkeep]), List.flatMap_cons, ha hkeep, List.nil_append,
        ih hlater]

namespace Pattern

variable {p rest : Pattern} {behind part after : Text} {m : Match}

/-- The ends of an unanchored pattern in a text are, in the same order, those that are not inside
what follows the text. -/
theorem filter_ends_followedBy (hp : p.unanchored = true) (after : Text) (s : Place) :
    (p.ends (s.followedBy after)).filter (Place.reachesAt after) =
      (p.ends s).map (Place.followedBy after) := by
  induction p generalizing s with
  | never => rfl
  | nothing => exact List.filter_cons_of_pos (Place.reachesAt_followedBy after s)
  | boundary => exact absurd hp Bool.false_ne_true
  | one set =>
    obtain ⟨behind, ahead, operands⟩ := s
    cases ahead with
    | nil =>
      refine List.filter_eq_nil_iff.mpr fun e he => ?_
      obtain ⟨c, _, hpasses, _⟩ := Place.mem_step_iff.mp he
      have hahead : after = [c] ++ e.ahead := hpasses.1
      simp [Place.reachesAt, hahead]
    | cons c rest =>
      simp only [ends, Place.step, Place.followedBy, List.cons_append]
      split
      · exact List.filter_cons_of_pos
          (Place.reachesAt_followedBy after ⟨c :: behind, rest, operands⟩)
      · rfl
  | many set =>
    have hstations := Place.filter_stations_append after set s.operands s.behind s.ahead
    exact List.filter_reverse.trans ((congrArg List.reverse hstations).trans List.map_reverse.symm)
  | seq p q ihp ihq =>
    obtain ⟨hfirst, hsecond⟩ := (Bool.and_eq_true _ _).mp hp
    -- From inside what follows the text no end outside is reached.
    have hinside : ∀ mid ∈ p.ends (s.followedBy after), mid.reachesAt after = false →
        (q.ends mid).filter (Place.reachesAt after) = [] := by
      intro mid _ hmid
      refine List.filter_eq_nil_iff.mpr fun e he => ?_
      have hle := length_ahead_le_of_mem_ends he
      simp only [Place.reachesAt, decide_eq_false_iff_not, decide_eq_true_eq] at hmid ⊢
      omega
    rw [ends, ends, List.filter_flatMap, flatMap_eq_flatMap_filter hinside, ihp hfirst,
      List.flatMap_map, List.map_flatMap]
    exact List.flatMap_congr fun mid _ => ihq hsecond mid
  | either p q ihp ihq =>
    obtain ⟨hfirst, hsecond⟩ := (Bool.and_eq_true _ _).mp hp
    rw [ends, ends, List.filter_append, ihp hfirst, ihq hsecond, List.map_append]
  | operand p ih =>
    have hrecord (e : Place) : (s.followedBy after).record (e.followedBy after) =
        (s.record e).followedBy after := by
      simp [Place.record, Place.followedBy, Place.stretchTo, Stretch.followedBy]
    rw [ends, ends, List.filter_map, List.map_map]
    have hsame : Place.reachesAt after ∘ (s.followedBy after).record = Place.reachesAt after := rfl
    rw [hsame, ih hp, List.map_map]
    exact List.map_congr_left fun e _ => hrecord e

/-- If the preferred match at a place is followed by all that is cut off, it is the preferred one in
the text that is left as well. -/
theorem matchAt_cut (hp : p.unanchored = true)
    (h : p.matchAt behind (part ++ after) = some m) (hafter : m.after = after) :
    p.matchAt behind part = some { m with after := [] } := by
  obtain ⟨e, he, rfl⟩ := Option.map_eq_some_iff.mp h
  have hahead : e.ahead = after := hafter
  have hkept : e.reachesAt after = true := by simp [Place.reachesAt, hahead]
  obtain ⟨others, hends⟩ := List.head?_eq_some_iff.mp he
  have hfilter := filter_ends_followedBy hp after ⟨behind, part, []⟩
  have hplace : Place.followedBy after ⟨behind, part, []⟩ = ⟨behind, part ++ after, []⟩ := rfl
  rw [hplace, hends, List.filter_cons_of_pos hkept] at hfilter
  obtain ⟨e', others', hends', rfl, _⟩ := List.map_eq_cons_iff.mp hfilter.symm
  have hnil : e'.ahead = [] := List.append_left_eq_self.mp hahead
  rw [matchAt, hends', List.head?_cons, Option.map_some, ← hplace, Match.between_followedBy]
  simp only [Match.between, hnil]

/-- After a word boundary a pattern matches what it matches without it. -/
theorem matchAt_boundary_iff : (seq boundary rest).matchAt behind part = some m ↔
    Place.atBoundary ⟨behind, part, []⟩ = true ∧ rest.matchAt behind part = some m := by
  by_cases hboundary : Place.atBoundary ⟨behind, part, []⟩ = true
  · simp [matchAt, ends, hboundary]
  · simp [matchAt, ends, hboundary]

/-- The match of an unanchored pattern, taken out of the text, is all of what it matches there. -/
theorem matchAt_matched (hp : p.unanchored = true)
    (h : p.matchAt behind (m.matched ++ m.after) = some m) :
    p.matchAt [] m.matched = some { m with before := [], after := [] } := by
  have hcut := matchAt_cut hp h rfl
  rw [matchAt_of_unanchored hp, Option.map_eq_some_iff] at hcut
  obtain ⟨⟨before, matched, after, operands⟩, hfirst, hm⟩ := hcut
  obtain rfl : before = [] := before_of_matchAt hfirst
  obtain ⟨_, rfl, rfl, rfl⟩ := Match.mk.inj hm
  exact hfirst

/-- The leftmost match of a word-anchored pattern, taken out of the text, is the leftmost match in
itself, and all of it. -/
theorem find_matched (hp : p.wordAnchored = true) {text : Text} (h : p.find text = some m) :
    p.find m.matched = some { m with before := [], after := [] } := by
  refine search_of_matchAt ?_
  have hhere := matchAt_of_search h
  rcases (Bool.or_eq_true _ _).mp hp with hfree | hanchored
  · exact matchAt_matched hfree hhere
  split at hanchored
  · next rest =>
    obtain ⟨hfree, hletter⟩ := (Bool.and_eq_true _ _).mp hanchored
    obtain ⟨_, hrest⟩ := matchAt_boundary_iff.mp hhere
    refine matchAt_boundary_iff.mpr ⟨?_, matchAt_matched hfree hrest⟩
    -- The match begins with a letter, and nothing stands before it any more.
    obtain ⟨c, word, hword, hc⟩ := exists_letter_of_reads hletter (readIn_of_matchAt hrest).reads
    rw [hword, Place.atBoundary_cons_iff (isWordCharacter_of_isLatin hc)]
    rfl
  · exact absurd hanchored Bool.false_ne_true

end Pattern

end Cutting

namespace Pattern

variable {p : Pattern} {behind m after : Text} {operands : List Text}

/-- Whether every text that the pattern reads begins at a word boundary, with a letter, or with a
certain character that does not belong to a word. -/
def beginsApart : Pattern → Bool
  | seq boundary rest => rest.startsWithLetter
  | seq (one (.char c)) _ => !(97 ≤ c.toNat && c.toNat ≤ 122) && !isWordCharacter c
  | _ => false

/-- A pattern that begins apart reads texts that are not empty and in which no word goes on from
what is behind. -/
theorem exists_cons_of_beginsApart (hp : p.beginsApart = true)
    (h : p.Reads behind m after operands) : ∃ c rest, m = c :: rest ∧
      (isWordCharacter c = true → behind.head?.any isWordCharacter = false) := by
  unfold beginsApart at hp
  split at hp
  · next rest =>
    obtain ⟨_, word, _, _, rfl, _, ⟨rfl, rfl, hboundary⟩, hrest⟩ := h
    obtain ⟨c, letters, rfl, _⟩ := exists_letter_of_reads hp hrest
    refine ⟨c, letters, rfl, fun hc => ?_⟩
    rwa [List.cons_append, Place.atBoundary_cons_iff hc] at hboundary
  · next sign rest =>
    obtain ⟨_, others, _, _, rfl, _, ⟨⟨c, rfl, hc⟩, _⟩, _⟩ := h
    have hfold : foldCase c = sign := beq_iff_eq.mp hc
    obtain ⟨hletter, hword⟩ := (Bool.and_eq_true _ _).mp hp
    have hlatin : isLatin c = false := by
      rw [isLatin, hfold]
      simpa only [Bool.not_eq_true'] using hletter
    refine ⟨c, others, rfl, fun hc' => ?_⟩
    rw [foldCase_of_not_isLatin hlatin] at hfold
    simp [← hfold, hc'] at hword
  · exact absurd hp Bool.false_ne_true

end Pattern

set_option maxRecDepth 8000 in
/-- Every signature begins apart. -/
theorem beginsApart_of_mem_table : ∀ s ∈ Signature.table, s.pattern.beginsApart = true := by
  simpa only [List.all_eq_true] using
    (by rfl : (Signature.table.all fun s => s.pattern.beginsApart) = true)

/-- A signature of the table is found by its identifier, which is its own. -/
theorem Signature.find?_id_of_mem_table : ∀ s ∈ Signature.table,
    Signature.find? s.id.toList = some s := by
  intro s hs
  have hids : (Signature.table.map Signature.id).Nodup := by decide
  cases hfind : Signature.find? s.id.toList with
  | none => simpa using List.find?_eq_none.mp hfind s hs
  | some other =>
    have hfound : (other.id.toList == s.id.toList) = true :=
      List.find?_some (p := fun row : Signature => row.id.toList == s.id.toList) hfind
    have hid : other.id = s.id := String.toList_inj.mp (beq_iff_eq.mp hfound)
    rw [List.inj_on_of_nodup_map hids (List.mem_of_find?_eq_some hfind) hs hid]

/-- A report is on the leftmost match of a signature that is active at the checkpoint, and the
active signatures before that one have no match. -/
theorem findBlocked_eq_some_iff {text : Text} {checkpoint : Checkpoint}
    {evidence : SignatureMatch} : findBlocked text checkpoint = some evidence ↔
      ∃ earlier s later, Signature.table.filter (Signature.activeAt checkpoint) =
        earlier ++ s :: later ∧ (∀ other ∈ earlier, other.pattern.find text = none) ∧
        ∃ m, s.pattern.find text = some m ∧ evidence = s.report checkpoint m := by
  simp only [findBlocked, List.findSome?_eq_some_iff, Option.map_eq_some_iff,
    Option.map_eq_none_iff]
  constructor
  · rintro ⟨earlier, s, later, hactive, ⟨m, hm, rfl⟩, hearlier⟩
    exact ⟨earlier, s, later, hactive, hearlier, m, hm, rfl⟩
  · rintro ⟨earlier, s, later, hactive, hearlier, m, hm, rfl⟩
    exact ⟨earlier, s, later, hactive, ⟨m, hm, rfl⟩, hearlier⟩

/-- The report quotes a part of the text, and the quotation stands for itself. -/
structure SignatureMatch.IsFaithful (text : Text) (checkpoint : Checkpoint)
    (evidence : SignatureMatch) : Prop where
  /-- The quotation is a part of the text, and the offsets are those of its two ends. -/
  span : ∃ before after, text = before ++ evidence.matched ++ after ∧
    evidence.start = Text.utf8Length before ∧
    evidence.stop = Text.utf8Length (before ++ evidence.matched)
  /-- The part is not empty and lies within the bytes of the text. -/
  bounds : evidence.start < evidence.stop ∧ evidence.stop ≤ Text.utf8Length text
  /-- The bytes between the offsets encode the quotation. -/
  slice : (Utf8.encode text).extract evidence.start evidence.stop = Utf8.encode evidence.matched
  /-- The signature is known, has the category of the report and is active at the checkpoint. -/
  known : ∃ s, Signature.find? evidence.signatureId = some s ∧ s.category = evidence.category ∧
    s.activeAt checkpoint = true
  /-- The report is on this checkpoint. -/
  checkpoint_eq : evidence.checkpoint = checkpoint
  /-- On the quotation alone the report is the same, with the offsets of all of it. -/
  alone : findBlocked evidence.matched checkpoint =
    some { evidence with start := 0, stop := Text.utf8Length evidence.matched }

/-- An earlier signature that is absent from the text is absent from the match of a later one. -/
theorem find_matched_eq_none {s other : Signature} (hs : s ∈ Signature.table)
    (hother : other ∈ Signature.table) {text : Text} {m : Match}
    (hm : s.pattern.find text = some m) (hnone : other.pattern.find text = none) :
    other.pattern.find m.matched = none := by
  obtain ⟨htext, hreads⟩ := Pattern.readIn_of_search hm
  obtain ⟨c, rest, hmatched, hword⟩ :=
    Pattern.exists_cons_of_beginsApart (beginsApart_of_mem_table s hs) hreads
  have hbefore : m.matched.head?.any isWordCharacter = true →
      m.before.getLast?.any isWordCharacter = false := by
    intro hhead
    rw [hmatched] at hhead
    rw [← List.head?_reverse]
    exact hword hhead
  by_contra hfound
  have hoccurs : other.pattern.occursIn text = true := by
    rw [show text = m.before ++ m.matched ++ m.after from htext]
    exact Pattern.occursIn_append_append (wordAnchored_of_mem_table other hother) hbefore
      (Option.isSome_iff_ne_none.mpr hfound)
  rw [Pattern.occursIn, hnone] at hoccurs
  exact Bool.false_ne_true hoccurs

/-- The evidence for a signature is faithful and stands for itself. The offsets are those of the
quoted part of the text, which is not empty, begins and ends between characters, and has the bytes
between them; the signature is known, of the reported category and active at the checkpoint; and
screening the quotation alone reports the same signature, with all of the quotation matched. -/
theorem evidence_is_faithful {text : Text} {checkpoint : Checkpoint} {evidence : SignatureMatch}
    (h : findBlocked text checkpoint = some evidence) : evidence.IsFaithful text checkpoint := by
  obtain ⟨earlier, s, later, hactive, hearlier, m, hm, rfl⟩ := findBlocked_eq_some_iff.mp h
  have hmem {other : Signature} (hother : other ∈ earlier ++ s :: later) :
      other ∈ Signature.table ∧ other.activeAt checkpoint = true :=
    List.mem_filter.mp (hactive ▸ hother)
  obtain ⟨hs, hsactive⟩ := hmem (List.mem_append_right earlier List.mem_cons_self)
  obtain ⟨htext, hreads⟩ := Pattern.readIn_of_search hm
  have hsplit : text = m.before ++ m.matched ++ m.after := htext
  have hstop : m.stop = Text.utf8Length (m.before ++ m.matched) :=
    (Text.utf8Length_append m.before m.matched).symm
  have hne : m.matched ≠ [] := by
    obtain ⟨c, rest, hmatched, _⟩ :=
      Pattern.exists_cons_of_beginsApart (beginsApart_of_mem_table s hs) hreads
    exact hmatched ▸ List.cons_ne_nil c rest
  constructor
  · exact ⟨m.before, m.after, hsplit, rfl, hstop⟩
  · have hpositive : 0 < Text.utf8Length m.matched := Text.utf8Length_pos hne
    have hlength : Text.utf8Length text = m.stop + Text.utf8Length m.after := by
      rw [hsplit, Text.utf8Length_append, hstop]
    exact ⟨Nat.lt_add_of_pos_right hpositive, hlength ▸ Nat.le_add_right _ _⟩
  · have hbytes := Utf8.extract_encode m.before m.matched m.after
    rw [← hsplit, ← hstop] at hbytes
    exact hbytes
  · exact ⟨s, Signature.find?_id_of_mem_table s hs, rfl, hsactive⟩
  · rfl
  · have hquoted := Pattern.find_matched (wordAnchored_of_mem_table s hs) hm
    have habsent : ∀ other ∈ earlier, other.pattern.find m.matched = none := fun other hother =>
      find_matched_eq_none hs (hmem (List.mem_append_left _ hother)).1 hm (hearlier other hother)
    refine findBlocked_eq_some_iff.mpr ⟨earlier, s, later, hactive, habsent, _, hquoted, ?_⟩
    simp [Signature.report, Match.start, Match.stop, Text.utf8Length]

set_option maxRecDepth 8000 in
/-- A verb between characters of several bytes, with a wide gap that the match takes in. -/
theorem wide_delete_is_evidence :
    findBlocked "日本 é; DELETE \u3000x".toList .input = some
        ⟨"S5".toList, .destructiveOperation, .input, 11, 21, "DELETE \u3000".toList⟩ ∧
      SignatureMatch.IsFaithful "日本 é; DELETE \u3000x".toList .input
        ⟨"S5".toList, .destructiveOperation, .input, 11, 21, "DELETE \u3000".toList⟩ := by
  have hfound : findBlocked "日本 é; DELETE \u3000x".toList .input = some
      ⟨"S5".toList, .destructiveOperation, .input, 11, 21, "DELETE \u3000".toList⟩ := by rfl
  exact ⟨hfound, evidence_is_faithful hfound⟩

end ExprGate
