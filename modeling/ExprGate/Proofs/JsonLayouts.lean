import ExprGate.Proofs.JsonTokens

/-!
# Reading back JSON

JSON is read back as the value it was written from, compact or indented, whenever JSON can write the
value at all: its numbers have digits where JSON asks for them, and its strings denote texts. The
two forms differ in blanks only, so both are laid out by one writer, which is given the blanks. No
reading is nested deeper than the text is long, so the bound on nested readings is never met.
-/

namespace ExprGate.Json

/-- A value that JSON can write. -/
inductive WellFormed : Json → Prop
  /-- Null can be written. -/
  | null : WellFormed null
  /-- Both truth values can be written. -/
  | bool (b : Bool) : WellFormed (bool b)
  /-- A number can be written when it has digits where JSON asks for them. -/
  | number {n : Numeral} (h : n.WellFormed) : WellFormed (number n)
  /-- A string can be written when it denotes a text. -/
  | text (t : Text) : WellFormed (text t)
  /-- An array can be written when its items can. -/
  | array {items : List Json} (h : ∀ item ∈ items, WellFormed item) : WellFormed (array items)
  /-- An object can be written when its members have names and values that can. -/
  | object {members : List (Option Text × Json)} (hnames : ∀ member ∈ members, member.1.isSome)
      (h : ∀ member ∈ members, WellFormed member.2) : WellFormed (object members)

/-- A natural number can be written. -/
theorem WellFormed.nat (n : Nat) : WellFormed (nat n) :=
  .number ⟨isNumeral_natText n, fun _ => eq_nil_of_natText, by simp, by simp⟩

/-- A record can be written when its fields can. -/
theorem WellFormed.record {members : List (String × Json)}
    (h : ∀ member ∈ members, WellFormed member.2) : WellFormed (record members) := by
  refine .object (fun _ hm => ?_) (fun _ hm => ?_)
  all_goals obtain ⟨member, hmember, rfl⟩ := List.mem_map.mp hm
  · rfl
  · exact h member hmember

/-! ## Layouts -/

/-- The blanks that a way to write JSON puts between tokens. -/
structure Layout where
  /-- What stands before items and members of the given depth, and before closing marks. -/
  line : Nat → Text
  /-- What stands behind colons. -/
  gap : Text
  /-- Only blanks stand before items, members and closing marks. -/
  isSpace_line : ∀ depth, ∀ c ∈ line depth, isSpace c = true
  /-- Only blanks stand behind colons. -/
  isSpace_gap : ∀ c ∈ gap, isSpace c = true

namespace Layout

/-- The layout without any blanks. -/
def compact : Layout := ⟨fun _ => [], [], by simp, by simp⟩

/-- The layout with a line for each item and member. -/
def indented : Layout where
  line := newline
  gap := [' ']
  isSpace_line depth c hc := by
    rcases List.mem_cons.mp hc with rfl | hspace
    · decide
    · rw [List.eq_of_mem_replicate hspace]
      decide
  isSpace_gap := by simp [isSpace]

variable (l : Layout)

mutual

/-- The value at the given depth. -/
def write (depth : Nat) : Json → Text
  | null => "null".toList
  | bool true => "true".toList
  | bool false => "false".toList
  | number n => n.text
  | string t => quote (t.getD [])
  | array [] => ['[', ']']
  | array (item :: items) =>
    '[' :: (writeItems (depth + 1) (item :: items) ++ (l.line depth ++ [']']))
  | object [] => ['\x7b', '\x7d']
  | object (member :: members) =>
    '\x7b' :: (writeMembers (depth + 1) (member :: members) ++ (l.line depth ++ ['\x7d']))

/-- The items of an array. -/
def writeItems (depth : Nat) : List Json → Text
  | [] => []
  | [item] => l.line depth ++ write depth item
  | item :: items => l.line depth ++ (write depth item ++ ',' :: writeItems depth items)

/-- The members of an object. -/
def writeMembers (depth : Nat) : List (Option Text × Json) → Text
  | [] => []
  | [(name, value)] =>
    l.line depth ++ (quote (name.getD []) ++ ':' :: (l.gap ++ write depth value))
  | (name, value) :: members =>
    l.line depth ++ (quote (name.getD []) ++ ':' :: (l.gap ++ (write depth value ++
      ',' :: writeMembers depth members)))

end

/-- Two items are written with a comma between them. -/
theorem writeItems_cons_cons (depth : Nat) (item second : Json) (items : List Json) :
    l.writeItems depth (item :: second :: items) =
      l.line depth ++ (l.write depth item ++ ',' :: l.writeItems depth (second :: items)) :=
  writeItems.eq_3 _ _ _ _ (List.cons_ne_nil second items)

/-- Two members are written with a comma between them. -/
theorem writeMembers_cons_cons (depth : Nat) (member second : Option Text × Json)
    (members : List (Option Text × Json)) :
    l.writeMembers depth (member :: second :: members) =
      l.line depth ++ (quote (member.1.getD []) ++ ':' :: (l.gap ++ (l.write depth member.2 ++
        ',' :: l.writeMembers depth (second :: members)))) :=
  writeMembers.eq_3 _ _ _ _ _ (List.cons_ne_nil second members)

mutual

/-- The layout without blanks writes the compact form. -/
theorem write_compact (depth : Nat) : ∀ j : Json, compact.write depth j = j.compact
  | null => rfl
  | bool true => rfl
  | bool false => rfl
  | number _ => rfl
  | string _ => rfl
  | array [] => rfl
  | array (item :: items) => by
    rw [write, writeItems_compact, Json.compact]
    rfl
  | object [] => rfl
  | object (member :: members) => by
    rw [write, writeMembers_compact, Json.compact]
    rfl

/-- The layout without blanks writes items in the compact form. -/
theorem writeItems_compact (depth : Nat) :
    ∀ items : List Json, compact.writeItems depth items = compactItems items
  | [] => rfl
  | [item] => write_compact depth item
  | item :: second :: items => by
    rw [writeItems_cons_cons, write_compact, writeItems_compact,
      compactItems.eq_3 _ _ (List.cons_ne_nil second items)]
    rfl

/-- The layout without blanks writes members in the compact form. -/
theorem writeMembers_compact (depth : Nat) : ∀ members : List (Option Text × Json),
    compact.writeMembers depth members = compactMembers members
  | [] => rfl
  | [(name, value)] => by
    rw [writeMembers, write_compact]
    rfl
  | (name, value) :: second :: members => by
    rw [writeMembers_cons_cons, write_compact, writeMembers_compact,
      compactMembers.eq_3 _ _ _ (List.cons_ne_nil second members)]
    simp [compact]

end

mutual

/-- The layout with lines writes the indented form. -/
theorem write_indented (depth : Nat) : ∀ j : Json, indented.write depth j = j.indented depth
  | null => rfl
  | bool true => rfl
  | bool false => rfl
  | number _ => rfl
  | string _ => rfl
  | array [] => rfl
  | array (item :: items) => by
    rw [write, writeItems_indented, Json.indented]
    simp [indented]
  | object [] => rfl
  | object (member :: members) => by
    rw [write, writeMembers_indented, Json.indented]
    simp [indented]

/-- The layout with lines writes items in the indented form. -/
theorem writeItems_indented (depth : Nat) :
    ∀ items : List Json, indented.writeItems depth items = indentedItems depth items
  | [] => rfl
  | [item] => by
    rw [writeItems, write_indented]
    rfl
  | item :: second :: items => by
    rw [writeItems_cons_cons, write_indented, writeItems_indented,
      indentedItems.eq_3 _ _ _ (List.cons_ne_nil second items)]
    simp [indented]

/-- The layout with lines writes members in the indented form. -/
theorem writeMembers_indented (depth : Nat) : ∀ members : List (Option Text × Json),
    indented.writeMembers depth members = indentedMembers depth members
  | [] => rfl
  | [(name, value)] => by
    rw [writeMembers, write_indented, indentedMembers]
    simp [indented]
  | (name, value) :: second :: members => by
    rw [writeMembers_cons_cons, write_indented, writeMembers_indented,
      indentedMembers.eq_3 _ _ _ _ (List.cons_ne_nil second members)]
    simp [indented]

end

end Layout

/-! ## Blanks -/

section blanks

variable {blanks rest : Text}

/-- No blank is skipped where there is none. -/
theorem skipSpace_cons {c : Char} (h : isSpace c = false) : skipSpace (c :: rest) = c :: rest :=
  List.dropWhile_cons_of_neg (by rw [h]; decide)

/-- Blanks are skipped. -/
theorem skipSpace_append (h : ∀ c ∈ blanks, isSpace c = true) :
    skipSpace (blanks ++ rest) = skipSpace rest :=
  List.dropWhile_append_of_pos h

/-- Blanks before a value are not read. -/
theorem readValue_blanks (h : ∀ c ∈ blanks, isSpace c = true) (fuel : Nat) :
    readValue fuel (blanks ++ rest) = readValue fuel rest := by
  cases fuel with
  | zero => rw [readValue, readValue]
  | succ fuel => rw [readValue, skipSpace_append h, readValue]

/-- Blanks before items are not read. -/
theorem readItems_blanks (h : ∀ c ∈ blanks, isSpace c = true) (fuel : Nat) :
    readItems fuel (blanks ++ rest) = readItems fuel rest := by
  cases fuel with
  | zero => rw [readItems, readItems]
  | succ fuel => rw [readItems, readValue_blanks h, readItems]

/-- Blanks before members are not read. -/
theorem readMembers_blanks (h : ∀ c ∈ blanks, isSpace c = true) (fuel : Nat) :
    readMembers fuel (blanks ++ rest) = readMembers fuel rest := by
  cases fuel with
  | zero => rw [readMembers, readMembers]
  | succ fuel => rw [readMembers, skipSpace_append h, readMembers]

/-- A number ends before blanks and before what it ends before without them. -/
theorem endsNumber_blanks (h : ∀ c ∈ blanks, isSpace c = true)
    (hrest : ∀ c ∈ rest.head?, endsNumber c = true) :
    ∀ c ∈ (blanks ++ rest).head?, endsNumber c = true := by
  cases blanks with
  | nil => exact hrest
  | cons b blanks =>
    refine forall_mem_head?_cons ?_ _
    have hb := h b List.mem_cons_self
    simp only [isSpace, Bool.or_eq_true, beq_iff_eq] at hb
    rcases hb with ((rfl | rfl) | rfl) | rfl <;> decide

end blanks

/-! ## Reading back -/

section values

variable {l : Layout} {depth : Nat} {rest : Text}

/-- What starts a number is no blank and closes nothing. -/
private theorem not_isSpace_of_number {c : Char} (hc : c = '-' ∨ c.isDigit = true) :
    isSpace c = false ∧ c ≠ ']' := by
  rw [isSpace]
  simp only [Bool.or_eq_false_iff, beq_eq_false_iff_ne]
  refine ⟨⟨⟨⟨?_, ?_⟩, ?_⟩, ?_⟩, ?_⟩
  all_goals
    rintro rfl
    exact absurd hc (by decide)

/-- What starts like a number is read as one. -/
private theorem readValue_number {c : Char} (hc : c = '-' ∨ c.isDigit = true) (fuel : Nat) :
    readValue (fuel + 1) (c :: rest) =
      (readNumeral (c :: rest)).map fun (n, after) => (number n, after) := by
  rw [readValue, skipSpace_cons (not_isSpace_of_number hc).1]
  split
  case h_7 => rfl
  all_goals
    obtain ⟨rfl, -⟩ := List.cons.inj ‹c :: rest = _›
    exact absurd hc (by decide)

/-- The value is read back from what a layout writes for it, at any depth and whatever follows that
cannot belong to a number, by readings that are nested no deeper than the text is long. -/
def ReadsBack (l : Layout) (j : Json) : Prop :=
  ∀ depth fuel rest, (l.write depth j).length ≤ fuel → (∀ c ∈ rest.head?, endsNumber c = true) →
    readValue fuel (l.write depth j ++ rest) = some (j, rest)

/-- A value is read back before a comma. -/
theorem ReadsBack.before_comma {j : Json} (h : j.ReadsBack l) {fuel : Nat}
    (hfuel : (l.write depth j).length ≤ fuel) :
    readValue fuel (l.write depth j ++ ',' :: rest) = some (j, ',' :: rest) :=
  h depth fuel _ hfuel (forall_mem_head?_cons (by decide) rest)

/-- A value is read back before the line of a closing mark. -/
theorem ReadsBack.before_close {j : Json} (h : j.ReadsBack l) {fuel : Nat}
    (hfuel : (l.write depth j).length ≤ fuel) {close : Char} (hclose : endsNumber close = true)
    (outer : Nat) : readValue fuel (l.write depth j ++ (l.line outer ++ close :: rest)) =
      some (j, l.line outer ++ close :: rest) :=
  h depth fuel _ hfuel
    (endsNumber_blanks (l.isSpace_line outer) (forall_mem_head?_cons hclose rest))

/-- The items of an array are read back, if each of them is. -/
theorem readItems_writeItems {item : Json} {items : List Json}
    (h : ∀ i ∈ item :: items, ReadsBack l i) {fuel : Nat}
    (hfuel : (l.writeItems depth (item :: items)).length < fuel) (outer : Nat) :
    readItems fuel (l.writeItems depth (item :: items) ++ (l.line outer ++ ']' :: rest)) =
      some (item :: items, rest) := by
  have hitem := h item List.mem_cons_self
  -- The reader asks for a first item, and then for more only behind a comma.
  induction items generalizing item fuel with
  | nil =>
    obtain ⟨fuel, rfl⟩ : ∃ k, fuel = k + 1 := ⟨fuel - 1, by omega⟩
    rw [Layout.writeItems, List.length_append] at hfuel
    rw [Layout.writeItems, List.append_assoc, readItems_blanks (l.isSpace_line depth), readItems,
      hitem.before_close (by omega) (by decide)]
    simp only [Option.bind_eq_bind, Option.bind_some, skipSpace_append (l.isSpace_line outer)]
    rfl
  | cons second items ih =>
    obtain ⟨fuel, rfl⟩ : ∃ k, fuel = k + 1 := ⟨fuel - 1, by omega⟩
    rw [Layout.writeItems_cons_cons, List.length_append, List.length_append,
      List.length_cons] at hfuel
    have hrest (i : Json) (hi : i ∈ second :: items) : ReadsBack l i :=
      h i (List.mem_cons_of_mem _ hi)
    rw [Layout.writeItems_cons_cons, List.append_assoc, readItems_blanks (l.isSpace_line depth),
      List.append_assoc, List.cons_append, readItems, hitem.before_comma (by omega)]
    change (readItems fuel (l.writeItems depth (second :: items) ++ _)).bind _ = _
    rw [ih hrest (by omega) (hrest second List.mem_cons_self)]
    rfl

/-- A text in quotation marks, followed by another text. -/
private theorem quote_append (t : Text) :
    quote t ++ rest = '"' :: (t.flatMap escape ++ '"' :: rest) := by
  simp [quote]

/-- A member is read up to the comma or brace after it. -/
private theorem readMembers_member {fuel : Nat} {member : Option Text × Json}
    (hname : member.1.isSome)
    (hvalue : readValue fuel (l.write depth member.2 ++ rest) = some (member.2, rest)) :
    readMembers (fuel + 1) (l.line depth ++ (quote (member.1.getD []) ++
        ':' :: (l.gap ++ (l.write depth member.2 ++ rest)))) =
      match skipSpace rest with
      | ',' :: rest => do
        let (members, rest) ← readMembers fuel rest
        return (member :: members, rest)
      | '\x7d' :: rest => some ([member], rest)
      | _ => none := by
  obtain ⟨name?, value⟩ := member
  obtain ⟨name, rfl⟩ := Option.isSome_iff_exists.mp hname
  rw [readMembers_blanks (l.isSpace_line depth), quote_append, readMembers,
    skipSpace_cons (by decide)]
  change (readString _).bind _ = _
  rw [Option.getD_some, readString_append]
  change (readValue fuel (l.gap ++ (l.write depth value ++ rest))).bind _ = _
  rw [readValue_blanks l.isSpace_gap, hvalue]
  rfl

/-- The members of an object are read back, if they have names and their values are read back. -/
theorem readMembers_writeMembers {member : Option Text × Json}
    {members : List (Option Text × Json)} (hnames : ∀ m ∈ member :: members, m.1.isSome)
    (h : ∀ m ∈ member :: members, ReadsBack l m.2) {fuel : Nat}
    (hfuel : (l.writeMembers depth (member :: members)).length < fuel) (outer : Nat) :
    readMembers fuel (l.writeMembers depth (member :: members) ++
      (l.line outer ++ '\x7d' :: rest)) = some (member :: members, rest) := by
  have hname := hnames member List.mem_cons_self
  have hvalue := h member List.mem_cons_self
  induction members generalizing member fuel with
  | nil =>
    obtain ⟨fuel, rfl⟩ : ∃ k, fuel = k + 1 := ⟨fuel - 1, by omega⟩
    rw [Layout.writeMembers] at hfuel ⊢
    simp only [List.length_append, List.length_cons] at hfuel
    simp only [List.append_assoc, List.cons_append]
    rw [readMembers_member hname (hvalue.before_close (by omega) (by decide) outer),
      skipSpace_append (l.isSpace_line outer)]
    rfl
  | cons second members ih =>
    obtain ⟨fuel, rfl⟩ : ∃ k, fuel = k + 1 := ⟨fuel - 1, by omega⟩
    rw [Layout.writeMembers_cons_cons] at hfuel ⊢
    simp only [List.length_append, List.length_cons] at hfuel
    simp only [List.append_assoc, List.cons_append]
    have hnames' (m : Option Text × Json) (hm : m ∈ second :: members) : m.1.isSome :=
      hnames m (List.mem_cons_of_mem _ hm)
    have hrest (m : Option Text × Json) (hm : m ∈ second :: members) : ReadsBack l m.2 :=
      h m (List.mem_cons_of_mem _ hm)
    rw [readMembers_member hname (hvalue.before_comma (by omega))]
    change (readMembers fuel (l.writeMembers depth (second :: members) ++ _)).bind _ = _
    rw [ih hnames' hrest (by omega) (hnames' second List.mem_cons_self)
      (hrest second List.mem_cons_self)]
    rfl

/-- A value starts with no blank and with nothing that closes an array. -/
theorem WellFormed.exists_write_eq_cons {j : Json} (hj : j.WellFormed) (l : Layout) (depth : Nat) :
    ∃ c t, l.write depth j = c :: t ∧ isSpace c = false ∧ c ≠ ']' := by
  cases hj with
  | null => exact ⟨'n', ['u', 'l', 'l'], rfl, by decide⟩
  | bool b =>
    cases b with
    | false => exact ⟨'f', ['a', 'l', 's', 'e'], rfl, by decide⟩
    | true => exact ⟨'t', ['r', 'u', 'e'], rfl, by decide⟩
  | number hn =>
    obtain ⟨c, t, htext, hc⟩ := exists_text_eq_cons hn
    exact ⟨c, t, htext, not_isSpace_of_number hc⟩
  | text _ => exact ⟨'"', _, rfl, by decide⟩
  | @array items _ => cases items <;> exact ⟨'[', _, rfl, by decide⟩
  | @object members _ _ => cases members <;> exact ⟨'\x7b', _, rfl, by decide⟩

/-- Some reading is always allowed, since no value is written as the empty text. -/
private theorem readsBack_of_succ {j : Json} (hj : j.WellFormed)
    (h : ∀ depth fuel rest, (l.write depth j).length ≤ fuel + 1 →
      (∀ c ∈ rest.head?, endsNumber c = true) →
        readValue (fuel + 1) (l.write depth j ++ rest) = some (j, rest)) : j.ReadsBack l := by
  intro depth fuel rest hfuel hrest
  obtain ⟨c, t, htext, -⟩ := hj.exists_write_eq_cons l depth
  cases fuel with
  | zero => simp [htext] at hfuel
  | succ fuel => exact h depth fuel rest hfuel hrest

/-- A number is read back. -/
theorem readsBack_number {n : Numeral} (hn : n.WellFormed) : ReadsBack l (number n) := by
  refine readsBack_of_succ (.number hn) fun depth fuel rest _ hrest => ?_
  obtain ⟨c, t, htext, hc⟩ := exists_text_eq_cons hn
  have hread := readNumeral_append hn hrest
  rw [htext, List.cons_append] at hread
  rw [Layout.write, htext, List.cons_append, readValue_number hc, hread]
  rfl

/-- A string is read back. -/
theorem readsBack_text (t : Text) : ReadsBack l (text t) := by
  refine readsBack_of_succ (.text t) fun depth fuel rest _ _ => ?_
  rw [text, Layout.write, Option.getD_some, quote_append, readValue, skipSpace_cons (by decide)]
  change (readString _).map _ = _
  rw [readString_append]
  rfl

/-- The items of an array start with blanks and then as the first of them does. -/
private theorem exists_writeItems_eq {item : Json} (hitem : item.WellFormed) (l : Layout)
    (depth : Nat) (items : List Json) : ∃ c t, l.writeItems depth (item :: items) =
      l.line depth ++ c :: t ∧ isSpace c = false ∧ c ≠ ']' := by
  obtain ⟨c, t, htext, hc⟩ := hitem.exists_write_eq_cons l depth
  cases items with
  | nil => exact ⟨c, t, by rw [Layout.writeItems, htext], hc⟩
  | cons second items =>
    exact ⟨c, _, by rw [Layout.writeItems_cons_cons, htext]; rfl, hc⟩

/-- An array is read back if its items are. -/
theorem readsBack_array {items : List Json} (hitems : ∀ item ∈ items, WellFormed item)
    (h : ∀ item ∈ items, ReadsBack l item) : ReadsBack l (array items) := by
  refine readsBack_of_succ (.array hitems) fun depth fuel rest hfuel _ => ?_
  cases items with
  | nil =>
    rw [Layout.write, List.cons_append, readValue, skipSpace_cons (by decide)]
    rfl
  | cons item items =>
    simp only [Layout.write, List.length_append, List.length_cons, List.length_nil] at hfuel
    have hread : readItems fuel (l.writeItems (depth + 1) (item :: items) ++
        (l.line depth ++ ']' :: rest)) = some (item :: items, rest) :=
      readItems_writeItems h (by omega) depth
    obtain ⟨c, t, hstart, hspace, hclose⟩ :=
      exists_writeItems_eq (hitems item List.mem_cons_self) l (depth + 1) items
    rw [hstart, List.append_assoc, readItems_blanks (l.isSpace_line _), List.cons_append] at hread
    rw [Layout.write, hstart, List.cons_append, readValue, skipSpace_cons (by decide)]
    simp only [List.append_assoc, List.cons_append, List.nil_append,
      skipSpace_append (l.isSpace_line (depth + 1)), skipSpace_cons hspace]
    split
    · exact absurd (List.cons.inj ‹_›).1 hclose
    · rw [hread]
      rfl

/-- The members of an object start with blanks and the quotation mark of a name. -/
private theorem exists_writeMembers_eq (l : Layout) (depth : Nat) (member : Option Text × Json)
    (members : List (Option Text × Json)) :
    ∃ t, l.writeMembers depth (member :: members) = l.line depth ++ '"' :: t := by
  cases members with
  | nil => exact ⟨_, rfl⟩
  | cons second members =>
    exact ⟨_, l.writeMembers_cons_cons depth member second members⟩

/-- An object is read back if its members have names and their values are read back. -/
theorem readsBack_object {members : List (Option Text × Json)}
    (hnames : ∀ member ∈ members, member.1.isSome)
    (hvalues : ∀ member ∈ members, WellFormed member.2)
    (h : ∀ member ∈ members, ReadsBack l member.2) : ReadsBack l (object members) := by
  refine readsBack_of_succ (.object hnames hvalues) fun depth fuel rest hfuel _ => ?_
  cases members with
  | nil =>
    rw [Layout.write, List.cons_append, readValue, skipSpace_cons (by decide)]
    rfl
  | cons member members =>
    simp only [Layout.write, List.length_append, List.length_cons, List.length_nil] at hfuel
    have hread : readMembers fuel (l.writeMembers (depth + 1) (member :: members) ++
        (l.line depth ++ '\x7d' :: rest)) = some (member :: members, rest) :=
      readMembers_writeMembers hnames h (by omega) depth
    obtain ⟨t, hstart⟩ := exists_writeMembers_eq l (depth + 1) member members
    rw [hstart, List.append_assoc, readMembers_blanks (l.isSpace_line _),
      List.cons_append] at hread
    rw [Layout.write, hstart, List.cons_append, readValue, skipSpace_cons (by decide)]
    simp only [List.append_assoc, List.cons_append, List.nil_append,
      skipSpace_append (l.isSpace_line (depth + 1)),
      skipSpace_cons (show isSpace '"' = false by rfl)]
    change (readMembers fuel ('"' :: (t ++ (l.line depth ++ '\x7d' :: rest)))).map _ = _
    rw [hread]
    rfl

/-- Every value that JSON can write is read back from what a layout writes for it. -/
theorem WellFormed.readsBack {j : Json} (hj : j.WellFormed) : j.ReadsBack l := by
  induction hj with
  | null => exact readsBack_of_succ .null fun _ _ _ _ _ => rfl
  | bool b => exact readsBack_of_succ (.bool b) fun _ _ _ _ _ => by cases b <;> rfl
  | number hn => exact readsBack_number hn
  | text t => exact readsBack_text t
  | array hitems ih => exact readsBack_array hitems ih
  | object hnames hvalues ih => exact readsBack_object hnames hvalues ih

/-- JSON with blanks behind it is read as the value it was written from. -/
theorem parse?_write {j : Json} (hj : j.WellFormed) (l : Layout) {blanks : Text}
    (hblanks : ∀ c ∈ blanks, isSpace c = true) :
    parse? (l.write 0 j ++ blanks) = some j := by
  have hread := hj.readsBack (l := l) 0 (2 * (l.write 0 j ++ blanks).length + 2) blanks
    (by rw [List.length_append]; omega) (by
      have hends : ∀ c ∈ (blanks ++ []).head?, endsNumber c = true :=
        endsNumber_blanks hblanks (by simp)
      rwa [List.append_nil] at hends)
  have hskip : skipSpace blanks = [] := List.dropWhile_eq_nil_iff.mpr hblanks
  rw [parse?, hread]
  change (if (skipSpace blanks).isEmpty then some j else none) = some j
  rw [hskip]
  rfl

end values

/-- Compact JSON is read as the value it was written from. -/
theorem parse?_compact {j : Json} (hj : j.WellFormed) : parse? j.compact = some j := by
  have hread : parse? (Layout.compact.write 0 j ++ []) = some j :=
    parse?_write hj .compact (by simp)
  rwa [List.append_nil, Layout.write_compact] at hread

/-- Indented JSON is read as the value it was written from, also with blanks behind it. -/
theorem parse?_pretty {j : Json} (hj : j.WellFormed) {blanks : Text}
    (hblanks : ∀ c ∈ blanks, isSpace c = true) : parse? (j.pretty ++ blanks) = some j := by
  have hread := parse?_write hj .indented hblanks
  rwa [Layout.write_indented] at hread

end ExprGate.Json
