import ExprGate.Config.Json
import ExprGate.Config.Yaml
import ExprGate.Proofs.JsonTokens
import ExprGate.Proofs.Trimming
import Mathlib.Tactic.Ring

/-!
# Reading back durations

The text of a duration lists what it holds of each unit. The amounts are read as they were written,
since each of them ends where a blank or the text does, and they add up to the duration: on the way
no sum is larger than the duration itself, so a duration that fits into 64 bits of seconds never
leaves them while it is read.
-/

namespace ExprGate.Duration

/-! ## What a duration holds of each unit -/

/-- A number of units. -/
structure Share where
  /-- How many units there are. -/
  count : Nat
  /-- The name of the unit. -/
  unit : String
  /-- The nanoseconds in a unit. -/
  size : Nat

namespace Share

/-- The share as it is written. -/
def text (s : Share) : Text := natText s.count ++ s.unit.toList

/-- The share as it is read. -/
def amount (s : Share) : Amount := ⟨natText s.count, none, s.unit.toList⟩

/-- The nanoseconds of the share. -/
def nanos (s : Share) : Nat := s.count * s.size

end Share

/-- The name of a unit for the given number of them. -/
def plural (n : Nat) (unit : String) : String := if n = 1 then unit else unit ++ "s"

/-- What a duration holds of each unit, the largest unit first. -/
def shares (d : Duration) : List Share :=
  let inYear := d.seconds % yearSeconds
  let inMonth := inYear % monthSeconds
  let inDay := inMonth % 86400
  [ ⟨d.seconds / yearSeconds, plural (d.seconds / yearSeconds) "year", yearSeconds * second⟩,
    ⟨inYear / monthSeconds, plural (inYear / monthSeconds) "month", monthSeconds * second⟩,
    ⟨inMonth / 86400, plural (inMonth / 86400) "day", 86400 * second⟩,
    ⟨inDay / 3600, "h", 3600 * second⟩,
    ⟨inDay % 3600 / 60, "m", 60 * second⟩,
    ⟨inDay % 60, "s", 1 * second⟩,
    ⟨d.subsecond / 1000000, "ms", 1000000⟩,
    ⟨d.subsecond / 1000 % 1000, "us", 1000⟩,
    ⟨d.subsecond % 1000, "ns", 1⟩ ]

/-- The shares that are written. -/
def writtenShares (d : Duration) : List Share := d.shares.filter fun s => s.count != 0

/-- A duration is written share by share. -/
theorem parts_eq_map_writtenShares (d : Duration) : d.parts = d.writtenShares.map Share.text := by
  have hpart (n : Nat) (unit : String) (size : Nat) (later : List Share) :
      part n unit ++ (later.filter fun s => s.count != 0).map Share.text =
        ((⟨n, unit, size⟩ :: later).filter fun s => s.count != 0).map Share.text := by
    by_cases hn : n = 0 <;> simp [part, Share.text, hn]
  simp only [parts, pluralPart, writtenShares, shares, List.append_assoc, ← hpart, List.filter_nil,
    List.map_nil, List.append_nil, plural]

/-- Shares of no unit count for nothing. -/
private theorem sum_filter_shares (shares : List Share) :
    ((shares.filter fun s => s.count != 0).map Share.nanos).sum = (shares.map Share.nanos).sum := by
  induction shares with
  | nil => rfl
  | cons s shares ih =>
    by_cases hs : s.count = 0 <;> simp [Share.nanos, hs, ih]

/-- Years, months, days, hours, minutes and seconds make up the seconds they are taken from. -/
private theorem seconds_eq_sum (n : Nat) :
    n / yearSeconds * yearSeconds +
      (n % yearSeconds / monthSeconds * monthSeconds +
        (n % yearSeconds % monthSeconds / 86400 * 86400 +
          (n % yearSeconds % monthSeconds % 86400 / 3600 * 3600 +
            (n % yearSeconds % monthSeconds % 86400 % 3600 / 60 * 60 +
              n % yearSeconds % monthSeconds % 86400 % 60)))) = n := by
  have hlast : n % yearSeconds % monthSeconds % 86400 % 3600 % 60 =
      n % yearSeconds % monthSeconds % 86400 % 60 := Nat.mod_mod_of_dvd _ (by decide)
  rw [← hlast]
  simp only [Nat.div_add_mod']

/-- The written shares of a duration make it up. -/
theorem sum_writtenShares (d : Duration) : (d.writtenShares.map Share.nanos).sum = d.nanos := by
  have hnanos : d.seconds * second + d.subsecond = d.nanos := Nat.div_add_mod' _ _
  have hseconds := seconds_eq_sum d.seconds
  have hsubsecond : d.subsecond / 1000000 * 1000000 + (d.subsecond / 1000 % 1000 * 1000 +
      d.subsecond % 1000) = d.subsecond := by omega
  rw [writtenShares, sum_filter_shares, shares]
  simp only [Share.nanos, List.map_cons, List.map_nil]
  iterate 9 rw [List.sum_cons]
  rw [List.sum_nil]
  conv_rhs => rw [← hnanos, ← hseconds, ← hsubsecond]
  ring

/-! ## Reading a share -/

/-- Adding the amount adds so many nanoseconds, to every duration for which that leaves the seconds
within 64 bits. -/
def Amount.Adds (a : Amount) (nanos : Nat) : Prop :=
  ∀ d : Duration, d.nanos + nanos < wordBound * second → addAmount? d a = some ⟨d.nanos + nanos⟩

/-- A share is read as it was written when its unit is spelled in letters and its amount adds what
it is worth. -/
structure Share.Readable (s : Share) : Prop where
  /-- The name of the unit is not empty. -/
  named : s.unit.toList ≠ []
  /-- The name of the unit consists of letters. -/
  letters : ∀ c ∈ s.unit.toList, isUnitLetter c = true
  /-- The amount is worth what the share is. -/
  adds : s.amount.Adds s.nanos

/-- Within its bound a sum is what it should be. -/
private theorem seconds_lt_of_lt {n : Nat} (h : n < wordBound * second) :
    (⟨n⟩ : Duration).seconds < wordBound :=
  Nat.div_lt_of_lt_mul (by rwa [Nat.mul_comm])

/-- Units that are counted in seconds add their seconds. -/
theorem Share.adds_seconds {s : Share} {unit : TimeUnit} {size : Nat}
    (hunit : unit? s.unit.toList = some unit) (hwhole : unit.whole = ⟨.seconds, size⟩)
    (hsize : s.size = size * second) (hpos : 0 < size) : s.amount.Adds s.nanos := by
  intro d hd
  have hnanos : s.nanos = s.count * size * second := by rw [nanos, hsize, Nat.mul_assoc]
  have hscaled : s.count * size < wordBound := by
    rw [hnanos] at hd
    exact Nat.lt_of_mul_lt_mul_right (by omega : s.count * size * second < wordBound * second)
  have hcount : s.count < wordBound :=
    Nat.lt_of_le_of_lt (Nat.le_mul_of_pos_right _ hpos) hscaled
  have hsum := seconds_lt_of_lt hd
  rw [hnanos] at hsum
  simp only [addAmount?, amount, hunit, hwhole, word?, natOfDigits_natText, hcount, scaled?,
    hscaled, add?, hsum, hnanos, if_true, and_self, Option.bind_eq_bind, Option.bind_some]
  rfl

/-- Units that are counted in nanoseconds add their nanoseconds, of which there may be fewer than
make up a second. -/
theorem Share.adds_nanoseconds {s : Share} {unit : TimeUnit} {size : Nat}
    (hunit : unit? s.unit.toList = some unit) (hwhole : unit.whole = ⟨.nanoseconds, size⟩)
    (hsize : s.size = size) (hpos : 0 < size) (hless : s.count * size < second) :
    s.amount.Adds s.nanos := by
  intro d hd
  have hnanos : s.nanos = s.count * size := by rw [nanos, hsize]
  have hscaled : s.count * size < wordBound :=
    Nat.lt_trans hless (by decide)
  have hcount : s.count < wordBound :=
    Nat.lt_of_le_of_lt (Nat.le_mul_of_pos_right _ hpos) hscaled
  have hcounted : d.subsecond + s.count * size < wordBound := by
    have hsubsecond : d.subsecond < second := Nat.mod_lt _ (by decide)
    have : second + second < wordBound := by decide
    omega
  have hsum := seconds_lt_of_lt hd
  rw [hnanos] at hsum
  simp only [addAmount?, amount, hunit, hwhole, word?, natOfDigits_natText, hcount, scaled?,
    hscaled, add?, hsum, hcounted, hnanos, if_true, and_self, Option.bind_eq_bind,
    Option.bind_some]
  rfl

/-- Whether a name consists of letters and spells a unit of the given worth. -/
def spells (name : String) (worth : Worth) : Bool :=
  !name.toList.isEmpty && name.toList.all isUnitLetter &&
    (unit? name.toList).map TimeUnit.whole == some worth

/-- The unit that a name spells. -/
private theorem exists_unit_of_spells {name : String} {worth : Worth}
    (h : spells name worth = true) : (name.toList ≠ [] ∧ ∀ c ∈ name.toList, isUnitLetter c = true) ∧
      ∃ unit, unit? name.toList = some unit ∧ unit.whole = worth := by
  simp only [spells, Bool.and_eq_true, Bool.not_eq_true', List.isEmpty_eq_false_iff,
    List.all_eq_true, beq_iff_eq, Option.map_eq_some_iff] at h
  exact h

/-- A number of units that are counted in seconds is read as it was written. -/
theorem Share.readable_seconds {name : String} {size : Nat}
    (hname : spells name ⟨.seconds, size⟩ = true) (hpos : 0 < size) (n : Nat) :
    (⟨n, name, size * second⟩ : Share).Readable := by
  obtain ⟨⟨hne, hletters⟩, unit, hunit, hwhole⟩ := exists_unit_of_spells hname
  exact ⟨hne, hletters, adds_seconds hunit hwhole rfl hpos⟩

/-- A number of units that are counted in nanoseconds is read as it was written, when there are too
few of them to make up a second. -/
theorem Share.readable_nanoseconds {name : String} {size n : Nat}
    (hname : spells name ⟨.nanoseconds, size⟩ = true) (hpos : 0 < size)
    (hless : n * size < second) : (⟨n, name, size⟩ : Share).Readable := by
  obtain ⟨⟨hne, hletters⟩, unit, hunit, hwhole⟩ := exists_unit_of_spells hname
  exact ⟨hne, hletters, adds_nanoseconds hunit hwhole rfl hpos hless⟩

/-- A number of units whose name takes an `s` is read as it was written. -/
private theorem readable_plural {name : String} {size : Nat}
    (hone : spells name ⟨.seconds, size⟩ = true)
    (hmore : spells (name ++ "s") ⟨.seconds, size⟩ = true) (hpos : 0 < size) (n : Nat) :
    (⟨n, plural n name, size * second⟩ : Share).Readable := by
  unfold plural
  split
  · exact Share.readable_seconds hone hpos n
  · exact Share.readable_seconds hmore hpos n

/-- None of the shares below the second is more than what they are shares of. -/
private theorem subsecond_shares_lt {n bound : Nat} (h : n < bound) :
    n / 1000000 * 1000000 < bound ∧ n / 1000 % 1000 * 1000 < bound ∧ n % 1000 * 1 < bound := by
  omega

/-- Whatever a duration holds of each unit is read as it was written. -/
theorem readable_of_mem_shares {d : Duration} {s : Share} (h : s ∈ d.shares) : s.Readable := by
  have hsubsecond : d.subsecond < second := Nat.mod_lt _ (by decide)
  obtain ⟨hmillis, hmicros, hnanos⟩ := subsecond_shares_lt hsubsecond
  rw [shares] at h
  simp only [List.mem_cons, List.not_mem_nil, or_false] at h
  rcases h with rfl | rfl | rfl | rfl | rfl | rfl | rfl | rfl | rfl
  · exact readable_plural (by rfl) (by rfl) (by decide) _
  · exact readable_plural (by rfl) (by rfl) (by decide) _
  · exact readable_plural (by rfl) (by rfl) (by decide) _
  · exact Share.readable_seconds (by rfl) (by decide) _
  · exact Share.readable_seconds (by rfl) (by decide) _
  · exact Share.readable_seconds (by rfl) (by decide) _
  · exact Share.readable_nanoseconds (by rfl) (by decide) hmillis
  · exact Share.readable_nanoseconds (by rfl) (by decide) hmicros
  · exact Share.readable_nanoseconds (by rfl) (by decide) hnanos

section reading

variable {digits unit rest : Text}

/-- Digits are read up to the first character that is neither a digit nor blank. -/
theorem readDigits_append (hdigits : ∀ c ∈ digits, c.isDigit = true) {c : Char}
    (hdigit : c.isDigit = false) (hblank : isBlank c = false) :
    readDigits (digits ++ c :: rest) = (digits, c :: rest) := by
  induction digits with
  | nil => simp [readDigits, hdigit, hblank]
  | cons d digits ih =>
    rw [List.forall_mem_cons] at hdigits
    simp [readDigits, hdigits.1, ih hdigits.2]

/-- A letter that spells units is neither a digit nor a point, and it is not blank. -/
theorem not_isDigit_of_isUnitLetter {c : Char} (h : isUnitLetter c = true) :
    c.isDigit = false ∧ isBlank c = false ∧ c ≠ '.' := by
  rw [isUnitLetter, Bool.or_eq_true, beq_iff_eq] at h
  rcases h with h | rfl
  · have hletter : 65 ≤ c.toNat ∧ c.toNat ≤ 90 ∨ 97 ≤ c.toNat ∧ c.toNat ≤ 122 := by
      rcases (Bool.or_eq_true _ _).mp h with hupper | hlower
      · obtain ⟨hfirst, hlast⟩ := of_decide_eq_true hupper
        exact .inl ⟨UInt32.le_iff_toNat_le.mp hfirst, UInt32.le_iff_toNat_le.mp hlast⟩
      · obtain ⟨hfirst, hlast⟩ := (Bool.and_eq_true _ _).mp hlower
        exact .inr ⟨UInt32.le_iff_toNat_le.mp (of_decide_eq_true hfirst),
          UInt32.le_iff_toNat_le.mp (of_decide_eq_true hlast)⟩
    refine ⟨?_, ?_, ?_⟩
    · rw [Bool.eq_false_iff]
      intro hdigit
      have : c.toNat ≤ 57 := (Char.isDigit_iff_toNat.mp hdigit).2
      omega
    · rw [Bool.eq_false_iff]
      intro hblank
      simp only [isBlank, Bool.or_eq_true, Bool.and_eq_true, decide_eq_true_eq,
        beq_iff_eq] at hblank
      omega
    · rintro rfl
      exact absurd hletter (by decide)
  · exact ⟨by decide, by decide, by decide⟩

/-- Where the shares that follow start, another share may end: there is nothing, or a space. -/
theorem readAmount_text {s : Share} (hs : s.Readable) {rest : Text}
    (hrest : ∀ c ∈ rest.head?, c = ' ') : readAmount (s.text ++ rest) = some (s.amount, rest) := by
  obtain ⟨first, more, hdigits⟩ := List.exists_cons_of_ne_nil (isNumeral_natText s.count).1
  obtain ⟨letter, letters, hunit⟩ := List.exists_cons_of_ne_nil hs.named
  have hfirst : first.isDigit = true := (isNumeral_natText s.count).2 first (by simp [hdigits])
  obtain ⟨hdigit, hblank, hpoint⟩ :=
    not_isDigit_of_isUnitLetter (hs.letters letter (by simp [hunit]))
  have hwhole : readDigits (s.text ++ rest) = (natText s.count, s.unit.toList ++ rest) := by
    rw [Share.text, List.append_assoc, hunit, List.cons_append,
      readDigits_append (isNumeral_natText s.count).2 hdigit hblank]
  have hfraction : readFraction (s.unit.toList ++ rest) = some (none, s.unit.toList ++ rest) := by
    rw [hunit, List.cons_append, readFraction.eq_2 _ fun _ h => hpoint (List.cons.inj h).1]
  have hstop : ∀ c ∈ rest.head?, isUnitLetter c = false := by
    intro c hc
    rw [hrest c hc]
    decide
  have htake := Text.takeWhile_append hs.letters hstop
  have hdrop := Text.dropWhile_append hs.letters hstop
  have hstart : s.text ++ rest = first :: (more ++ (s.unit.toList ++ rest)) := by
    rw [Share.text, hdigits, List.append_assoc, List.cons_append]
  rw [hstart] at hwhole ⊢
  simp only [readAmount, hfirst, if_true, hwhole, hfraction, Option.bind_eq_bind, Option.bind_some,
    htake, hdrop]
  cases rest with
  | nil => rfl
  | cons c rest =>
    obtain rfl := hrest c rfl
    rfl

/-- Shares are separated from what comes before them by a space. -/
private theorem head?_spaced (shares : List Share) :
    ∀ c ∈ (shares.flatMap fun s => ' ' :: s.text).head?, c = ' ' := by
  cases shares with
  | nil => simp
  | cons s shares => simp

/-- A share starts with a digit. -/
theorem Share.exists_text_eq_cons (s : Share) : ∃ c t, s.text = c :: t ∧ c.isDigit = true := by
  obtain ⟨first, more, hdigits⟩ := List.exists_cons_of_ne_nil (isNumeral_natText s.count).1
  refine ⟨first, more ++ s.unit.toList, ?_, (isNumeral_natText s.count).2 first (by simp [hdigits])⟩
  rw [text, hdigits, List.cons_append]

/-- A space in front of amounts is not read. -/
private theorem readAmounts_space (fuel : Nat) (t : Text) :
    readAmounts fuel (' ' :: t) = readAmounts fuel t := by
  have htrim : Text.trimStart (' ' :: t) = Text.trimStart t :=
    List.dropWhile_cons_of_pos (by decide)
  unfold readAmounts
  rw [htrim]

/-- A share is read first, where it stands in front. -/
theorem readAmounts_share {s : Share} (hs : s.Readable) {rest : Text}
    (hrest : ∀ c ∈ rest.head?, c = ' ') (fuel : Nat) :
    readAmounts (fuel + 1) (s.text ++ rest) =
      (readAmounts fuel rest).map fun amounts => s.amount :: amounts := by
  obtain ⟨first, more, htext, hfirst⟩ := s.exists_text_eq_cons
  have hblank : isBlank first = false := by
    have hlow : 48 ≤ first.toNat := (Char.isDigit_iff_toNat.mp hfirst).1
    have hhigh : first.toNat ≤ 57 := (Char.isDigit_iff_toNat.mp hfirst).2
    rw [Bool.eq_false_iff]
    intro hblank
    simp only [isBlank, Bool.or_eq_true, Bool.and_eq_true, decide_eq_true_eq, beq_iff_eq] at hblank
    omega
  have hread := readAmount_text hs hrest
  rw [htext, List.cons_append] at hread ⊢
  have htrim : Text.trimStart (first :: (more ++ rest)) = first :: (more ++ rest) :=
    List.dropWhile_cons_of_neg (by rw [hblank]; decide)
  rw [readAmounts, htrim]
  change (readAmount (first :: (more ++ rest))).bind _ = _
  rw [hread, Option.map_eq_bind]
  rfl

/-- Shares with a space before each of them are read as they were written. -/
theorem readAmounts_spaced {shares : List Share} (h : ∀ s ∈ shares, s.Readable) {fuel : Nat}
    (hfuel : shares.length ≤ fuel) :
    readAmounts fuel (shares.flatMap fun s => ' ' :: s.text) = some (shares.map Share.amount) := by
  induction shares generalizing fuel with
  | nil =>
    unfold readAmounts
    rfl
  | cons s shares ih =>
    rw [List.length_cons] at hfuel
    obtain ⟨fuel, rfl⟩ : ∃ k, fuel = k + 1 := ⟨fuel - 1, by omega⟩
    obtain ⟨hs, hshares⟩ := List.forall_mem_cons.mp h
    rw [List.flatMap_cons, List.cons_append, readAmounts_space,
      readAmounts_share hs (head?_spaced shares), ih hshares (by omega)]
    rfl

end reading

/-- Amounts that are worth what their shares are add up to the sum of the shares. -/
theorem foldlM_addAmount?_shares {shares : List Share} (h : ∀ s ∈ shares, s.Readable)
    {d : Duration} (hbound : d.nanos + (shares.map Share.nanos).sum < wordBound * second) :
    (shares.map Share.amount).foldlM addAmount? d =
      some ⟨d.nanos + (shares.map Share.nanos).sum⟩ := by
  induction shares generalizing d with
  | nil => rfl
  | cons s shares ih =>
    obtain ⟨hs, hshares⟩ := List.forall_mem_cons.mp h
    have hsum : d.nanos + ((s :: shares).map Share.nanos).sum =
        d.nanos + s.nanos + (shares.map Share.nanos).sum := by
      rw [List.map_cons, List.sum_cons, Nat.add_assoc]
    rw [hsum] at hbound ⊢
    rw [List.map_cons, List.foldlM_cons, hs.adds d (by omega)]
    exact ih hshares hbound

/-- Texts with spaces between them are the first text and the others with a space before each. -/
private theorem intercalate_space (t : Text) (ts : List Text) :
    [' '].intercalate (t :: ts) = t ++ ts.flatMap fun u => ' ' :: u := by
  induction ts generalizing t with
  | nil => simp
  | cons u ts ih => rw [List.intercalate_cons_cons, ih, List.flatMap_cons]; simp

/-- Shares are written with at least one character each. -/
private theorem length_le_spaced (shares : List Share) :
    shares.length ≤ (shares.flatMap fun s => ' ' :: s.text).length := by
  induction shares with
  | nil => simp
  | cons s shares ih =>
    rw [List.flatMap_cons, List.length_append, List.length_cons, List.length_cons]
    omega

/-- The whole seconds of a duration fit into words of 64 bits. -/
def InRange (d : Duration) : Prop := d.seconds < wordBound

/-- Every duration whose seconds are within 64 bits is read from its text. -/
theorem parse?_text {d : Duration} (hd : d.InRange) : parse? d.text = some d := by
  have h : d.nanos < wordBound * second := (Nat.div_lt_iff_lt_mul (by decide)).mp hd
  have hreadable : ∀ s ∈ d.writtenShares, s.Readable := fun s hs =>
    readable_of_mem_shares (List.mem_filter.mp hs).1
  have hsum := sum_writtenShares d
  rw [text, parts_eq_map_writtenShares]
  cases hshares : d.writtenShares with
  | nil =>
    rw [hshares] at hsum
    have hzero : d = ⟨0⟩ := by
      cases d
      exact congrArg Duration.mk hsum.symm
    subst hzero
    rfl
  | cons s shares =>
    rw [hshares] at hreadable hsum
    obtain ⟨hs, hrest⟩ := List.forall_mem_cons.mp hreadable
    have htext : [' '].intercalate ((s :: shares).map Share.text) =
        s.text ++ shares.flatMap fun s => ' ' :: s.text := by
      rw [List.map_cons, intercalate_space, List.flatMap_map]
    have hlength : shares.length < (s.text ++ shares.flatMap fun s => ' ' :: s.text).length := by
      obtain ⟨c, t, hcons, -⟩ := s.exists_text_eq_cons
      have := length_le_spaced shares
      rw [hcons, List.cons_append, List.length_cons, List.length_append]
      omega
    obtain ⟨fuel, hfuel⟩ := Nat.exists_eq_add_one_of_ne_zero (Nat.ne_zero_of_lt hlength)
    have hread : readAmounts (s.text ++ shares.flatMap fun s => ' ' :: s.text).length
        (s.text ++ shares.flatMap fun s => ' ' :: s.text) =
          some ((s :: shares).map Share.amount) := by
      rw [hfuel, readAmounts_share hs (head?_spaced shares),
        readAmounts_spaced hrest (by omega)]
      rfl
    have hadded := foldlM_addAmount?_shares hreadable (d := ⟨0⟩)
      (by rw [hsum, Nat.zero_add]; exact h)
    rw [hsum, Nat.zero_add] at hadded
    change parse? ([' '].intercalate ((s :: shares).map Share.text)) = some d
    rw [htext, parse?, hread]
    exact hadded

/-- In JSON every duration whose seconds are within 64 bits is read from its text. -/
theorem ofJson?_text {d : Duration} (hd : d.InRange) : ofJson? (.text d.text) = some d :=
  parse?_text hd

/-- In YAML every duration whose seconds are within 64 bits is read from a scalar with its text. -/
theorem ofYaml?_text {d : Duration} (hd : d.InRange) {node : Yaml.Node}
    (hnode : node.text? = some d.text) : ofYaml? node = some d := by
  rw [ofYaml?, hnode]
  exact parse?_text hd

section Parts

/-! ## Seconds and nanoseconds -/

/-- The duration of so many seconds, and so many nanoseconds more. -/
def ofParts (whole rest : Nat) : Duration := { nanos := whole * second + rest }

variable {whole rest : Nat}

/-- Fewer nanoseconds than make up a second leave the seconds as they are. -/
theorem seconds_ofParts (h : rest < second) : (ofParts whole rest).seconds = whole := by
  rw [ofParts, seconds, Nat.add_comm, Nat.add_mul_div_right _ _ (Nat.zero_lt_of_lt h),
    Nat.div_eq_of_lt h, Nat.zero_add]

/-- Fewer nanoseconds than make up a second are those beyond the whole seconds. -/
theorem subsecond_ofParts (h : rest < second) : (ofParts whole rest).subsecond = rest := by
  rw [ofParts, subsecond, Nat.mul_comm, Nat.mul_add_mod, Nat.mod_eq_of_lt h]

/-- A duration of any number of seconds that fits into 64 bits and of any nanoseconds below a second
is written as a text that is read as exactly that duration, from a JSON text and from a YAML scalar
of any style. -/
theorem durations_are_read_as_written (hwhole : whole < wordBound) (hrest : rest < second) :
    (ofParts whole rest).seconds = whole ∧ (ofParts whole rest).subsecond = rest ∧
      ofJson? (.text (ofParts whole rest).text) = some (ofParts whole rest) ∧
      ∀ node : Yaml.Node, node.text? = some (ofParts whole rest).text →
        ofYaml? node = some (ofParts whole rest) := by
  have hseconds : (ofParts whole rest).seconds = whole := seconds_ofParts hrest
  have hrange : (ofParts whole rest).InRange := hseconds.trans_lt hwhole
  exact ⟨hseconds, subsecond_ofParts hrest, ofJson?_text hrange, fun _ => ofYaml?_text hrange⟩

/-- The longest duration has an amount of every unit. -/
theorem longest_duration_is_read_as_written :
    let written := "584542046090years 7months 15days 17h 5m 3s 999ms 999us 999ns".toList
    (ofParts (wordBound - 1) (second - 1)).text = written ∧
      ofJson? (.text written) = some (ofParts (wordBound - 1) (second - 1)) ∧
      ofYaml? (.scalar none .plain written) = some (ofParts (wordBound - 1) (second - 1)) := by
  intro written
  have htext : (ofParts (wordBound - 1) (second - 1)).text = written := by decide
  obtain ⟨-, -, hjson, hyaml⟩ := durations_are_read_as_written
    (by decide : wordBound - 1 < wordBound) (by decide : second - 1 < second)
  rw [htext] at hjson
  exact ⟨htext, hjson, hyaml _ (congrArg some htext.symm)⟩

end Parts

end ExprGate.Duration
