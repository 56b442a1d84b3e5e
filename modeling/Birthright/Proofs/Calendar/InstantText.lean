import Birthright.Calendar.Instant
import Birthright.Proofs.Calendar.DayCount
import Birthright.Proofs.Json.Integer

/-!
# Instants read back

The text of an instant is read item by item: every number is written with as many digits as the
item takes, or with a sign, and every mark stands right after it. What the text states about date
and time is collected in `Instant.facts`, and these facts determine the instant.

* `digitsValue_padded` — leading zeros do not count
* `readAll?_timestamp` — what the text of an instant states
* `ofReading?_facts` — the instant that is stated
* `ofText?_text` — an instant is read back from its text
-/

namespace Birthright

namespace Text

/-! ## Digits with leading zeros -/

variable {w n : Nat} {c : Char}

theorem isDigit_of_mem_padded (h : c ∈ padded w n) : c.isDigit = true := by
  rcases List.mem_append.mp h with hzero | hdigit
  · rw [List.eq_of_mem_replicate hzero]
    rfl
  · exact isDigit_of_mem_decimal hdigit

theorem exists_padded_cons (w n : Nat) : ∃ c s, padded w n = c :: s ∧ c.isDigit = true := by
  have hne : padded w n ≠ [] := List.append_ne_nil_of_right_ne_nil _ (decimal_ne_nil n)
  obtain ⟨c, s, hs⟩ := List.exists_cons_of_ne_nil hne
  exact ⟨c, s, hs, isDigit_of_mem_padded (w := w) (n := n) (by simp [hs])⟩

/-- **Leading zeros** do not count. -/
theorem digitsValue_padded (w n : Nat) : digitsValue (padded w n) = n := by
  rw [digitsValue, padded, Nat.ofDigitChars_append, Nat.ofDigitChars_replicate_zero]
  exact digitsValue_decimal n

/-- A number that fits is written with exactly as many digits as asked for. -/
theorem length_padded (hw : 0 < w) (h : n < tenTo w) : (padded w n).length = w := by
  have hlength : (decimal n).length ≤ w := (Nat.length_toDigits_le_iff (by decide) hw).mpr h
  rw [padded, List.length_append, List.length_replicate]
  omega

theorem isBlank_of_isDigit (h : c.isDigit = true) : isBlank c = false := by
  simp only [Char.isDigit, Bool.and_eq_true, decide_eq_true_eq, ge_iff_le, UInt32.le_iff_toNat_le]
    at h
  have h : 48 ≤ c.toNat ∧ c.toNat ≤ 57 := h
  have hall : ∀ n < 58, 48 ≤ n → inRanges blankRanges n = false := by decide
  exact hall c.toNat (Nat.lt_succ_of_le h.2) h.1

end Text

namespace Calendar

open Text (padded tenTo isBlank skipBlanks)

variable {r r' : Reading} {w n : Nat} {c : Char} {s rest : List Char}

/-! ## Numbers -/

/-- A text does not go on with the digits that come before it. -/
def EndsNumber (s : List Char) : Prop := ∀ c ∈ s.head?, c.isDigit = false

theorem endsNumber_cons (hc : c.isDigit = false) (s : List Char) : EndsNumber (c :: s) := by
  rintro _ ⟨⟩
  exact hc

/-- Digits are read as a number if they are not too many and no further one follows. -/
theorem number?_padded {limit : Option Nat} (hlimit : ∀ most ∈ limit, (padded w n).length ≤ most)
    (hn : (n : Int) ≤ Figure.greatestNumber) (hrest : EndsNumber rest) :
    number? limit (padded w n ++ rest) = some (↑n, rest) := by
  have hall : (padded w n ++ rest).takeWhile Char.isDigit = padded w n :=
    congrArg Prod.fst (Text.splitDigits_append (fun _ => Text.isDigit_of_mem_padded) hrest)
  obtain ⟨c, s, hs, -⟩ := Text.exists_padded_cons w n
  have hnonempty : (padded w n).isEmpty = false := by rw [hs]; rfl
  have hread : (if (padded w n).isEmpty
      ∨ Figure.greatestNumber < (Text.digitsValue (padded w n) : Int) then none
      else some ((Text.digitsValue (padded w n) : Int),
        (padded w n ++ rest).drop (padded w n).length)) = some (↑n, rest) := by
    rw [Text.digitsValue_padded, hnonempty, if_neg (by simpa using hn), List.drop_left]
  unfold number?
  rw [hall]
  cases limit with
  | none => exact hread
  | some most =>
    simp only [List.take_of_length_le (hlimit most rfl)]
    exact hread

/-- A number that fits is read although its item takes only so many digits. -/
theorem number?_padded_of_lt (hw : 0 < w) (hfits : n < tenTo w)
    (hn : (n : Int) ≤ Figure.greatestNumber) (hrest : EndsNumber rest) :
    number? (some w) (padded w n ++ rest) = some (↑n, rest) := by
  refine number?_padded ?_ hn hrest
  rintro most ⟨⟩
  exact (Text.length_padded hw hfits).le

theorem skipBlanks_of_isDigit (hc : c.isDigit = true) (s : List Char) :
    skipBlanks (c :: s) = c :: s :=
  List.dropWhile_cons_of_neg (by simp [Text.isBlank_of_isDigit hc])

/-! ## What is stated -/

/-- What the text of a date states, the last first. -/
def Date.facts (d : Date) : Reading := [(.day, d.day), (.month, d.month), (.year, d.year)]

namespace Instant

/-- What the text of an instant states up to its seconds. -/
def wholeFacts (t : Instant) : Reading :=
  (.second, t.second) :: (.minute, t.minute) :: (.hourOfHalf, t.hour % 12)
    :: (.halfOfDay, t.hour / 12) :: t.date.facts

/-- What the text of an instant states up to its fraction, if there is one. -/
def exactFacts (t : Instant) : Reading :=
  if t.nanosecond = 0 then t.wholeFacts else (.nanosecond, t.nanosecond) :: t.wholeFacts

/-- What the text of an instant states, the last first. -/
def facts (t : Instant) : Reading := (.offset, 0) :: t.exactFacts

end Instant

namespace Item

/-! ## Items -/

variable {item : Item} {items items' : List Item} {f : Figure} {facts : List (Field × Int)}

/-- The first item is read before the others. -/
theorem readAll?_cons_of_read? (h : item.read? r s = some (r', rest)) :
    readAll? (item :: items) r s = readAll? items r' rest := by
  show (item.read? r s >>= fun p => readAll? items p.1 p.2) = _
  rw [h]
  rfl

/-- Items are read one part after the other. -/
theorem readAll?_append_of_readAll? (h : readAll? items r s = some (r', rest)) :
    readAll? (items ++ items') r s = readAll? items' r' rest := by
  rw [readAll?] at h
  rw [readAll?, List.foldlM_append, h]
  rfl

/-- A mark is read right away; the blanks that are allowed before it are not there. -/
theorem readAll?_mark (hc : isBlank c = false) :
    readAll? (.blanks :: .literal c :: items) r (c :: s) = readAll? items r s := by
  have hblanks : Item.blanks.read? r (c :: s) = some (r, c :: s) := by
    rw [read?, skipBlanks, List.dropWhile_cons_of_neg (by simp [hc])]
  have hmark : (Item.literal c).read? r (c :: s) = some (r, s) := if_pos rfl
  rw [readAll?_cons_of_read? hblanks, readAll?_cons_of_read? hmark]

/-- A number of two digits is read if no digit follows. -/
theorem read?_twoDigits (hsigned : f.isSigned = false) (hwidth : f.width = some 2) (hn : n < 100)
    (hfacts : f.facts? n = some facts) (hstated : r.stateAll? facts = some r')
    (hrest : EndsNumber rest) :
    (Item.figure f).read? r (padded 2 n ++ rest) = some (r', rest) := by
  have hgreatest : Figure.greatestNumber = 9223372036854775807 := rfl
  have hnumber : number? (some 2) (padded 2 n ++ rest) = some (↑n, rest) :=
    number?_padded_of_lt (by decide) hn (by omega) hrest
  obtain ⟨c, s, hs, hc⟩ := Text.exists_padded_cons 2 n
  rw [hs, List.cons_append] at hnumber ⊢
  simp [read?, skipBlanks_of_isDigit hc, hsigned, hwidth, hnumber, hfacts, hstated]

/-- A year is read with or without its sign if no digit follows. -/
theorem signedNumber?_yearText {y : Int} (hy : firstYear ≤ y ∧ y ≤ lastYear)
    (hrest : EndsNumber rest) :
    signedNumber? (some 4) (Instant.yearText y ++ rest) = some (y, rest) := by
  have hfirst : firstYear = -262143 := rfl
  have hlast : lastYear = 262142 := rfl
  have hgreatest : Figure.greatestNumber = 9223372036854775807 := rfl
  rw [Instant.yearText]
  split_ifs with hplain hneg
  · have hfits : y.toNat < tenTo 4 := by
      show y.toNat < 10000
      omega
    have hnumber : number? (some 4) (padded 4 y.toNat ++ rest) = some (↑y.toNat, rest) :=
      number?_padded_of_lt (by decide) hfits (by omega) hrest
    rw [Int.toNat_of_nonneg hplain.1] at hnumber
    -- The first digit is no sign, so the first two alternatives are not taken.
    obtain ⟨c, s, hs, hc⟩ := Text.exists_padded_cons 4 y.toNat
    rw [hs, List.cons_append] at hnumber ⊢
    unfold signedNumber?
    split
    · next heq =>
      rw [(List.cons.inj heq).1] at hc
      cases hc
    · next heq =>
      rw [(List.cons.inj heq).1] at hc
      cases hc
    · exact hnumber
  · have hnumber : number? none (padded 4 y.natAbs ++ rest) = some (↑y.natAbs, rest) :=
      number?_padded nofun (by omega) hrest
    have hvalue : -(y.natAbs : Int) = y := by omega
    show (number? none (padded 4 y.natAbs ++ rest)).map _ = _
    rw [hnumber, Option.map_some, hvalue]
  · have hnumber : number? none (padded 4 y.natAbs ++ rest) = some (↑y.natAbs, rest) :=
      number?_padded nofun (by omega) hrest
    have hvalue : (y.natAbs : Int) = y := by omega
    show number? none (padded 4 y.natAbs ++ rest) = _
    rw [hnumber, hvalue]

theorem skipBlanks_yearText (y : Int) (rest : List Char) :
    skipBlanks (Instant.yearText y ++ rest) = Instant.yearText y ++ rest := by
  rw [Instant.yearText]
  split_ifs
  · obtain ⟨c, s, hs, hc⟩ := Text.exists_padded_cons 4 y.toNat
    rw [hs]
    exact skipBlanks_of_isDigit hc (s ++ rest)
  · rfl
  · rfl

theorem read?_yearText {y : Int} (hy : firstYear ≤ y ∧ y ≤ lastYear) (hrest : EndsNumber rest) :
    (Item.figure .year).read? [] (Instant.yearText y ++ rest) = some ([(.year, y)], rest) := by
  have hfirst : firstYear = -262143 := rfl
  have hlast : lastYear = 262142 := rfl
  have hgreatest : Figure.greatestYear = 2147483647 := rfl
  have hfacts : Figure.year.facts? y = some [(.year, y)] := if_pos (by omega)
  have hnumber := signedNumber?_yearText hy hrest
  simp [read?, skipBlanks_yearText, Figure.isSigned, Figure.width, hnumber, hfacts,
    Reading.stateAll?, Reading.state?, Reading.get?]

/-- **The text of a date** states its year, month and day. -/
theorem readAll?_plainDate (d : Date) (hrest : EndsNumber rest) :
    readAll? plainDate [] (Instant.dateText d ++ rest) = some (d.facts, rest) := by
  obtain ⟨hmonth, hmonth'⟩ := d.month_mem
  obtain ⟨hday, hday'⟩ := d.day_mem
  have hlength := (monthLength_mem d.year d.month).2
  have hmonths : Figure.month.facts? d.month = some [(.month, (d.month : Int))] :=
    if_pos (by omega)
  have hdays : Figure.day.facts? d.day = some [(.day, (d.day : Int))] := if_pos (by omega)
  have hhyphen := endsNumber_cons (c := '-') rfl
  -- Every number ends at the hyphen after it; what comes after the day is left to `hrest`.
  rw [Instant.dateText, List.append_assoc, List.cons_append, List.append_assoc, List.cons_append,
    plainDate, readAll?_cons_of_read? (read?_yearText d.year_mem (hhyphen _)), readAll?_mark rfl,
    readAll?_cons_of_read? (read?_twoDigits rfl rfl (by omega) hmonths rfl (hhyphen _)),
    readAll?_mark rfl,
    readAll?_cons_of_read? (read?_twoDigits rfl rfl (by omega) hdays rfl hrest)]
  rfl

/-! ## Times -/

/-- A point or the mark of the zone comes after the seconds. -/
theorem endsNumber_fractionText (n : Nat) (s : List Char) :
    EndsNumber (Instant.fractionText n ++ 'Z' :: s) := by
  rw [Instant.fractionText]
  split_ifs <;> exact endsNumber_cons rfl _

/-- The digits after the point stand for as many nanoseconds as their place says. -/
theorem fractionValue_padded {places : Nat} (hpositive : 0 < places) (hn : n < tenTo places) :
    fractionValue (padded places n) = tenTo (9 - places) * n := by
  have hvalue : Nat.ofDigitChars 10 (padded places n) 0 = n := Text.digitsValue_padded places n
  rw [fractionValue, Text.length_padded hpositive hn, Text.digitsValue, Nat.ofDigitChars_append,
    hvalue, Nat.ofDigitChars_replicate_zero]
  rfl

/-- A point and up to nine digits are read as a fraction of a second. -/
theorem read?_fraction {places : Nat} (hpositive : 0 < places) (hplaces : places ≤ 9)
    (hn : n < tenTo places) (hrest : EndsNumber rest)
    (hstated : r.state? .nanosecond (tenTo (9 - places) * n : Nat) = some r') :
    (Item.fraction none).read? r ('.' :: (padded places n ++ rest)) = some (r', rest) := by
  have hsplit : Text.splitDigits (padded places n ++ rest) = (padded places n, rest) :=
    Text.splitDigits_append (fun _ => Text.isDigit_of_mem_padded) hrest
  have hlength : (padded places n).length = places := Text.length_padded hpositive hn
  have hnonempty : (padded places n).isEmpty = false := by
    rw [List.isEmpty_eq_false_iff, ← List.length_pos_iff, hlength]
    exact hpositive
  have hnumber : nanoseconds? none (padded places n ++ rest)
      = some (((tenTo (9 - places) * n : Nat) : Int), rest) := by
    rw [← fractionValue_padded hpositive hn]
    simp [nanoseconds?, hsplit, hnonempty, List.take_of_length_le (hlength.trans_le hplaces)]
  show (nanoseconds? none (padded places n ++ rest)).bind (fun p =>
    (r.state? .nanosecond p.1).bind fun r => some (r, p.2)) = _
  rw [hnumber, Option.bind_some, hstated, Option.bind_some]

/-- A fraction is written in as few groups of three digits as it needs. -/
theorem read?_fractionText (t : Instant) (s : List Char) :
    (Item.fraction none).read? t.wholeFacts (Instant.fractionText t.nanosecond ++ 'Z' :: s)
      = some (t.exactFacts, 'Z' :: s) := by
  have hlt := t.nanosecond_lt
  have hzone : EndsNumber ('Z' :: s) := endsNumber_cons rfl s
  rw [Instant.fractionText, Instant.exactFacts]
  split_ifs with hzero hmillis hmicros
  · rfl
  · have hfits : t.nanosecond / 1000000 < tenTo 3 := by
      show t.nanosecond / 1000000 < 1000
      omega
    have hwhole : tenTo (9 - 3) * (t.nanosecond / 1000000) = t.nanosecond := by
      show 1000000 * (t.nanosecond / 1000000) = t.nanosecond
      omega
    refine read?_fraction (by decide) (by decide) hfits hzone ?_
    rw [hwhole]
    rfl
  · have hfits : t.nanosecond / 1000 < tenTo 6 := by
      show t.nanosecond / 1000 < 1000000
      omega
    have hwhole : tenTo (9 - 6) * (t.nanosecond / 1000) = t.nanosecond := by
      show 1000 * (t.nanosecond / 1000) = t.nanosecond
      omega
    refine read?_fraction (by decide) (by decide) hfits hzone ?_
    rw [hwhole]
    rfl
  · have hwhole : tenTo (9 - 9) * t.nanosecond = t.nanosecond := Nat.one_mul t.nanosecond
    refine read?_fraction (by decide) (by decide) t.nanosecond_lt hzone ?_
    rw [hwhole]
    rfl

theorem read?_zone (t : Instant) : Item.zone.read? t.exactFacts ['Z'] = some (t.facts, []) := by
  have hnew : t.exactFacts.get? .offset = none := by
    rw [Instant.exactFacts]
    split_ifs <;> rfl
  show (t.exactFacts.state? .offset 0).bind (fun r => some (r, [])) = _
  rw [Reading.state?, hnew]
  rfl

/-- **The text of a time of day** states its parts. -/
theorem readAll?_plainTime (t : Instant) :
    readAll? plainTime t.date.facts (t.clockText ++ Instant.fractionText t.nanosecond ++ ['Z'])
      = some (t.facts, []) := by
  have hhour := t.hour_lt
  have hminute := t.minute_lt
  have hsecond := t.second_le
  have hhours : Figure.hour.facts? t.hour
      = some [(.halfOfDay, (t.hour / 12 : Int)), (.hourOfHalf, (t.hour % 12 : Int))] :=
    if_pos (by omega)
  have hminutes : Figure.minute.facts? t.minute = some [(.minute, (t.minute : Int))] :=
    if_pos (by omega)
  have hseconds : Figure.second.facts? t.second = some [(.second, (t.second : Int))] :=
    if_pos (by omega)
  have hcolon := endsNumber_cons (c := ':') rfl
  rw [Instant.clockText, List.append_assoc, List.append_assoc, List.cons_append, List.append_assoc,
    List.cons_append, plainTime,
    readAll?_cons_of_read? (read?_twoDigits rfl rfl (by omega) hhours rfl (hcolon _)),
    readAll?_mark rfl,
    readAll?_cons_of_read? (read?_twoDigits rfl rfl (by omega) hminutes rfl (hcolon _)),
    readAll?_mark rfl,
    readAll?_cons_of_read? (read?_twoDigits rfl rfl (by omega) hseconds rfl
      (endsNumber_fractionText _ _))]
  -- The hour states two facts, so these are the ones of `wholeFacts` in their order.
  show readAll? [.fraction none, .blanks, .zone] t.wholeFacts
    (Instant.fractionText t.nanosecond ++ ['Z']) = _
  have hblanks : Item.blanks.read? t.exactFacts ['Z'] = some (t.exactFacts, ['Z']) := rfl
  rw [readAll?_cons_of_read? (read?_fractionText t []), readAll?_cons_of_read? hblanks,
    readAll?_cons_of_read? (read?_zone t)]
  rfl

/-- **The text of an instant** states its date and its time. -/
theorem readAll?_timestamp (t : Instant) :
    readAll? timestamp [] t.text.toList = some (t.facts, []) := by
  have hmark : EndsNumber ('T' :: (t.clockText ++ Instant.fractionText t.nanosecond ++ ['Z'])) :=
    endsNumber_cons rfl _
  rw [Instant.text, String.toList_ofList, timestamp, List.append_assoc,
    readAll?_append_of_readAll? (readAll?_plainDate t.date hmark)]
  have hletter : (Item.oneOf ['T', 't', ' ']).read? t.date.facts
      ('T' :: (t.clockText ++ Instant.fractionText t.nanosecond ++ ['Z']))
      = some (t.date.facts, t.clockText ++ Instant.fractionText t.nanosecond ++ ['Z']) := rfl
  show readAll? (.oneOf ['T', 't', ' '] :: plainTime) _ _ = _
  rw [readAll?_cons_of_read? hletter]
  exact readAll?_plainTime t

end Item

/-! ## Instants -/

namespace Instant

variable (t : Instant)

/-- What the text of an instant states about a field, if anything. -/
def stated? (t : Instant) : Field → Option Int
  | .year => some t.date.year
  | .month => some t.date.month
  | .day => some t.date.day
  | .halfOfDay => some (t.hour / 12)
  | .hourOfHalf => some (t.hour % 12)
  | .minute => some t.minute
  | .second => some t.second
  | .nanosecond => if t.nanosecond = 0 then none else some t.nanosecond
  | .offset => some 0
  | _ => none

theorem get?_facts (f : Field) : t.facts.get? f = t.stated? f := by
  rw [facts, exactFacts]
  split_ifs with hzero
  · cases f <;> simp [stated?, hzero] <;> rfl
  · cases f <;> simp [stated?, hzero] <;> rfl

theorem date?_facts : t.facts.date? = some t.date := by
  have hdate : Date.of? t.date.year t.date.month t.date.day = some t.date :=
    Date.of?_eq_some_iff.mpr ⟨rfl, rfl, rfl⟩
  have hcandidate : t.facts.candidate? (some t.date.year) none = some t.date := by
    unfold Reading.candidate?
    simp [get?_facts, stated?, hdate]
  -- The weeks of the date need not be computed, since nothing is stated about them.
  have hadmits : t.facts.admits t.date = true := by
    unfold Reading.admits
    simp [Reading.allowsYear, Reading.allows, get?_facts, stated?]
  simp [Reading.date?, get?_facts, stated?, Reading.completeYear?, hcandidate, hadmits]

theorem of?_self : of? t.date t.hour t.minute t.second t.nanosecond = some t :=
  dif_pos ⟨t.hour_lt, t.minute_lt, t.second_le, t.nanosecond_lt⟩

/-- An instant that is not ahead of universal time stays as it is. -/
theorem toUniversal?_zero : t.toUniversal? 0 = some t := by
  obtain ⟨hhour, hminute⟩ := And.intro t.hour_lt t.minute_lt
  have hnotBefore : ¬(t.hour * 60 + t.minute - 0 : Int) < 0 := by omega
  have hnotAfter : (t.hour * 60 + t.minute - 0 : Int) < 24 * 60 := by omega
  have hhours : ((t.hour * 60 + t.minute - 0 : Int) % (24 * 60)).toNat / 60 = t.hour := by omega
  have hminutes : ((t.hour * 60 + t.minute - 0 : Int) % (24 * 60)).toNat % 60 = t.minute := by
    omega
  unfold toUniversal?
  simp only [if_neg hnotBefore, if_pos hnotAfter, hhours, hminutes]
  exact of?_self t

/-- **What is stated of an instant** determines it. -/
theorem ofReading?_facts : ofReading? t.facts = some t := by
  have hhour : ((t.hour : Int) / 12 * 12 + t.hour % 12).toNat = t.hour := by omega
  have hnanosecond : ((t.stated? .nanosecond).getD 0).toNat = t.nanosecond := by
    rw [stated?]
    split_ifs with hzero
    · exact hzero.symm
    · rfl
  have htime : of? t.date ((t.hour : Int) / 12 * 12 + t.hour % 12).toNat (t.minute : Int).toNat
      (t.second : Int).toNat ((t.stated? .nanosecond).getD 0).toNat = some t := by
    rw [hhour, hnanosecond]
    exact of?_self t
  have hhalf : t.stated? .halfOfDay = some (t.hour / 12 : Int) := rfl
  have hclock : t.stated? .hourOfHalf = some (t.hour % 12 : Int) := rfl
  have hminute : t.stated? .minute = some (t.minute : Int) := rfl
  have hsecond : t.stated? .second = some (t.second : Int) := rfl
  have hoffset : t.stated? .offset = some 0 := rfl
  have hnear : ((0 : Int).tdiv 60).natAbs < 24 * 60 := by decide
  simp only [ofReading?, date?_facts, get?_facts, hhalf, hclock, hminute, hsecond, hoffset,
    Option.bind_eq_bind, Option.bind_some, htime, if_pos hnear]
  exact toUniversal?_zero t

/-- **An instant is read back** from its text. -/
theorem ofText?_text : ofText? t.text = some t := by
  rw [ofText?, Item.readAll?_timestamp]
  exact ofReading?_facts t

end Instant

end Calendar

end Birthright
