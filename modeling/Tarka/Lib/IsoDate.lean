import Tarka.Lib.Strip

/-! # Dates of the standard library of Python

The two readers of `datetime`: `fromisoformat`, which takes most of the forms of ISO 8601, and
`strptime` with the format `%Y-%m-%dT%H:%M:%S`. The first follows the C code of CPython, which scans
the string with a pointer, also past the part it is reading; here the pointer is the rest of the
string. Times are counted in microseconds from the day before the first of January of the year 1.

A `Stamp` is a time as RFC 3339 writes it. `fromIsoFormat_text` says that such a text is read as the
time it denotes. -/

namespace Tarka.Lib.IsoDate

open List Option Nat

/-! ## The calendar -/

def isLeapYear (y : Nat) : Bool := y % 4 == 0 && (y % 100 != 0 || y % 400 == 0)

def daysInMonth (y m : Nat) : Nat :=
  if m = 2 then (if isLeapYear y then 29 else 28)
  else if m = 4 ∨ m = 6 ∨ m = 9 ∨ m = 11 then 30
  else 31

def daysBeforeYear (y : Nat) : Nat := (y - 1) * 365 + (y - 1) / 4 - (y - 1) / 100 + (y - 1) / 400

def daysBeforeMonth (y m : Nat) : Nat := ((List.range' 1 (m - 1)).map (daysInMonth y)).sum

/-- The number of a day; the first of January of the year 1 is the first. -/
def ordinal (y m d : Nat) : Nat := daysBeforeYear y + daysBeforeMonth y m + d

def maxYear : Nat := 9999

/-- A day of the years that `datetime` has. -/
def IsDate (y m d : Nat) : Prop :=
  1 ≤ y ∧ y ≤ maxYear ∧ 1 ≤ m ∧ m ≤ 12 ∧ 1 ≤ d ∧ d ≤ daysInMonth y m

instance (y m d : Nat) : Decidable (IsDate y m d) := inferInstanceAs (Decidable (_ ∧ _))

/-- `date(y, m, d)`; `none` is a `ValueError`. -/
def dateOrdinal (y m d : Nat) : Option Nat := if IsDate y m d then some (ordinal y m d) else none

/-- `iso_to_ymd`: a day by its week, which counts for the year that its Thursday is in. -/
def weekOrdinal (y w d : Nat) : Option Nat :=
  let first := ordinal y 1 1
  let weekday := (first + 6) % 7
  let long := weekday == 3 || (weekday == 2 && isLeapYear y)
  if 1 ≤ y ∧ y ≤ maxYear ∧ 1 ≤ w ∧ (w < 53 ∨ w = 53 ∧ long) ∧ 1 ≤ d ∧ d ≤ 7 then
    let monday : Int := first - weekday + (if 3 < weekday then 7 else 0)
    let day := monday + (w - 1) * 7 + (d - 1)
    if 1 ≤ day ∧ day ≤ ordinal maxYear 12 31 then some day.toNat else none
  else none

def microsPerDay : Nat := 86400000000

/-- A time of the day, or an offset. -/
structure Parts where
  hour : Nat
  minute : Nat
  second : Nat
  micro : Nat
  deriving DecidableEq

namespace Parts

def seconds (p : Parts) : Nat := (p.hour * 60 + p.minute) * 60 + p.second

def micros (p : Parts) : Nat := p.seconds * 1000000 + p.micro

/-- What `time` accepts. -/
def inDay (p : Parts) : Bool := p.hour < 24 && p.minute < 60 && p.second < 60

end Parts

/-! ## `fromisoformat` -/

/-- `parse_digits`: the number that so many ASCII digits write. -/
def parseDigits (n : Nat) (cs : List Char) : Option (Nat × List Char) :=
  if (cs.take n).length = n ∧ (cs.take n).all Char.isDigit then
    some (Nat.ofDigitChars 10 (cs.take n) 0, cs.drop n)
  else none

/-- `_find_isoformat_datetime_separator`: where the date ends. -/
def findSeparator (cs : List Char) : Option Nat :=
  if cs.length = 7 then some 7
  else if cs[4]? = some '-' then
    if cs[5]? = some 'W' then
      if cs[8]? = some '-' then
        if cs.length = 9 then none
        -- either a day or an hour follows the week; two digits are an hour
        else if cs[10]?.any Char.isDigit then some 8
        else some 10
      else some 8
    else some 10
  else if cs[4]? = some 'W' then
    let pos := 7 + ((cs.drop 7).takeWhile Char.isDigit).length
    if pos < 9 then some pos else if pos % 2 = 0 then some 7 else some 8
  else some 8

/-- The dash between two fields of a date that is written with dashes. -/
def expectDash (dashes : Bool) (cs : List Char) : Option (List Char) :=
  if dashes then expect ['-'] cs else some cs

/-- `parse_isoformat_date`, with the number of the day. -/
def parseDate (len : Nat) (cs : List Char) : Option Nat :=
  (parseDigits 4 cs).bind (fun y =>
    let dashes := y.2.head? == some '-'
    let p := if dashes then y.2.tail else y.2
    if p.head? = some 'W' then
      (parseDigits 2 p.tail).bind (fun w =>
        if cs.length - w.2.length < len then
          (expectDash dashes w.2).bind (fun q =>
            (parseDigits 1 q).bind (fun d => weekOrdinal y.1 w.1 d.1))
        else weekOrdinal y.1 w.1 1)
    else
      (parseDigits 2 p).bind (fun m =>
        (expectDash dashes m.2).bind (fun q =>
          (parseDigits 2 q).bind (fun d => dateOrdinal y.1 m.1 d.1))))

def atEnd (c : Option Char) : Bool := c == none || c == some (Char.ofNat 0)

/-- How the loop over the fields of a time is left: at the end of its part of the string, with
whether the string goes on, or in front of a fraction. -/
inductive FieldsEnd where
  | ended (more : Bool)
  | fraction (rest : List Char)

/-- The loop over hours, minutes and seconds of `parse_hh_mm_ss_ff`. The part that is read ends
`stop` characters before the end of the string. -/
def parseFields (stop : Nat) : Nat → Bool → List Nat → List Char →
    Option (List Nat × FieldsEnd)
  | 0, _, vals, cs => some (vals, .fraction cs)
  | left + 1, colons, vals, cs =>
    (parseDigits 2 cs).bind (fun p =>
      let c := p.2.head?
      -- the first field decides whether there are colons
      let colons := if left = 2 then c == some ':' else colons
      if p.2.length ≤ stop + 1 then some (vals ++ [p.1], .ended (!atEnd c))
      else if colons && c == some ':' then
        parseFields stop left colons (vals ++ [p.1]) p.2.tail
      else if c = some '.' ∨ c = some ',' then some (vals ++ [p.1], .fraction p.2.tail)
      else if !colons then parseFields stop left colons (vals ++ [p.1]) p.2
      else none)

/-- The fraction: six digits count, and those after them are skipped. -/
def parseFraction (stop : Nat) (cs : List Char) : Option (Nat × Bool) :=
  let n := min 6 (cs.length - stop)
  (parseDigits n cs).map (fun p => (p.1 * 10 ^ (6 - n), !atEnd (p.2.dropWhile Char.isDigit).head?))

def partsOf (vals : List Nat) (micro : Nat) : Parts :=
  ⟨vals.getD 0 0, vals.getD 1 0, vals.getD 2 0, micro⟩

/-- `parse_hh_mm_ss_ff`, with whether the string goes on. -/
def parseParts (stop : Nat) (cs : List Char) : Option (Parts × Bool) :=
  (parseFields stop 3 true [] cs).bind (fun p =>
    match p.2 with
    | .ended more => some (partsOf p.1 0, more)
    | .fraction rest => (parseFraction stop rest).map (fun f => (partsOf p.1 f.1, f.2)))

def isZoneChar (c : Char) : Bool := c == '+' || c == '-' || c == 'Z'

/-- The offset in microseconds; one of less than a second is dropped. -/
def zoneOffset (sign : Char) (p : Parts) : Int :=
  if p.seconds = 0 then 0 else if sign = '-' then -(p.micros : Int) else p.micros

/-- `parse_isoformat_time`: the time and its offset, if it has one. -/
def parseTime (cs : List Char) : Option (Parts × Option Int) :=
  let zone := cs.dropWhile (fun c => !isZoneChar c)
  (parseParts zone.length cs).bind (fun p =>
    match zone with
    | [] => if p.2 then none else some (p.1, none)
    | z :: r =>
      if z = 'Z' then (if atEnd r.head? then some (p.1, some 0) else none)
      else (parseParts 0 r).bind (fun q =>
        if q.2 then none else some (p.1, some (zoneOffset z q.1))))

/-- `datetime(…)` and `timezone(…)`, with their range checks. -/
def toDateTime (day : Nat) (t : Parts × Option Int) : Option (Int × Option Int) :=
  if t.1.inDay && t.2.all (fun o => decide (-(microsPerDay : Int) < o ∧ o < microsPerDay)) then
    some (day * microsPerDay + t.1.micros, t.2)
  else none

/-- `datetime.fromisoformat`: the local time and the offset; `none` is a `ValueError`. -/
def fromIsoFormat (cs : List Char) : Option (Int × Option Int) :=
  if cs.length < 7 then none
  else (findSeparator cs).bind (fun loc =>
    (parseDate loc cs).bind (fun day =>
      (if cs.length ≤ loc then some (⟨0, 0, 0, 0⟩, none)
        -- any character separates the date from the time
        else parseTime (cs.drop (loc + 1))).bind (toDateTime day)))

/-! ## `strptime` -/

section

-- the value of a decimal digit of Unicode
variable (decimal : Char → Option Nat)

/-- A field of `%m` and `%d` of one digit. -/
def oneToNine (c : Char) : Option Nat :=
  if '1' ≤ c ∧ c ≤ '9' then some (c.toNat - 48) else none

def tens (max : Char) (a b : Char) : Option Nat :=
  if '0' ≤ a ∧ a ≤ max then (decimal b).map ((a.toNat - 48) * 10 + ·) else none

def strptimeMonth : List Char → Option Nat
  | [c] => oneToNine c
  | [a, b] =>
    if a = '0' then oneToNine b
    else if a = '1' ∧ '0' ≤ b ∧ b ≤ '2' then some (10 + (b.toNat - 48))
    else none
  | _ => none

def strptimeDay : List Char → Option Nat
  | [c] => oneToNine c
  | [a, b] =>
    if a = '0' ∨ a = ' ' then oneToNine b
    else if a = '3' ∧ '0' ≤ b ∧ b ≤ '1' then some (30 + (b.toNat - 48))
    else tens decimal '2' a b
  | _ => none

def strptimeHour : List Char → Option Nat
  | [c] => decimal c
  | [a, b] =>
    if a = '2' then (if '0' ≤ b ∧ b ≤ '3' then some (20 + (b.toNat - 48)) else none)
    else tens decimal '1' a b
  | _ => none

/-- Minutes and seconds; the seconds 60 and 61 of `%S` are no time. -/
def strptimeSixty : List Char → Option Nat
  | [c] => decimal c
  | [a, b] => tens decimal '5' a b
  | _ => none

def upTo (literal : Char → Bool) (cs : List Char) : List Char × List Char :=
  (cs.takeWhile (fun c => !literal c), (cs.dropWhile (fun c => !literal c)).tail)

/-- `datetime.strptime` with `%Y-%m-%dT%H:%M:%S`; the format is matched without regard to case. -/
def strptime (cs : List Char) : Option Int :=
  let year := upTo (· == '-') cs
  let month := upTo (· == '-') year.2
  let day := upTo (fun c => c == 'T' || c == 't') month.2
  let hour := upTo (· == ':') day.2
  let minute := upTo (· == ':') hour.2
  if year.1.length = 4 then do
    let ds ← year.1.mapM decimal
    let m ← strptimeMonth month.1
    let d ← strptimeDay decimal day.1
    let h ← strptimeHour decimal hour.1
    let mi ← strptimeSixty decimal minute.1
    let s ← strptimeSixty decimal minute.2
    let n ← dateOrdinal (ds.foldl (fun n d => n * 10 + d) 0) m d
    return n * microsPerDay + (Parts.micros ⟨h, mi, s, 0⟩ : Nat)
  else none

end

/-! ## Texts of RFC 3339 -/

def digits2 (n : Nat) : List Char := [Nat.digitChar (n / 10 % 10), Nat.digitChar (n % 10)]

def digits4 (n : Nat) : List Char := digits2 (n / 100) ++ digits2 (n % 100)

/-- The digits after the point, down to microseconds; there may be none. -/
structure Fraction where
  digits : List Char
  isDigit : ∀ c ∈ digits, c.isDigit = true
  length_le : digits.length ≤ 6

namespace Fraction

def text (f : Fraction) : List Char := if f.digits = [] then [] else '.' :: f.digits

def micro (f : Fraction) : Nat := Nat.ofDigitChars 10 f.digits 0 * 10 ^ (6 - f.digits.length)

end Fraction

/-- A difference to UTC. -/
structure Offset where
  negative : Bool
  hours : Fin 24
  minutes : Fin 60

namespace Offset

def sign (o : Offset) : Char := if o.negative then '-' else '+'

def text (o : Offset) : List Char := o.sign :: (digits2 o.hours ++ ':' :: digits2 o.minutes)

def parts (o : Offset) : Parts := ⟨o.hours, o.minutes, 0, 0⟩

def micros (o : Offset) : Int := if o.negative then -(o.parts.micros : Int) else o.parts.micros

end Offset

/-- A time of a day, without or with its difference to UTC. -/
structure Stamp where
  year : Nat
  month : Nat
  day : Nat
  isDate : IsDate year month day
  hour : Fin 24
  minute : Fin 60
  second : Fin 60
  fraction : Fraction
  offset : Option Offset

namespace Stamp

variable (d : Stamp)

def dateText : List Char := digits4 d.year ++ '-' :: (digits2 d.month ++ '-' :: digits2 d.day)

def clockText : List Char :=
  digits2 d.hour ++ ':' :: (digits2 d.minute ++ ':' :: digits2 d.second)

def zoneText : List Char := d.offset.elim [] Offset.text

def text : List Char := d.dateText ++ 'T' :: (d.clockText ++ (d.fraction.text ++ d.zoneText))

def parts : Parts := ⟨d.hour, d.minute, d.second, d.fraction.micro⟩

def localMicros : Int := ordinal d.year d.month d.day * microsPerDay + d.parts.micros

/-- The time in UTC, which is also the zone of a time without one. -/
def utcMicros : Int := d.localMicros - (d.offset.elim 0 Offset.micros)

end Stamp

/-! ## Reading such a text -/

open Stamp

variable {n : Nat}

theorem digitChar_spec (h : n < 10) : (digitChar n).isDigit ∧ (digitChar n).toNat = n + 48 := by
  interval_cases n <;> decide

theorem isDigit_digitChar (n : Nat) : (digitChar (n % 10)).isDigit = true :=
  (digitChar_spec (mod_lt n (by decide))).1

theorem digitChar_ne {c : Char} (hc : c.isDigit = false) (n : Nat) : digitChar (n % 10) ≠ c := by
  intro h
  have hdigit := isDigit_digitChar n
  rw [h, hc] at hdigit
  cases hdigit

theorem isDigit_digits2 (n : Nat) : ∀ c ∈ digits2 n, c.isDigit = true := by
  intro c hc
  simp only [digits2, mem_cons, not_mem_nil, or_false] at hc
  obtain rfl | rfl := hc
  · exact isDigit_digitChar _
  · exact isDigit_digitChar _

theorem ofDigitChars_digits2 (h : n < 100) (k : Nat) :
    ofDigitChars 10 (digits2 n) k = k * 100 + n := by
  have htens := (digitChar_spec (mod_lt (n / 10) (by decide : 0 < 10))).2
  have hones := (digitChar_spec (mod_lt n (by decide : 0 < 10))).2
  simp only [digits2, ofDigitChars_cons, ofDigitChars_nil, htens, hones]
  have hzero : '0'.toNat = 48 := rfl
  omega

/-- **Digits are read as their number.** -/
theorem parseDigits_append {ds : List Char} (hlen : ds.length = n) (hds : ∀ c ∈ ds, c.isDigit)
    (r : List Char) : parseDigits n (ds ++ r) = some (ofDigitChars 10 ds 0, r) := by
  rw [parseDigits, take_left' hlen, drop_left' hlen, if_pos]
  exact ⟨hlen, all_eq_true.mpr hds⟩

theorem parseDigits_digits2 (h : n < 100) (r : List Char) :
    parseDigits 2 (digits2 n ++ r) = some (n, r) := by
  have hlen : (digits2 n).length = 2 := rfl
  rw [parseDigits_append hlen (isDigit_digits2 n), ofDigitChars_digits2 h]
  simp

theorem parseDigits_digits4 (h : n < 10000) (r : List Char) :
    parseDigits 4 (digits4 n ++ r) = some (n, r) := by
  have hds : ∀ c ∈ digits4 n, c.isDigit := by
    intro c hc
    obtain hc | hc := mem_append.mp hc
    · exact isDigit_digits2 _ c hc
    · exact isDigit_digits2 _ c hc
  have hlen : (digits4 n).length = 4 := rfl
  rw [parseDigits_append hlen hds, digits4, ofDigitChars_append, ofDigitChars_digits2 (by omega),
    ofDigitChars_digits2 (by omega)]
  simp only [some.injEq, Prod.mk.injEq, and_true]
  omega

section

variable (d : Stamp)

theorem Stamp.year_lt : d.year < 10000 := by
  have h := d.isDate.2.1
  unfold maxYear at h
  omega

theorem Stamp.month_lt : d.month < 100 := by
  have h := d.isDate.2.2.2.1
  omega

theorem daysInMonth_le (y m : Nat) : daysInMonth y m ≤ 31 := by
  unfold daysInMonth
  split_ifs <;> omega

theorem Stamp.day_lt : d.day < 100 := by
  have h := d.isDate.2.2.2.2.2
  have hle := daysInMonth_le d.year d.month
  omega

theorem findSeparator_text : findSeparator d.text = some 10 := by
  have hw : digitChar (d.month / 10 % 10) ≠ 'W' := digitChar_ne (by decide) _
  simp [findSeparator, text, dateText, digits4, digits2, hw]

def Stamp.timeText : List Char := d.clockText ++ (d.fraction.text ++ d.zoneText)

theorem Stamp.text_eq : d.text = digits4 d.year ++ '-' :: (digits2 d.month ++ '-' ::
    (digits2 d.day ++ 'T' :: d.timeText)) := by
  simp [text, dateText, timeText]

theorem parseDate_text : parseDate 10 d.text = some (ordinal d.year d.month d.day) := by
  have hw : ∀ r, (digits2 d.month ++ r).head? ≠ some 'W' := by
    intro r h
    exact digitChar_ne (by decide) (d.month / 10) (some.inj h)
  have hdash : ∀ r, expectDash true ('-' :: r) = some r := fun r => rfl
  rw [d.text_eq, parseDate, parseDigits_digits4 d.year_lt]
  simp only [bind_some, List.head?_cons, beq_self_eq_true, if_true, tail_cons,
    if_neg (hw _), parseDigits_digits2 d.month_lt, hdash, parseDigits_digits2 d.day_lt]
  rw [dateOrdinal, if_pos d.isDate]

end

section

variable {stop left n : Nat} {colons : Bool} {vals : List Nat} {r : List Char}

theorem parseFields_colon (hn : n < 100) (hcolons : left = 2 ∨ colons) (hr : stop < r.length) :
    parseFields stop (left + 1) colons vals (digits2 n ++ ':' :: r)
      = parseFields stop left true (vals ++ [n]) r := by
  have hlen : ¬ (':' :: r).length ≤ stop + 1 := by
    rw [length_cons]
    omega
  have hnow : (if left = 2 then true else colons) = true := by
    obtain h | h := hcolons <;> simp [h]
  rw [parseFields, parseDigits_digits2 hn]
  simp only [bind_some, List.head?_cons, beq_self_eq_true, if_neg hlen, hnow, Bool.and_self,
    if_true, tail_cons]

theorem parseFields_last (hn : n < 100) (hr : r.length ≤ stop + 1) :
    parseFields stop (left + 1) colons vals (digits2 n ++ r)
      = some (vals ++ [n], .ended (!atEnd r.head?)) := by
  rw [parseFields, parseDigits_digits2 hn]
  simp only [bind_some, if_pos hr]

theorem parseFields_point (hn : n < 100) (hleft : left ≠ 2) (hr : stop < r.length) :
    parseFields stop (left + 1) colons vals (digits2 n ++ '.' :: r)
      = some (vals ++ [n], .fraction r) := by
  rw [parseFields, parseDigits_digits2 hn]
  simp [hleft, hr]

end

theorem Stamp.dropWhile_zoneText (d : Stamp) {p : Char → Bool} (hplus : p '+' = false)
    (hminus : p '-' = false) : d.zoneText.dropWhile p = d.zoneText := by
  unfold zoneText
  cases d.offset with
  | none => rfl
  | some o =>
    cases hneg : o.negative with
    | true => simp [Offset.text, Offset.sign, hneg, hminus]
    | false => simp [Offset.text, Offset.sign, hneg, hplus]

theorem parseFraction_append (f : Fraction) {zone : List Char}
    (hzone : zone.dropWhile Char.isDigit = zone) :
    parseFraction zone.length (f.digits ++ zone) = some (f.micro, !atEnd zone.head?) := by
  have hn : min 6 ((f.digits ++ zone).length - zone.length) = f.digits.length := by
    have hle := f.length_le
    rw [length_append]
    omega
  simp only [parseFraction, hn]
  rw [parseDigits_append rfl f.isDigit, map_some, hzone]
  rfl

/-- **The time of the day is read back**, and the reader stops at the zone. -/
theorem parseParts_text (d : Stamp) :
    parseParts d.zoneText.length d.timeText = some (d.parts, !atEnd d.zoneText.head?) := by
  have hhour : (d.hour : Nat) < 100 := by omega
  have hminute : (d.minute : Nat) < 100 := by omega
  have hsecond : (d.second : Nat) < 100 := by omega
  have htext : d.timeText = digits2 d.hour ++ ':' :: (digits2 d.minute ++ ':' ::
      (digits2 d.second ++ (d.fraction.text ++ d.zoneText))) := by
    simp [timeText, clockText]
  have hafter : ∀ n (r : List Char), r.length < (digits2 n ++ (d.fraction.text ++ r)).length := by
    intro n r
    simp only [digits2, length_append, length_cons]
    omega
  have hafter' : d.zoneText.length < (digits2 d.minute ++ ':' ::
      (digits2 d.second ++ (d.fraction.text ++ d.zoneText))).length := by
    rw [length_append, length_cons]
    exact lt_of_lt_of_le (hafter d.second _) (by omega)
  unfold parseParts
  rw [htext, parseFields_colon hhour (.inl rfl) hafter',
    parseFields_colon hminute (.inr rfl) (hafter d.second _)]
  by_cases hf : d.fraction.digits = []
  · have hmicro : d.fraction.micro = 0 := by simp [Fraction.micro, hf]
    have hnone : d.fraction.text ++ d.zoneText = d.zoneText := by
      rw [Fraction.text, if_pos hf, nil_append]
    rw [hnone, parseFields_last hsecond (le_succ _)]
    simp [partsOf, parts, hmicro]
  · have hpos : 0 < d.fraction.digits.length := length_pos_iff.mpr hf
    rw [Fraction.text, if_neg hf, cons_append, parseFields_point hsecond (by decide)
      (by rw [length_append]; omega)]
    simp only [bind_some]
    rw [parseFraction_append d.fraction (d.dropWhile_zoneText (by decide) (by decide))]
    rfl

theorem parseParts_offset (o : Offset) :
    parseParts 0 (digits2 o.hours ++ ':' :: digits2 o.minutes)
      = some (o.parts, false) := by
  have hhours : (o.hours : Nat) < 100 := by omega
  have hminutes : (o.minutes : Nat) < 100 := by omega
  have hlast : parseFields 0 2 true ([] ++ [(o.hours : Nat)]) (digits2 o.minutes)
      = some ([] ++ [(o.hours : Nat)] ++ [(o.minutes : Nat)], .ended false) := by
    exact parseFields_last hminutes (by simp)
  unfold parseParts
  rw [parseFields_colon hhours (.inl rfl) (by simp [digits2]), hlast]
  rfl

theorem zoneOffset_parts (o : Offset) : zoneOffset o.sign o.parts = o.micros := by
  have hmicros : o.parts.micros = o.parts.seconds * 1000000 := by
    rw [Parts.micros, Offset.parts, add_zero]
  unfold zoneOffset Offset.micros Offset.sign
  by_cases hzero : o.parts.seconds = 0
  · simp [hmicros, hzero]
  · cases o.negative <;> simp [hzero]

theorem Stamp.clock_chars (d : Stamp) :
    ∀ c ∈ d.clockText ++ d.fraction.text, c.isDigit ∨ c = ':' ∨ c = '.' := by
  intro c hc
  have hdigits : ∀ n, c ∈ digits2 n → c.isDigit := fun n => isDigit_digits2 n c
  simp only [clockText, mem_append, mem_cons] at hc
  obtain (h | rfl | h | rfl | h) | h := hc
  · exact .inl (hdigits _ h)
  · exact .inr (.inl rfl)
  · exact .inl (hdigits _ h)
  · exact .inr (.inl rfl)
  · exact .inl (hdigits _ h)
  · rw [Fraction.text] at h
    split_ifs at h
    · cases h
    · obtain rfl | h := mem_cons.mp h
      · exact .inr (.inr rfl)
      · exact .inl (d.fraction.isDigit c h)

theorem isZoneChar_of_isDigit {c : Char} (h : c.isDigit) : (!isZoneChar c) = true := by
  have hne : ∀ e : Char, e.isDigit = false → c ≠ e := by
    rintro e he rfl
    rw [h] at he
    cases he
  simp [isZoneChar, hne '+' (by decide), hne '-' (by decide), hne 'Z' (by decide)]

variable (d : Stamp)

/-- **The time is read back with its zone.** -/
theorem parseTime_text :
    parseTime d.timeText = some (d.parts, d.offset.map Offset.micros) := by
  have hclock : ∀ c ∈ d.clockText ++ d.fraction.text, (!isZoneChar c) := by
    intro c hc
    obtain hdigit | rfl | rfl := d.clock_chars c hc
    · exact isZoneChar_of_isDigit hdigit
    · decide
    · decide
  have hzone : d.timeText.dropWhile (fun c => !isZoneChar c) = d.zoneText := by
    rw [timeText, ← append_assoc, dropWhile_append_of_pos hclock,
      d.dropWhile_zoneText (by decide) (by decide)]
  simp only [parseTime, hzone, parseParts_text, bind_some]
  unfold zoneText
  cases d.offset with
  | none => rfl
  | some o =>
    have hz : o.sign ≠ 'Z' := by
      unfold Offset.sign
      split_ifs <;> decide
    simp only [elim_some, Offset.text, if_neg hz, parseParts_offset, bind_some,
      zoneOffset_parts, map_some]
    rfl

theorem toDateTime_text (day : Nat) :
    toDateTime day (d.parts, d.offset.map Offset.micros)
      = some ((day * microsPerDay + d.parts.micros : Int), d.offset.map Offset.micros) := by
  have hday : d.parts.inDay := by simp [parts, Parts.inDay]
  have hoffset : (d.offset.map Offset.micros).all
      (fun o => decide (-(microsPerDay : Int) < o ∧ o < microsPerDay)) := by
    cases d.offset with
    | none => rfl
    | some o =>
      have hlt : o.parts.micros < microsPerDay := by
        simp only [Offset.parts, Parts.micros, Parts.seconds, microsPerDay]
        omega
      simp only [map_some, all_some, decide_eq_true_eq, Offset.micros]
      split_ifs <;> omega
  simp only [toDateTime, hday, hoffset, Bool.and_self, if_true]

theorem Stamp.text_ends : (∃ c t, d.text = c :: t ∧ c.isDigit)
    ∧ ∃ t c, d.text = t ++ [c] ∧ c.isDigit = true := by
  refine ⟨⟨_, _, rfl, isDigit_digitChar _⟩, ?_⟩
  have hsplit : ∀ n, digits2 n = [digitChar (n / 10 % 10)] ++ [digitChar (n % 10)] :=
    fun _ => rfl
  unfold text zoneText
  cases d.offset with
  | some o =>
    refine ⟨d.dateText ++ 'T' :: (d.clockText ++ (d.fraction.text ++ o.sign ::
      (digits2 o.hours ++ [':', digitChar (o.minutes / 10 % 10)]))), _, ?_,
      isDigit_digitChar o.minutes⟩
    simp [Offset.text, hsplit]
  | none =>
    obtain hf | ⟨ds, c, hf⟩ := eq_nil_or_concat d.fraction.digits
    · refine ⟨d.dateText ++ 'T' :: (digits2 d.hour ++ ':' :: (digits2 d.minute ++
        [':', digitChar (d.second / 10 % 10)])), _, ?_, isDigit_digitChar d.second⟩
      simp [Fraction.text, hf, clockText, hsplit]
    · refine ⟨d.dateText ++ 'T' :: (d.clockText ++ '.' :: ds), c, ?_,
        d.fraction.isDigit c (by simp [hf])⟩
      simp [Fraction.text, hf]

/-- **A text of RFC 3339 is read as the time it denotes.** -/
theorem fromIsoFormat_text :
    fromIsoFormat d.text = some (d.localMicros, d.offset.map Offset.micros) := by
  have hlen : 11 ≤ d.text.length := by
    simp only [text, dateText, digits4, digits2, length_append, length_cons, length_nil]
    omega
  have hdrop : d.text.drop (10 + 1) = d.timeText := by
    rfl
  rw [fromIsoFormat, if_neg (by omega), findSeparator_text, bind_some, parseDate_text,
    bind_some, if_neg (by omega), hdrop, parseTime_text, bind_some, toDateTime_text]
  rfl

end Tarka.Lib.IsoDate
