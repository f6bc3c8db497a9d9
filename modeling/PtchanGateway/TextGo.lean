import PtchanGateway.JsonText
import PtchanGateway.TextRfc3339

/-! Texts as Go's standard library writes and reads them: path segments, RFC 3339 times and JSON strings. A
time is read more freely than RFC 3339 has it (an hour of one digit, a comma before the fraction, offsets up
to 24:60), but a leap second, a small `z` and a blank before the time are refused. -/

namespace TextGo

open TextDigits TextCalendar TextRfc3339 TextRust

/-- The bytes a segment keeps. -/
def isSegmentByte (byte : UInt8) : Bool :=
  isAsciiAlphanumeric (Char.ofUInt8 byte) || "-_.~$&+:=@".toList.contains (Char.ofUInt8 byte)

def upperHex (digit : Nat) : Char := toAsciiUppercase (Nat.digitChar digit)

/-- `url.PathEscape`. -/
def pathEscape (s : String) : String :=
  String.ofList ((asBytes s).flatMap fun byte =>
    if isSegmentByte byte then [Char.ofUInt8 byte] else ['%', upperHex (byte.toNat / 16), upperHex (byte.toNat % 16)])

/-- The zero time: the first moment of year 1. -/
def zeroTime : Moment := ⟨366 * 86400, 0⟩

/-- A year of at least four digits, without a plus. -/
def yearText (year : Int) : List Char :=
  (if year < 0 then ['-'] else []) ++
    if year.natAbs ≤ 9999 then pad 4 year.natAbs else (toString year.natAbs).toList

/-- `Format(time.RFC3339)` of a time in UTC. -/
def formatRfc3339 (m : Moment) : String :=
  let days := m.secs / 86400
  let date := civil (days % 146097).toNat
  String.ofList (clockText (yearText (400 * (days / 146097) + date.1)) date.2.1 date.2.2 (m.secs % 86400).toNat 0 ['Z'])

/-- One or two digits. -/
def readHour : List Char → Option (Nat × List Char)
  | [] => none
  | c :: rest => do
      let high ← digit? c
      match rest with
      | d :: tail =>
          match digit? d with
          | some low => some (10 * high + low, tail)
          | none => some (high, rest)
      | [] => some (high, rest)

def readClock (text : List Char) : Option (Nat × List Char) := do
  let (hour, text) ← readHour text
  let text ← expect ':' text
  let (minute, text) ← readNum 2 text
  let text ← expect ':' text
  let (second, text) ← readNum 2 text
  if hour < 24 ∧ minute < 60 ∧ second < 60 then some (hour * 3600 + minute * 60 + second, text) else none

/-- A fraction that the layout does not ask for; without a digit there is none. -/
def readNanos : List Char → Nat × List Char
  | mark :: c :: rest =>
      if (mark = '.' ∨ mark = ',') ∧ (digit? c).isSome then readFraction 9 (c :: rest) else (0, mark :: c :: rest)
  | text => (0, text)

/-- The offset of the zone in seconds, at the end of the text. -/
def readOffset : List Char → Option Int
  | ['Z'] => some 0
  | sign :: rest => do
      let (hours, rest) ← readNum 2 rest
      let rest ← expect ':' rest
      let (minutes, rest) ← readNum 2 rest
      if (sign = '+' ∨ sign = '-') ∧ rest = [] ∧ hours ≤ 24 ∧ minutes ≤ 60 then
        some (if sign = '+' then (hours * 3600 + minutes * 60 : Int) else -(hours * 3600 + minutes * 60))
      else none
  | [] => none

/-- `time.Parse(time.RFC3339, _)`. -/
def parseTime (text : List Char) : Option Moment := do
  let (days, text) ← readDate text
  let text ← expect 'T' text
  let (second, text) ← readClock text
  let (nanos, text) := readNanos text
  let offset ← readOffset text
  some ⟨(days * 86400 + second : Nat) - offset, nanos⟩

/-- A character inside a string, safe within HTML. -/
def escapeHtml (c : Char) : List Char :=
  if c = '<' ∨ c = '>' ∨ c = '&' then
    ['\\', 'u', '0', '0', Nat.digitChar (c.toNat / 16), Nat.digitChar (c.toNat % 16)]
  else if c = '\u2028' then "\\u2028".toList
  else if c = '\u2029' then "\\u2029".toList
  else JsonText.escape c

/-- `json.Marshal` of a string. -/
def marshalString (s : String) : List Char := '"' :: (s.toList.flatMap escapeHtml ++ ['"'])

def marshalBool (b : Bool) : List Char := if b then "true".toList else "false".toList

theorem formatRfc3339_inEra {m : Moment} (hera : m.InEra) :
    formatRfc3339 m =
      String.ofList (clockText (pad 4 (civil m.day).1) (civil m.day).2.1 (civil m.day).2.2 m.second 0 ['Z']) := by
  have hyear := Moment.year_lt hera
  obtain ⟨hdate, hrest⟩ := Moment.date_inEra hera
  simp only [formatRfc3339, hdate, hrest]
  rw [yearText, if_neg (by omega), List.nil_append, if_pos (by omega), Int.natAbs_natCast, Moment.second]

/-- The gateway's reader takes what is formatted here. -/
theorem parse_formatRfc3339 {m : Moment} (hera : m.InEra) :
    parseRfc3339 (formatRfc3339 m) = some ⟨m.secs, 0⟩ := by
  have hsecond := m.second_lt
  rw [parseRfc3339, formatRfc3339_inEra hera, String.toList_ofList,
    parse_clockText (Moment.year_lt hera) hsecond (by decide) ⟨by decide, by decide⟩
      (show readZone ['Z'] = some 0 by decide)]
  simp only [Nat.zero_div, Nat.zero_mod, Nat.add_zero, Nat.zero_add, Option.some.injEq, Moment.mk.injEq]
  rw [if_neg (by omega), Nat.min_eq_left (by omega)]
  refine ⟨?_, rfl⟩
  simp only [Moment.InEra, Moment.day, Moment.second] at *
  omega

theorem readHour_pad {hour : Nat} (rest : List Char) (h : hour < 100) :
    readHour (pad 2 hour ++ rest) = some (hour, rest) := by
  have hhigh : hour / 10 % 10 < 10 := Nat.mod_lt _ (by decide)
  have hlow : hour % 10 < 10 := Nat.mod_lt _ (by decide)
  simp only [pad, List.nil_append, List.cons_append, readHour, digit?_digitChar _ hhigh, digit?_digitChar _ hlow,
    Option.bind_eq_bind, Option.bind_some, Option.some.injEq, Prod.mk.injEq, and_true]
  omega

theorem readClock_clock {second leap : Nat} (rest : List Char) (hsecond : second < 86400) (hleap : leap ≤ 1) :
    readClock (render [(2, ':'), (2, ':')] [second / 3600, second / 60 % 60] ++ (pad 2 (second % 60 + leap) ++ rest)) =
      if second % 60 + leap < 60 then some (second + leap, rest) else none := by
  simp only [readClock, render, List.append_assoc, List.cons_append, List.nil_append,
    readHour_pad _ (show second / 3600 < 100 by omega), readNum_pad _ (show second / 60 % 60 < 10 ^ 2 by omega),
    readNum_pad _ (show second % 60 + leap < 10 ^ 2 by omega), expect_self, Option.bind_eq_bind, Option.bind_some]
  by_cases hwithin : second % 60 + leap < 60
  · rw [if_pos hwithin, if_pos (by omega)]
    simp only [Option.some.injEq, Prod.mk.injEq, and_true]
    omega
  · rw [if_neg hwithin, if_neg (by omega)]

theorem readNanos_fraction {nano : Nat} {c : Char} (hc : EndsFraction c) (hcomma : c ≠ ',') (zone : List Char)
    (hnano : nano < 10 ^ 9) : readNanos (fraction nano ++ c :: zone) = (nano, c :: zone) := by
  rcases fraction_cases hnano with ⟨rfl, hempty⟩ | ⟨width, n, extra, hdigits, hn, hextra, hvalue⟩
  · rw [hempty, List.nil_append]
    cases zone with
    | nil => rfl
    | cons d zone => rw [readNanos, if_neg (by simp [hc.2, hcomma])]
  · obtain ⟨first, tail, hhead, hdigit⟩ := digit?_head_pad width n (c :: zone)
    rw [hdigits, List.cons_append, hhead, readNanos, if_pos ⟨.inl rfl, hdigit⟩, ← hhead, ← hextra,
      readFraction_pad extra hc zone hn, hvalue]

/-- Reading a text of the era, which fails on a leap second. -/
theorem parseTime_text {m : Moment} (hera : m.InEra) (hfrac : m.frac < 2 * 10 ^ 9) {c : Char} {zone : List Char}
    (hc : EndsFraction c) (hcomma : c ≠ ',') (hzone : readOffset (c :: zone) = some 0) :
    parseTime (m.text (c :: zone)) =
      if m.second % 60 + m.frac / 10 ^ 9 < 60 then some ⟨m.secs + (m.frac / 10 ^ 9 : Nat), m.frac % 10 ^ 9⟩
      else none := by
  rw [Moment.text_inEra hera, clockText_eq, parseTime, readDate_civil _ (Moment.year_lt hera)]
  simp only [Option.bind_eq_bind, Option.bind_some, expect_self]
  rw [readClock_clock _ m.second_lt (by omega)]
  by_cases hleap : m.second % 60 + m.frac / 10 ^ 9 < 60
  · rw [if_pos hleap, if_pos hleap]
    simp only [Option.bind_some, readNanos_fraction hc hcomma zone (Nat.mod_lt m.frac (by decide)), hzone,
      Option.some.injEq, Moment.mk.injEq, and_true]
    simp only [Moment.InEra, Moment.day, Moment.second] at *
    omega
  · rw [if_neg hleap, if_neg hleap, Option.bind_none]

/-- A year with a sign is not read. -/
theorem parseTime_signed {m : Moment} (hera : ¬m.InEra) (zone : List Char) : parseTime (m.text zone) = none := by
  have hsigned : ∀ sign rest, digit? sign = none → parseTime (sign :: rest) = none := by
    intro sign rest hsign
    have hyear : readNum 4 (sign :: rest) = none := by
      cases hnum : readNum 4 (sign :: rest) with
      | none => rfl
      | some read =>
          have hread : readNum 4 (sign :: rest) = some (read.1, read.2) := hnum
          obtain ⟨digits, heq, hlength, hdigits⟩ := digits_of_readNum hread
          cases digits with
          | nil => cases hlength
          | cons c digits =>
              have hc := hdigits c List.mem_cons_self
              rw [← (List.cons.inj heq).1, hsign] at hc
              cases hc
    rw [parseTime, readDate, hyear]
    rfl
  obtain ⟨rest, htext | htext⟩ := Moment.text_signed hera zone
  · rw [htext]
    exact hsigned _ _ (by decide)
  · rw [htext]
    exact hsigned _ _ (by decide)

/-- Of the texts in UTC, those of the era without a leap second are read. -/
theorem parseTime_eq_some {m t : Moment} (hregular : m.Regular) :
    parseTime (m.text ['Z']) = some t ↔ m.InEra ∧ m.frac < 10 ^ 9 ∧ t = m := by
  by_cases hera : m.InEra
  · have hfrac : m.frac < 2 * 10 ^ 9 := by
      simp only [Moment.Regular] at hregular
      omega
    rw [parseTime_text hera hfrac ⟨by decide, by decide⟩ (by decide) (show readOffset ['Z'] = some 0 by decide)]
    by_cases hplain : m.frac < 10 ^ 9
    · have hsecond : m.second % 60 < 60 := Nat.mod_lt _ (by decide)
      have hsame : (⟨m.secs + (0 : Nat), m.frac⟩ : Moment) = m := by
        rw [Nat.cast_zero, Int.add_zero]
      rw [if_pos (by omega), Option.some.injEq, Nat.div_eq_of_lt hplain, Nat.mod_eq_of_lt hplain, hsame]
      exact ⟨fun h => ⟨hera, hplain, h.symm⟩, fun h => h.2.2.symm⟩
    · have hlast : m.second % 60 = 59 := by
        simp only [Moment.Regular] at hregular
        simp only [Moment.second]
        omega
      rw [if_neg (by omega)]
      exact iff_of_false (Option.some_ne_none t).symm fun h => hplain h.2.1
  · rw [parseTime_signed hera]
    exact iff_of_false (Option.some_ne_none t).symm fun h => hera h.1

end TextGo
