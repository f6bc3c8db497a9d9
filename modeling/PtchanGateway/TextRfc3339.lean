import PtchanGateway.TextCalendar

/-!
RFC 3339 texts of UTC moments: date, time, no fraction or one of 3, 6 or 9 digits, and the zone. A
fraction takes the fewest of these digits that lose nothing. Over the years 0 to 9999 and with the zone
written `+00:00`, the texts are ordered as the instants they name, although they are not of one length:
the zone starts with a character below `.` and below every digit. Reading a text gives its instant back.
-/

namespace TextRfc3339

open TextDigits TextCalendar

/-- A moment of UTC: seconds from the first day of year 0, and nanoseconds. A leap second keeps the
seconds of the one before it and has `10 ^ 9` nanoseconds or more. -/
structure Moment where
  secs : Int
  frac : Nat
  deriving DecidableEq, Repr

/-- An instant of the years 0 to 9999, in nanoseconds from the first day of year 0. -/
structure Instant where
  ns : Nat
  inEra : ns < 3652425 * 86400 * 10 ^ 9
  deriving DecidableEq

/-- The instant at so many nanoseconds, counted around the era. -/
def Instant.ofNanos (ns : Nat) : Instant := ⟨ns % (3652425 * 86400 * 10 ^ 9), Nat.mod_lt _ (by decide)⟩

theorem Instant.ext_ns {left right : Instant} (h : left.ns = right.ns) : left = right := by
  cases left
  cases right
  simp only at h
  subst h
  rfl

def Instant.moment (t : Instant) : Moment := ⟨(t.ns / 10 ^ 9 : Nat), t.ns % 10 ^ 9⟩

/-- The signed difference in nanoseconds. A leap second between the two times of day is counted. -/
def Moment.signedDurationSince (left right : Moment) : Int :=
  let leap : Int :=
    if right.secs % 86400 < left.secs % 86400 ∧ 10 ^ 9 ≤ right.frac then 1
    else if left.secs % 86400 < right.secs % 86400 ∧ 10 ^ 9 ≤ left.frac then -1
    else 0
  (left.secs - right.secs + leap) * 10 ^ 9 + (left.frac - right.frac)

theorem Instant.signedDurationSince_moment (left right : Instant) :
    left.moment.signedDurationSince right.moment = (left.ns : Int) - right.ns := by
  have hleft : ¬10 ^ 9 ≤ left.ns % 10 ^ 9 := by omega
  have hright : ¬10 ^ 9 ≤ right.ns % 10 ^ 9 := by omega
  simp only [Moment.signedDurationSince, moment, hleft, hright, and_false, if_false]
  omega

/-- The fraction of a second, in the fewest groups of three digits that lose nothing. -/
def fraction (nano : Nat) : List Char :=
  if nano = 0 then []
  else if nano % 10 ^ 6 = 0 then '.' :: pad 3 (nano / 10 ^ 6)
  else if nano % 10 ^ 3 = 0 then '.' :: pad 6 (nano / 10 ^ 3)
  else '.' :: pad 9 nano

/-- Three-digit groups, the trailing zero groups left out. -/
def groupText : List Nat → List Char
  | [] => []
  | group :: groups =>
      if ∀ g ∈ group :: groups, g = 0 then [] else pad 3 group ++ groupText groups

theorem fraction_eq_groups (nano : Nat) :
    fraction nano = if nano = 0 then [] else
      '.' :: groupText [nano / 10 ^ 6, nano / 10 ^ 3 % 10 ^ 3, nano % 10 ^ 3] := by
  have hsix : pad 6 (nano / 10 ^ 3) = pad 3 (nano / 10 ^ 6) ++ pad 3 (nano / 10 ^ 3 % 10 ^ 3) := by
    rw [pad_add 3 3, Nat.div_div_eq_div_mul, ← pow_add]
  have hnine : pad 9 nano = pad 6 (nano / 10 ^ 3) ++ pad 3 (nano % 10 ^ 3) := pad_add 6 3 nano
  have hall : nano = 0 ↔ nano / 10 ^ 6 = 0 ∧ nano / 10 ^ 3 % 10 ^ 3 = 0 ∧ nano % 10 ^ 3 = 0 := by omega
  have hlow : nano % 10 ^ 6 = 0 ↔ nano / 10 ^ 3 % 10 ^ 3 = 0 ∧ nano % 10 ^ 3 = 0 := by omega
  rw [fraction, hnine, hsix]
  simp only [hall, hlow]
  generalize nano / 10 ^ 6 = first at *
  generalize nano / 10 ^ 3 % 10 ^ 3 = second at *
  generalize nano % 10 ^ 3 = third at *
  simp only [groupText, List.mem_cons, List.not_mem_nil, or_false, forall_eq_or_imp, forall_eq]
  split_ifs <;> simp_all

theorem not_lt_replicate_zero (values : List Nat) (count : Nat) (hcount : count ≤ values.length) :
    ¬values < List.replicate count 0 := by
  induction values generalizing count with
  | nil =>
      rw [Nat.le_zero.mp hcount]
      exact lt_irrefl []
  | cons v values ih =>
      cases count with
      | zero => exact List.not_lt_nil _
      | succ count =>
          rw [List.replicate_succ, List.cons_lt_cons_iff]
          rintro (hhead | ⟨_, htail⟩)
          · exact Nat.not_lt_zero v hhead
          · exact ih count (by simpa using hcount) htail

/-- A character of the zone that comes before every digit. -/
theorem zone_lt_pad {width n : Nat} (hwidth : 0 < width) (rest zone : List Char) :
    '+' :: zone < pad width n ++ rest := by
  obtain ⟨low, rfl⟩ : ∃ low, width = 1 + low := ⟨width - 1, by omega⟩
  rw [pad_add, List.append_assoc]
  have hdigit : ∀ d < 10, '+' < Nat.digitChar d := by decide
  simp only [pad, List.nil_append, List.cons_append]
  exact List.cons_lt_cons_iff.mpr (Or.inl (hdigit _ (Nat.mod_lt _ (by decide))))

theorem groupText_lt {groups others : List Nat} (zone : List Char)
    (hlen : groups.length = others.length) (hg : ∀ g ∈ groups, g < 10 ^ 3)
    (ho : ∀ g ∈ others, g < 10 ^ 3) (hlt : groups < others) :
    groupText groups ++ '+' :: zone < groupText others ++ '+' :: zone := by
  induction groups generalizing others with
  | nil => cases others <;> simp_all
  | cons g groups ih =>
      cases others with
      | nil => simp at hlen
      | cons o others =>
          have hnonzero : ¬∀ x ∈ o :: others, x = 0 := by
            intro hall
            rw [List.eq_replicate_of_mem hall] at hlt
            exact not_lt_replicate_zero (g :: groups) _ hlen.ge hlt
          rw [groupText, groupText, if_neg hnonzero, List.append_assoc]
          split_ifs with hall
          · exact zone_lt_pad (by decide) _ _
          · rw [List.append_assoc, append_lt_append_iff (by simp)]
            rcases List.cons_lt_cons_iff.mp hlt with hhead | ⟨rfl, htail⟩
            · exact Or.inl ((pad_lt_iff (hg g (by simp)) (ho o (by simp))).mpr hhead)
            · refine Or.inr ⟨rfl, ih (by simpa using hlen) (fun x hx => hg x (by simp [hx]))
                (fun x hx => ho x (by simp [hx])) htail⟩

/-- A date and time after the year, with the second of day, the nanoseconds and the zone. -/
def clockText (year : List Char) (month day second nano : Nat) (zone : List Char) : List Char :=
  year ++ '-' :: (render [(2, '-'), (2, 'T'), (2, ':'), (2, ':')]
      [month, day, second / 3600, second / 60 % 60] ++
    (pad 2 (second % 60 + nano / 10 ^ 9) ++ (fraction (nano % 10 ^ 9) ++ zone)))

/-- A year of four digits, or one outside 0 to 9999 with its sign. -/
def yearText (year : Int) : List Char :=
  if 0 ≤ year ∧ year ≤ 9999 then pad 4 year.toNat
  else (if year < 0 then '-' else '+') ::
    (if year.natAbs ≤ 9999 then pad 4 year.natAbs else (toString year.natAbs).toList)

def Moment.text (m : Moment) (zone : List Char) : List Char :=
  let days := m.secs / 86400
  let date := civil (days % 146097).toNat
  clockText (yearText (400 * (days / 146097) + date.1)) date.2.1 date.2.2 (m.secs % 86400).toNat m.frac zone

namespace Instant

def day (t : Instant) : Nat := t.ns / 10 ^ 9 / 86400

def second (t : Instant) : Nat := t.ns / 10 ^ 9 % 86400

def nano (t : Instant) : Nat := t.ns % 10 ^ 9

/-- The characters of the text, with the zone written as an offset. -/
def chars (t : Instant) : List Char :=
  clockText (pad 4 (civil t.day).1) (civil t.day).2.1 (civil t.day).2.2 t.second t.nano "+00:00".toList

def toRfc3339 (t : Instant) : String := String.ofList t.chars

theorem year_lt (t : Instant) : (civil t.day).1 < 10 ^ 4 := by
  have hday : t.day < daysBeforeYear 10000 := by
    have := t.inEra
    simp only [day, daysBeforeYear]
    omega
  have hyear := daysBeforeYear_yearOf_le t.day
  exact daysBeforeYear_strictMono.lt_iff_lt.mp (lt_of_le_of_lt hyear hday)

/-- The numbers written before the seconds. -/
def fields (t : Instant) : List Nat :=
  [(civil t.day).1, (civil t.day).2.1, (civil t.day).2.2, t.second / 3600, t.second / 60 % 60]

/-- The fields those numbers are written in. -/
def layout : List (Nat × Char) := [(4, '-'), (2, '-'), (2, 'T'), (2, ':'), (2, ':')]

theorem fields_fit (t : Instant) : Fits layout t.fields := by
  have hmonth := civil_month_range t.day
  have hday := (civil_day_range t.day).2
  have hlen := monthLength_le (civil t.day).1 (civil t.day).2.1 hmonth
  have hsecond : t.second < 86400 := Nat.mod_lt _ (by decide)
  refine ⟨t.year_lt, ?_, ?_, ?_, ?_, trivial⟩ <;> omega

theorem nano_lt (t : Instant) : t.nano < 10 ^ 9 := Nat.mod_lt _ (by decide)

theorem chars_eq (t : Instant) :
    t.chars = render layout t.fields ++
      (pad 2 (t.second % 60) ++ (fraction t.nano ++ "+00:00".toList)) := by
  have hnano := t.nano_lt
  rw [chars, clockText, Nat.div_eq_of_lt hnano, Nat.mod_eq_of_lt hnano, Nat.add_zero]
  simp [render, layout, fields]

theorem fraction_lt {nano later : Nat} (zone : List Char) (hlater : later < 10 ^ 9)
    (h : nano < later) : fraction nano ++ '+' :: zone < fraction later ++ '+' :: zone := by
  rw [fraction_eq_groups, fraction_eq_groups, if_neg (show later ≠ 0 by omega)]
  split_ifs with hzero
  · exact List.cons_lt_cons_iff.mpr (Or.inl (by decide))
  · refine List.cons_lt_cons_iff.mpr (Or.inr ⟨rfl, groupText_lt zone rfl ?_ ?_ ?_⟩)
    · simp only [List.mem_cons, List.not_mem_nil, or_false, forall_eq_or_imp, forall_eq]
      omega
    · simp only [List.mem_cons, List.not_mem_nil, or_false, forall_eq_or_imp, forall_eq]
      omega
    · simp only [List.cons_lt_cons_iff, lt_self_iff_false, and_false, or_false]
      omega

/-- The numbers before the seconds are ordered as the minutes they name. -/
theorem fields_lt {t later : Instant} (h : t.ns / 10 ^ 9 / 60 < later.ns / 10 ^ 9 / 60) :
    t.fields < later.fields := by
  have hsecond : t.second < 86400 := Nat.mod_lt _ (by decide)
  simp only [fields, List.cons_lt_cons_iff, lt_self_iff_false, and_false, or_false]
  rcases Nat.lt_or_ge t.day later.day with hday | hday
  · rcases civil_lt hday with hyear | ⟨hyear, hmonth | ⟨hmonth, hdom⟩⟩
    · exact Or.inl hyear
    · exact Or.inr ⟨hyear, Or.inl hmonth⟩
    · exact Or.inr ⟨hyear, Or.inr ⟨hmonth, Or.inl hdom⟩⟩
  · have hsame : t.day = later.day := by
      simp only [day] at *
      omega
    rw [hsame]
    refine Or.inr ⟨rfl, Or.inr ⟨rfl, Or.inr ⟨rfl, ?_⟩⟩⟩
    simp only [day, second] at *
    omega

theorem chars_strictMono {t later : Instant} (h : t.ns < later.ns) : t.chars < later.chars := by
  rw [chars_eq, chars_eq, append_lt_append_iff (render_length t.fields_fit later.fields_fit),
    render_lt_iff t.fields_fit later.fields_fit]
  rcases Nat.lt_or_ge (t.ns / 10 ^ 9 / 60) (later.ns / 10 ^ 9 / 60) with hminute | hminute
  · exact Or.inl (fields_lt hminute)
  have hday : t.day = later.day := by
    simp only [day]
    omega
  have hclock : t.second / 60 = later.second / 60 := by
    simp only [second]
    omega
  have hfields : t.fields = later.fields := by
    simp only [fields, hday, show t.second / 3600 = later.second / 3600 by omega, hclock]
  refine Or.inr ⟨by rw [hfields], ?_⟩
  rw [append_lt_append_iff (by simp), pad_lt_iff (by omega) (by omega)]
  rcases Nat.lt_or_ge (t.second % 60) (later.second % 60) with hsec | hsec
  · exact Or.inl hsec
  have hsame : t.second % 60 = later.second % 60 := by
    simp only [second] at *
    omega
  refine Or.inr ⟨by rw [hsame], fraction_lt _ later.nano_lt ?_⟩
  simp only [nano, second] at *
  omega

/-- The texts are ordered as the instants. -/
theorem toRfc3339_lt_iff {t later : Instant} : t.toRfc3339 < later.toRfc3339 ↔ t.ns < later.ns := by
  rw [String.lt_iff_toList_lt, toRfc3339, toRfc3339, String.toList_ofList, String.toList_ofList]
  constructor
  · intro h
    by_contra hnot
    rcases Nat.lt_or_ge later.ns t.ns with hlt | hge
    · exact absurd h (not_lt_of_gt (chars_strictMono hlt))
    · rw [Instant.ext_ns (le_antisymm hge (not_lt.mp hnot))] at h
      exact lt_irrefl _ h
  · exact chars_strictMono

theorem toRfc3339_le_iff {t later : Instant} : t.toRfc3339 ≤ later.toRfc3339 ↔ t.ns ≤ later.ns := by
  rw [← not_lt, toRfc3339_lt_iff, not_lt]

theorem toRfc3339_injective {t later : Instant} (h : t.toRfc3339 = later.toRfc3339) : t = later :=
  Instant.ext_ns (le_antisymm (toRfc3339_le_iff.mp h.le) (toRfc3339_le_iff.mp h.ge))

end Instant

/-- A moment of the years 0 to 9999. -/
def Moment.InEra (m : Moment) : Prop := 0 ≤ m.secs ∧ m.secs < 3652425 * 86400

/-- A moment as a clock or a reader gives it: a leap second stands at the end of a minute. -/
def Moment.Regular (m : Moment) : Prop := m.frac < 10 ^ 9 ∨ m.frac < 2 * 10 ^ 9 ∧ m.secs % 60 = 59

/-- The day number of a moment of the era. -/
def Moment.day (m : Moment) : Nat := (m.secs / 86400).toNat

def Moment.second (m : Moment) : Nat := (m.secs % 86400).toNat

theorem Moment.second_lt (m : Moment) : m.second < 86400 := by
  unfold second
  omega

theorem Moment.year_lt {m : Moment} (hera : m.InEra) : (civil m.day).1 < 10 ^ 4 := by
  apply civil_year_lt
  rw [show daysBeforeYear (10 ^ 4) = 3652425 by decide, day]
  simp only [InEra] at hera
  omega

/-- Within the era the date is that of the day number. -/
theorem Moment.date_inEra {m : Moment} (hera : m.InEra) :
    400 * (m.secs / 86400 / 146097) + ((civil (m.secs / 86400 % 146097).toNat).1 : Int) = ((civil m.day).1 : Nat) ∧
      (civil (m.secs / 86400 % 146097).toNat).2 = (civil m.day).2 := by
  have hdays : m.secs / 86400 = m.day := by
    simp only [InEra, day] at *
    omega
  have hcivil : civil m.day = (400 * (m.day / 146097) + (civil (m.day % 146097)).1, (civil (m.day % 146097)).2) := by
    rw [← civil_add_era, Nat.div_add_mod]
  have hrest : ((m.day : Int) % 146097).toNat = m.day % 146097 := by omega
  rw [hdays, hrest, hcivil]
  refine ⟨?_, rfl⟩
  push_cast
  rfl

theorem Moment.text_inEra {m : Moment} (hera : m.InEra) (zone : List Char) :
    m.text zone = clockText (pad 4 (civil m.day).1) (civil m.day).2.1 (civil m.day).2.2 m.second m.frac zone := by
  have hyear := year_lt hera
  obtain ⟨hdate, hrest⟩ := date_inEra hera
  simp only [Moment.text, hdate, hrest]
  rw [yearText, if_pos (by omega), Int.toNat_natCast, second]

theorem Instant.moment_inEra (t : Instant) : t.moment.InEra := by
  have := t.inEra
  simp only [Moment.InEra, moment]
  omega

/-- Outside those years the text starts with a sign. -/
theorem Moment.text_signed {m : Moment} (hera : ¬m.InEra) (zone : List Char) :
    ∃ rest, m.text zone = '-' :: rest ∨ m.text zone = '+' :: rest := by
  have hdays : m.secs / 86400 < 0 ∨ 3652425 ≤ m.secs / 86400 := by
    simp only [InEra] at hera
    omega
  have hyear := civil_year_lt (show (m.secs / 86400 % 146097).toNat < daysBeforeYear 400 by
    rw [show daysBeforeYear 400 = 146097 by decide]
    omega)
  generalize hdate : civil (m.secs / 86400 % 146097).toNat = date at hyear
  have hout : ¬(0 ≤ 400 * (m.secs / 86400 / 146097) + (date.1 : Int) ∧
      400 * (m.secs / 86400 / 146097) + (date.1 : Int) ≤ 9999) := by
    omega
  simp only [Moment.text, hdate, yearText, if_neg hout, clockText, List.cons_append]
  split
  · exact ⟨_, .inl rfl⟩
  · exact ⟨_, .inr rfl⟩

/-- `to_rfc3339`, with the zone written as an offset. -/
def Moment.toRfc3339 (m : Moment) : String := String.ofList (m.text "+00:00".toList)

/-! ### Reading -/

/-- The digits of a fraction: at most `width` of them count, and the rest are skipped. -/
def readFraction : Nat → List Char → Nat × List Char
  | width, c :: rest =>
      match digit? c with
      | some d =>
          let tail := readFraction (width - 1) rest
          ((if width = 0 then 0 else d * 10 ^ (width - 1)) + tail.1, tail.2)
      | none => (0, c :: rest)
  | _, [] => (0, [])

/-- The nanoseconds after the seconds: none, or a point and at least one digit. -/
def readNano : List Char → Option (Nat × List Char)
  | '.' :: c :: rest => if (digit? c).isSome then some (readFraction 9 (c :: rest)) else none
  | ['.'] => none
  | text => some (0, text)

/-- The offset of the zone in seconds: `Z`, or a sign, hours and minutes below a day. -/
def readZone : List Char → Option Int
  | [] => none
  | sign :: rest =>
      if sign = 'Z' ∨ sign = 'z' then if rest = [] then some 0 else none
      else if sign = '+' ∨ sign = '-' ∨ sign = '−' then do
        let (hours, rest) ← readNum 2 rest
        let rest ← expect ':' rest
        let (minutes, rest) ← readNum 2 rest
        if rest = [] ∧ hours < 24 ∧ minutes < 60 then
          some (if sign = '+' then (hours * 3600 + minutes * 60 : Int) else -(hours * 3600 + minutes * 60))
        else none
      else none

/-- A date, as its day number. -/
def readDate (text : List Char) : Option (Nat × List Char) := do
  let (year, text) ← readNum 4 text
  let text ← expect '-' text
  let (month, text) ← readNum 2 text
  let text ← expect '-' text
  let (day, text) ← readNum 2 text
  let days ← dayNumber? year month day
  some (days, text)

/-- A time of day, as its minute and its second; second 60 is a leap second. -/
def readTime (text : List Char) : Option (Nat × Nat × List Char) := do
  let (hour, text) ← readNum 2 text
  let text ← expect ':' text
  let (minute, text) ← readNum 2 text
  let text ← expect ':' text
  let (second, text) ← readNum 2 text
  if hour < 24 ∧ minute < 60 ∧ second ≤ 60 then some (hour * 60 + minute, second, text) else none

/-- The moment a text names. The date and the time may be separated by `T`, `t` or a blank. -/
def parse (text : List Char) : Option Moment := do
  let (days, text) ← readDate text
  let text ← (expect 'T' text).or ((expect 't' text).or (expect ' ' text))
  let (minute, second, text) ← readTime text
  let (nano, text) ← readNano text
  let zone ← readZone text
  some ⟨(days * 86400 + minute * 60 + min second 59 : Nat) - zone,
    nano + if second = 60 then 10 ^ 9 else 0⟩

def parseRfc3339 (text : String) : Option Moment := parse text.toList

theorem readFraction_lt (width : Nat) (text : List Char) : (readFraction width text).1 < 10 ^ width := by
  induction text generalizing width with
  | nil => simp [readFraction]
  | cons c rest ih =>
      rw [readFraction]
      split
      · rename_i d hd
        have hdigit := digit?_lt hd
        have htail := ih (width - 1)
        cases width with
        | zero => simpa using htail
        | succ width =>
            have hscaled : d * 10 ^ width ≤ 9 * 10 ^ width := Nat.mul_le_mul_right _ (by omega)
            rw [if_neg (Nat.succ_ne_zero width), Nat.pow_succ]
            rw [Nat.add_sub_cancel] at htail ⊢
            change d * 10 ^ width + (readFraction width rest).1 < 10 ^ width * 10
            omega
      · simp

theorem readNano_lt {text rest : List Char} {nano : Nat} (h : readNano text = some (nano, rest)) : nano < 10 ^ 9 := by
  unfold readNano at h
  split at h
  · split at h
    · rw [Option.some.injEq] at h
      have hlt := readFraction_lt 9
      rename_i c tail _
      have hfraction := hlt (c :: tail)
      rw [h] at hfraction
      exact hfraction
    · cases h
  · cases h
  · cases h
    decide

theorem readZone_minutes {text : List Char} {zone : Int} (h : readZone text = some zone) : zone % 60 = 0 := by
  unfold readZone at h
  split at h
  · cases h
  · split at h
    · split at h
      · cases h
        rfl
      · cases h
    · split at h
      · simp only [Option.bind_eq_bind, Option.bind_eq_some_iff] at h
        obtain ⟨⟨hours, rest⟩, -, rest, -, ⟨minutes, rest⟩, -, h⟩ := h
        split at h
        · rw [Option.some.injEq] at h
          rw [← h]
          split <;> omega
        · cases h
      · cases h

theorem regular_of_parse {text : List Char} {m : Moment} (h : parse text = some m) : m.Regular := by
  simp only [parse, Option.bind_eq_bind, Option.bind_eq_some_iff] at h
  obtain ⟨⟨days, rest⟩, -, rest, -, ⟨minute, second, rest⟩, -, ⟨nano, rest⟩, hnano, zone, hzone, h⟩ := h
  have hlt := readNano_lt hnano
  have hminutes := readZone_minutes hzone
  rw [Option.some.injEq] at h
  subst h
  simp only [Moment.Regular]
  by_cases hleap : second = 60
  · rw [if_pos hleap, hleap]
    right
    omega
  · rw [if_neg hleap]
    left
    omega

/-- What ends a fraction. -/
def EndsFraction (c : Char) : Prop := digit? c = none ∧ c ≠ '.'

theorem readFraction_pad {width n : Nat} (extra : Nat) {c : Char} (hc : EndsFraction c) (zone : List Char)
    (hn : n < 10 ^ width) :
    readFraction (width + extra) (pad width n ++ c :: zone) = (n * 10 ^ extra, c :: zone) := by
  induction width generalizing n with
  | zero =>
      simp only [pow_zero, Nat.lt_one_iff] at hn
      subst hn
      simp [pad, readFraction, hc.1]
  | succ width ih =>
      have hhigh : n / 10 ^ width < 10 := by
        rw [Nat.div_lt_iff_lt_mul (by positivity), ← pow_succ']
        exact hn
      have hsplit : pad (width + 1) n =
          Nat.digitChar (n / 10 ^ width) :: pad width (n % 10 ^ width) := by
        rw [Nat.add_comm, pad_add, pad, pad, Nat.mod_eq_of_lt hhigh]
        rfl
      rw [hsplit, List.cons_append, readFraction, digit?_digitChar _ hhigh]
      simp only [show width + 1 + extra - 1 = width + extra by omega,
        if_neg (show ¬width + 1 + extra = 0 by omega), ih (Nat.mod_lt n (by positivity)),
        Prod.mk.injEq, and_true]
      calc n / 10 ^ width * 10 ^ (width + extra) + n % 10 ^ width * 10 ^ extra
          = (10 ^ width * (n / 10 ^ width) + n % 10 ^ width) * 10 ^ extra := by ring
        _ = n * 10 ^ extra := by rw [Nat.div_add_mod]

theorem digit?_head_pad (width n : Nat) (rest : List Char) :
    ∃ c tail, pad (width + 1) n ++ rest = c :: tail ∧ (digit? c).isSome = true := by
  refine ⟨Nat.digitChar (n / 10 ^ width % 10), pad width (n % 10 ^ width) ++ rest, ?_, ?_⟩
  · rw [Nat.add_comm, pad_add, pad, pad]
    rfl
  · rw [digit?_digitChar _ (Nat.mod_lt _ (by decide))]
    rfl

/-- A fraction is empty, or a point with digits that give it back. -/
theorem fraction_cases {nano : Nat} (hnano : nano < 10 ^ 9) :
    nano = 0 ∧ fraction nano = [] ∨
      ∃ width n extra, fraction nano = '.' :: pad (width + 1) n ∧ n < 10 ^ (width + 1) ∧ width + 1 + extra = 9 ∧
        n * 10 ^ extra = nano := by
  unfold fraction
  split_ifs with hzero hthree hsix
  · exact .inl ⟨hzero, rfl⟩
  · exact .inr ⟨2, _, 6, rfl, by omega, rfl, Nat.div_mul_cancel (Nat.dvd_of_mod_eq_zero hthree)⟩
  · exact .inr ⟨5, _, 3, rfl, by omega, rfl, Nat.div_mul_cancel (Nat.dvd_of_mod_eq_zero hsix)⟩
  · exact .inr ⟨8, _, 0, rfl, by omega, rfl, by rw [pow_zero, Nat.mul_one]⟩

theorem readNano_fraction {nano : Nat} {c : Char} (hc : EndsFraction c) (zone : List Char) (hnano : nano < 10 ^ 9) :
    readNano (fraction nano ++ c :: zone) = some (nano, c :: zone) := by
  rcases fraction_cases hnano with ⟨rfl, hempty⟩ | ⟨width, n, extra, hdigits, hn, hextra, hvalue⟩
  · rw [hempty, List.nil_append]
    unfold readNano
    split
    · rename_i heq
      exact absurd (List.cons.inj heq).1 hc.2
    · rename_i heq
      exact absurd (List.cons.inj heq).1 hc.2
    · rfl
  · obtain ⟨first, tail, hhead, hdigit⟩ := digit?_head_pad width n (c :: zone)
    rw [hdigits, List.cons_append, hhead, readNano, if_pos hdigit, ← hhead, ← hextra,
      readFraction_pad extra hc zone hn, hvalue]

theorem readDate_civil {day : Nat} (rest : List Char) (hyear : (civil day).1 < 10 ^ 4) :
    readDate (render [(4, '-'), (2, '-')] [(civil day).1, (civil day).2.1] ++
      (pad 2 (civil day).2.2 ++ rest)) = some (day, rest) := by
  have hmonth := civil_month_range day
  have hlength := monthLength_le (civil day).1 (civil day).2.1 hmonth
  have hday := (civil_day_range day).2
  simp only [readDate, render, List.append_assoc, List.cons_append, List.nil_append, readNum_pad _ hyear,
    readNum_pad _ (show (civil day).2.1 < 10 ^ 2 by omega),
    readNum_pad _ (show (civil day).2.2 < 10 ^ 2 by omega), expect_self, Option.bind_eq_bind,
    Option.bind_some, dayNumber?_civil]

theorem readTime_clock {second leap : Nat} (rest : List Char) (hsecond : second < 86400) (hleap : leap ≤ 1) :
    readTime (render [(2, ':'), (2, ':')] [second / 3600, second / 60 % 60] ++
      (pad 2 (second % 60 + leap) ++ rest)) = some (second / 60, second % 60 + leap, rest) := by
  simp only [readTime, render, List.append_assoc, List.cons_append, List.nil_append,
    readNum_pad _ (show second / 3600 < 10 ^ 2 by omega),
    readNum_pad _ (show second / 60 % 60 < 10 ^ 2 by omega),
    readNum_pad _ (show second % 60 + leap < 10 ^ 2 by omega), expect_self, Option.bind_eq_bind, Option.bind_some]
  rw [if_pos (by omega), show second / 3600 * 60 + second / 60 % 60 = second / 60 by omega]

/-- The date, the mark, the time, the fraction and the zone of a text. -/
theorem clockText_eq (day second nano : Nat) (zone : List Char) :
    clockText (pad 4 (civil day).1) (civil day).2.1 (civil day).2.2 second nano zone =
      render [(4, '-'), (2, '-')] [(civil day).1, (civil day).2.1] ++ (pad 2 (civil day).2.2 ++
        'T' :: (render [(2, ':'), (2, ':')] [second / 3600, second / 60 % 60] ++
          (pad 2 (second % 60 + nano / 10 ^ 9) ++ (fraction (nano % 10 ^ 9) ++ zone)))) := by
  simp [clockText, render]

/-- Reading a text of four-digit years; its second may be a leap second. -/
theorem parse_clockText {day second nano : Nat} {c : Char} {zone : List Char} {offset : Int}
    (hyear : (civil day).1 < 10 ^ 4) (hsecond : second < 86400) (hnano : nano < 2 * 10 ^ 9) (hc : EndsFraction c)
    (hzone : readZone (c :: zone) = some offset) :
    parse (clockText (pad 4 (civil day).1) (civil day).2.1 (civil day).2.2 second nano (c :: zone)) =
      some ⟨(day * 86400 + second / 60 * 60 + min (second % 60 + nano / 10 ^ 9) 59 : Nat) - offset,
        nano % 10 ^ 9 + if second % 60 + nano / 10 ^ 9 = 60 then 10 ^ 9 else 0⟩ := by
  rw [clockText_eq, parse, readDate_civil _ hyear]
  simp only [Option.bind_eq_bind, Option.bind_some, expect_self, Option.some_or]
  rw [readTime_clock _ hsecond (by omega)]
  simp only [Option.bind_some]
  rw [readNano_fraction hc _ (Nat.mod_lt _ (by decide)), Option.bind_some, hzone, Option.bind_some]

/-- The text of a moment of the era can be read. -/
theorem Moment.isSome_parse_toRfc3339 {m : Moment} (hera : m.InEra) (hfrac : m.frac < 2 * 10 ^ 9) :
    (parseRfc3339 m.toRfc3339).isSome = true := by
  have hzone : readZone ('+' :: "00:00".toList) = some 0 := by decide
  rw [parseRfc3339, toRfc3339, String.toList_ofList, text_inEra hera,
    show "+00:00".toList = '+' :: "00:00".toList by decide,
    parse_clockText (year_lt hera) m.second_lt hfrac ⟨by decide, by decide⟩ hzone]
  rfl

/-- Reading the text of an instant gives the instant back. -/
theorem Instant.parse_toRfc3339 (t : Instant) : parseRfc3339 t.toRfc3339 = some t.moment := by
  have hsecond : t.second < 86400 := Nat.mod_lt _ (by decide)
  have hnano := t.nano_lt
  have hzone : readZone ('+' :: "00:00".toList) = some 0 := by decide
  rw [parseRfc3339, toRfc3339, String.toList_ofList, chars, show "+00:00".toList = '+' :: "00:00".toList by decide,
    parse_clockText t.year_lt hsecond (by omega) ⟨by decide, by decide⟩ hzone, Nat.div_eq_of_lt hnano,
    Nat.mod_eq_of_lt hnano, Nat.add_zero, if_neg (by omega), Nat.min_eq_left (by omega)]
  simp only [moment, nano, Nat.add_zero, sub_zero, Option.some.injEq, Moment.mk.injEq, and_true, Nat.cast_inj,
    day, second]
  omega

/-! ### No text begins another -/

theorem readDate_append {days : Nat} {text rest : List Char} (h : readDate text = some (days, rest))
    (more : List Char) : readDate (text ++ more) = some (days, rest ++ more) := by
  simp only [readDate, Option.bind_eq_bind, Option.bind_eq_some_iff, Option.some.injEq] at h
  obtain ⟨⟨year, text⟩, hyear, text, hdash, ⟨month, text⟩, hmonth, text, hsecond, ⟨day, text⟩, hday, _, hdays,
    hpair⟩ := h
  obtain ⟨rfl, rfl⟩ := Prod.mk.inj hpair
  simp only [readDate, readNum_append hyear, expect_append hdash, readNum_append hmonth, expect_append hsecond,
    readNum_append hday, hdays, Option.bind_eq_bind, Option.bind_some]

theorem readTime_append {minute second : Nat} {text rest : List Char}
    (h : readTime text = some (minute, second, rest)) (more : List Char) :
    readTime (text ++ more) = some (minute, second, rest ++ more) := by
  simp only [readTime, Option.bind_eq_bind, Option.bind_eq_some_iff, Option.ite_none_right_eq_some,
    Option.some.injEq] at h
  obtain ⟨⟨hour, text⟩, hhour, text, hcolon, ⟨minutes, text⟩, hminutes, text, hsecond, ⟨seconds, text⟩, hseconds,
    hrange, hpair⟩ := h
  simp only [Prod.mk.injEq] at hpair
  obtain ⟨rfl, rfl, rfl⟩ := hpair
  simp only [readTime, readNum_append hhour, expect_append hcolon, readNum_append hminutes, expect_append hsecond,
    readNum_append hseconds, Option.bind_eq_bind, Option.bind_some, if_pos hrange]

/-- Digits that end before the text does end there in a longer text too. -/
theorem readFraction_append {width n : Nat} {text rest : List Char} (h : readFraction width text = (n, rest))
    (hrest : rest ≠ []) (more : List Char) : readFraction width (text ++ more) = (n, rest ++ more) := by
  induction text generalizing width n with
  | nil =>
      rw [readFraction, Prod.mk.injEq] at h
      exact absurd h.2.symm hrest
  | cons c text ih =>
      rw [List.cons_append, readFraction]
      rw [readFraction] at h
      split at h
      · rename_i d hd
        obtain ⟨rfl, htail⟩ := Prod.mk.inj h
        have hmore := ih (Prod.ext rfl htail)
        simp only [hmore]
      · rename_i hd
        obtain ⟨rfl, rfl⟩ := Prod.mk.inj h
        rfl

theorem readNano_append {n : Nat} {text rest : List Char} (h : readNano text = some (n, rest)) (hrest : rest ≠ [])
    (more : List Char) : readNano (text ++ more) = some (n, rest ++ more) := by
  unfold readNano at h
  split at h
  · rename_i c tail
    rw [Option.ite_none_right_eq_some, Option.some.injEq] at h
    rw [List.cons_append, List.cons_append, readNano, if_pos h.1, ← List.cons_append, readFraction_append h.2 hrest]
  · cases h
  · rename_i hpoint hlone
    rw [Option.some.injEq, Prod.mk.injEq] at h
    obtain ⟨rfl, rfl⟩ := h
    unfold readNano
    split
    · rename_i c tail heq
      cases text with
      | nil => exact absurd rfl hrest
      | cons d text =>
          obtain ⟨rfl, htail⟩ := List.cons.inj heq
          cases text with
          | nil => exact absurd rfl hlone
          | cons e text => exact absurd rfl (hpoint e text)
    · rename_i heq
      cases text with
      | nil => exact absurd rfl hrest
      | cons d text =>
          rw [List.cons_append, List.cons.injEq, List.append_eq_nil_iff] at heq
          obtain ⟨rfl, rfl, -⟩ := heq
          exact absurd rfl hlone
    · rfl

theorem ne_nil_of_readZone {text : List Char} {zone : Int} (h : readZone text = some zone) : text ≠ [] := by
  rintro rfl
  cases h

theorem readZone_append {text : List Char} {zone : Int} (h : readZone text = some zone) {more : List Char}
    (hmore : more ≠ []) : readZone (text ++ more) = none := by
  cases text with
  | nil => cases h
  | cons sign text =>
      rw [readZone] at h
      rw [List.cons_append, readZone]
      by_cases hz : sign = 'Z' ∨ sign = 'z'
      · rw [if_pos hz, Option.ite_none_right_eq_some] at h
        rw [if_pos hz, if_neg]
        rw [h.1]
        exact hmore
      · rw [if_neg hz, Option.ite_none_right_eq_some] at h
        obtain ⟨hsign, h⟩ := h
        simp only [Option.bind_eq_bind, Option.bind_eq_some_iff, Option.ite_none_right_eq_some] at h
        obtain ⟨⟨hours, text⟩, hhours, text, hcolon, ⟨minutes, text⟩, hminutes, ⟨hend, -⟩, -⟩ := h
        subst hend
        rw [if_neg hz, if_pos hsign]
        simp only [readNum_append hhours, expect_append hcolon, readNum_append hminutes, Option.bind_eq_bind,
          Option.bind_some, List.nil_append, hmore, false_and, if_false]

/-- What may stand between the date and the time. -/
theorem readMark_append {text rest : List Char}
    (h : (expect 'T' text).or ((expect 't' text).or (expect ' ' text)) = some rest) (more : List Char) :
    (expect 'T' (text ++ more)).or ((expect 't' (text ++ more)).or (expect ' ' (text ++ more))) =
      some (rest ++ more) := by
  simp only [Option.or_eq_some_iff, expect_eq_some] at h
  rcases h with rfl | ⟨-, rfl | ⟨-, rfl⟩⟩ <;> simp [expect]

/-- No text that names a moment is the beginning of another. -/
theorem parse_append {text : List Char} {m : Moment} (h : parse text = some m) {more : List Char}
    (hmore : more ≠ []) : parse (text ++ more) = none := by
  simp only [parse, Option.bind_eq_bind, Option.bind_eq_some_iff] at h
  obtain ⟨⟨days, text⟩, hdate, text, hmark, ⟨minute, second, text⟩, htime, ⟨nano, text⟩, hnano, zone, hzone, -⟩ := h
  simp only [parse, readDate_append hdate, readMark_append hmark, readTime_append htime,
    readNano_append hnano (ne_nil_of_readZone hzone), readZone_append hzone hmore, Option.bind_eq_bind,
    Option.bind_some, Option.bind_none]

theorem head_of_parse {text : List Char} {m : Moment} (h : parse text = some m) :
    ∃ c rest, text = c :: rest ∧ (digit? c).isSome = true := by
  simp only [parse, readDate, Option.bind_eq_bind, Option.bind_eq_some_iff] at h
  obtain ⟨-, ⟨⟨year, rest⟩, hyear, -⟩, -⟩ := h
  obtain ⟨digits, rfl, hlength, hdigits⟩ := digits_of_readNum hyear
  cases digits with
  | nil => cases hlength
  | cons c digits => exact ⟨c, digits ++ rest, rfl, hdigits c List.mem_cons_self⟩

end TextRfc3339
