import Mathlib.Data.String.Basic
import Mathlib.Data.List.Basic
import Mathlib.Data.List.Infix
import Mathlib.Data.Nat.Digits.Defs
import Mathlib.Tactic.Common

/-! Operations on texts with the behaviour of Rust's standard library: trimming by the Unicode
`White_Space` property, ASCII classes, and the decimal form of 64-bit integers. -/

namespace TextRust

/-- The Unicode `White_Space` property. -/
def isWhitespace (c : Char) : Bool :=
  (9 ≤ c.toNat && c.toNat ≤ 13) || c.toNat == 0x20 || c.toNat == 0x85 || c.toNat == 0xA0 ||
    c.toNat == 0x1680 || (0x2000 ≤ c.toNat && c.toNat ≤ 0x200A) || c.toNat == 0x2028 ||
    c.toNat == 0x2029 || c.toNat == 0x202F || c.toNat == 0x205F || c.toNat == 0x3000

/-- The end of a list without the elements that match. -/
def dropEndWhile {α : Type} (p : α → Bool) (xs : List α) : List α := (xs.reverse.dropWhile p).reverse

/-- `str::trim`. -/
def trim (s : String) : String := String.ofList (dropEndWhile isWhitespace (s.toList.dropWhile isWhitespace))

theorem mem_of_mem_trim {c : Char} {s : String} (h : c ∈ (trim s).toList) : c ∈ s.toList := by
  rw [trim, String.toList_ofList, dropEndWhile, List.mem_reverse] at h
  have hend := (List.dropWhile_sublist _).subset h
  rw [List.mem_reverse] at hend
  exact (List.dropWhile_sublist _).subset hend

/-- `str::trim_end_matches` for one character. -/
def trimEndMatches (c : Char) (s : String) : String := String.ofList (dropEndWhile (· == c) s.toList)

def isAsciiDigit (c : Char) : Bool := '0' ≤ c && c ≤ '9'

def isAsciiUppercase (c : Char) : Bool := 'A' ≤ c && c ≤ 'Z'

def isAsciiLowercase (c : Char) : Bool := 'a' ≤ c && c ≤ 'z'

def isAsciiAlphanumeric (c : Char) : Bool := isAsciiDigit c || isAsciiUppercase c || isAsciiLowercase c

theorem toNat_of_asciiAlphanumeric {c : Char} (h : isAsciiAlphanumeric c = true) : 48 ≤ c.toNat ∧ c.toNat < 128 := by
  simp only [isAsciiAlphanumeric, isAsciiDigit, isAsciiUppercase, isAsciiLowercase, Bool.or_eq_true,
    Bool.and_eq_true, decide_eq_true_eq, Char.le_def, UInt32.le_iff_toNat_le] at h
  change ((48 ≤ c.toNat ∧ c.toNat ≤ 57) ∨ 65 ≤ c.toNat ∧ c.toNat ≤ 90) ∨ 97 ≤ c.toNat ∧ c.toNat ≤ 122 at h
  omega

def toAsciiUppercase (c : Char) : Char := if isAsciiLowercase c then Char.ofNat (c.toNat - 32) else c

def toAsciiLowercase (c : Char) : Char := if isAsciiUppercase c then Char.ofNat (c.toNat + 32) else c

/-- `char::is_control`: the Unicode category of controls. -/
def isControl (c : Char) : Bool := c.toNat < 0x20 || (0x7F ≤ c.toNat && c.toNat ≤ 0x9F)

/-- `str::contains`. -/
def contains (text part : String) : Bool := decide (part.toList <:+: text.toList)

/-- `str::strip_prefix`, on characters. -/
def stripStart (start text : List Char) : Option (List Char) :=
  if start.isPrefixOf text then some (text.drop start.length) else none

theorem stripStart_eq_some {start text rest : List Char} :
    stripStart start text = some rest ↔ text = start ++ rest := by
  rw [stripStart, Option.ite_none_right_eq_some, List.isPrefixOf_iff_prefix, Option.some.injEq]
  refine ⟨?_, ?_⟩
  · rintro ⟨⟨_, rfl⟩, hrest⟩
    rw [List.drop_left] at hrest
    rw [hrest]
  · rintro rfl
    exact ⟨List.prefix_append _ _, List.drop_left⟩

/-- `str::split_once`, on characters: what stands before and after the first mark. -/
def splitOnce (mark : List Char) : List Char → Option (List Char × List Char)
  | [] => none
  | c :: text =>
      match stripStart mark (c :: text) with
      | some after => some ([], after)
      | none => (splitOnce mark text).map fun (before, after) => (c :: before, after)

/-- A mark of two equal characters after a text is the first one, unless one stands in the text or the text
ends with half of one. -/
theorem splitOnce_twin (c : Char) (text rest : List Char) :
    splitOnce [c, c] (text ++ ([c, c] ++ rest)) = some (text, rest) ↔
      ¬[c, c] <:+: text ∧ text.getLast? ≠ some c := by
  induction text with
  | nil =>
      have hfound : splitOnce [c, c] (c :: c :: rest) = some ([], rest) := by
        rw [splitOnce, stripStart_eq_some.mpr (show c :: c :: rest = [c, c] ++ rest from rfl)]
      simp [hfound]
  | cons d text ih =>
      rw [List.cons_append, splitOnce]
      split
      · rename_i found hfound
        rw [stripStart_eq_some] at hfound
        obtain ⟨rfl, htext⟩ := List.cons.inj hfound
        cases text with
        | nil => simp
        | cons e text =>
            obtain ⟨rfl, -⟩ := List.cons.inj htext
            simp [List.infix_cons_iff]
      · rename_i hnone
        have hbegins : ¬[c, c] <+: d :: text := by
          rintro ⟨more, hmore⟩
          rw [← List.cons_append, ← hmore, List.append_assoc, stripStart_eq_some.mpr rfl] at hnone
          cases hnone
        have hlast : (d :: text).getLast? = some c ↔ text.getLast? = some c := by
          cases text with
          | nil =>
              have hne : d ≠ c := by
                intro heq
                rw [heq] at hnone
                rw [List.nil_append, show c :: ([c, c] ++ rest) = [c, c] ++ (c :: rest) from rfl,
                  stripStart_eq_some.mpr rfl] at hnone
                cases hnone
              simp [hne]
          | cons e text => rw [List.getLast?_cons_cons]
        rw [List.infix_cons_iff, not_or, Ne, hlast, ← Ne, and_assoc, ← ih, Option.map_eq_some_iff]
        simp [hbegins]

/-- `str::strip_suffix`, on characters. -/
def stripEnd (ending text : List Char) : Option (List Char) :=
  if ending.isSuffixOf text then some (text.take (text.length - ending.length)) else none

theorem stripEnd_eq_some {ending text rest : List Char} :
    stripEnd ending text = some rest ↔ text = rest ++ ending := by
  rw [stripEnd, Option.ite_none_right_eq_some, List.isSuffixOf_iff_suffix, Option.some.injEq]
  refine ⟨?_, ?_⟩
  · rintro ⟨⟨_, rfl⟩, hrest⟩
    rw [List.length_append, Nat.add_sub_cancel, List.take_left] at hrest
    rw [hrest]
  · rintro rfl
    rw [List.length_append, Nat.add_sub_cancel, List.take_left]
    exact ⟨List.suffix_append _ _, rfl⟩

/-- `str::parse::<i64>`: an optional sign and decimal digits. -/
def parseI64 (s : String) : Option Int64 :=
  let (negative, digits) := match s.toList with
    | '+' :: digits => (false, digits)
    | '-' :: digits => (true, digits)
    | digits => (false, digits)
  let magnitude : Int := Nat.ofDigitChars 10 digits 0
  let value := if negative then -magnitude else magnitude
  if digits.isEmpty || !digits.all isAsciiDigit then none
  else if -2 ^ 63 ≤ value ∧ value < 2 ^ 63 then some (Int64.ofInt value)
  else none

theorem toList_toString_natCast (n : Nat) : (toString (n : Int)).toList = Nat.toDigits 10 n := by
  rw [Int.toString_eq_repr, Int.repr_eq_if, if_pos (Int.natCast_nonneg n), Int.toNat_natCast, Nat.toList_repr]

theorem toString_inj_of_nonneg {n m : Int} (hn : 0 ≤ n) (hm : 0 ≤ m) (h : toString n = toString m) : n = m := by
  obtain ⟨n, rfl⟩ := Int.eq_ofNat_of_zero_le hn
  obtain ⟨m, rfl⟩ := Int.eq_ofNat_of_zero_le hm
  have hdigits : Nat.toDigits 10 n = Nat.toDigits 10 m := by
    rw [← toList_toString_natCast, ← toList_toString_natCast, h]
  have hvalue := congrArg (fun digits => Nat.ofDigitChars 10 digits 0) hdigits
  simp only [Nat.ofDigitChars_ten_toDigits] at hvalue
  rw [hvalue]

/-- The decimal form has digits, after a sign if the number is negative. -/
theorem chars_of_toString {n : Int} {c : Char} (hc : c ∈ (toString n).toList) : c = '-' ∨ c.isDigit = true := by
  rw [Int.toString_eq_repr, Int.repr_eq_if] at hc
  split at hc
  · rw [Nat.toList_repr] at hc
    exact .inr (Nat.isDigit_of_mem_toDigits (by decide) (by decide) hc)
  · rw [String.toList_append, Nat.toList_repr, List.mem_append] at hc
    rcases hc with hsign | hdigit
    · exact .inl (by simpa using hsign)
    · exact .inr (Nat.isDigit_of_mem_toDigits (by decide) (by decide) hdigit)

theorem toString_inj {n m : Int} (h : toString n = toString m) : n = m := by
  have hsigned : ∀ n m : Int, 0 ≤ n → m < 0 → toString n ≠ toString m := by
    intro n m hn hm h
    obtain ⟨n, rfl⟩ := Int.eq_ofNat_of_zero_le hn
    have hhead : '-' ∈ (toString (n : Int)).toList := by
      rw [h, Int.toString_eq_repr, Int.repr_eq_if, if_neg (by omega), String.toList_append]
      exact List.mem_append_left _ (by decide)
    rw [toList_toString_natCast] at hhead
    exact absurd (Nat.isDigit_of_mem_toDigits (by decide) (by decide) hhead) (by decide)
  rcases lt_or_ge n 0 with hn | hn
  · rcases lt_or_ge m 0 with hm | hm
    · rw [Int.toString_eq_repr, Int.toString_eq_repr, Int.repr_eq_if, Int.repr_eq_if, if_neg (by omega),
        if_neg (by omega), String.append_right_inj] at h
      have hnat : toString (((-n).toNat : Nat) : Int) = toString (((-m).toNat : Nat) : Int) := h
      have := toString_inj_of_nonneg (Int.natCast_nonneg _) (Int.natCast_nonneg _) hnat
      omega
    · exact absurd h.symm (hsigned m n hm hn)
  · rcases lt_or_ge m 0 with hm | hm
    · exact absurd h (hsigned n m hn hm)
    · exact toString_inj_of_nonneg hn hm h

/-- Texts without the separator are told apart by what stands before it. -/
theorem append_separator_inj {α : Type} {separator : α} {first second rest others : List α}
    (hfirst : separator ∉ first) (hsecond : separator ∉ second)
    (h : first ++ separator :: rest = second ++ separator :: others) : first = second ∧ rest = others := by
  induction first generalizing second with
  | nil =>
      cases second with
      | nil => exact ⟨rfl, (List.cons.inj h).2⟩
      | cons c second => exact absurd ((List.cons.inj h).1 ▸ List.mem_cons_self) hsecond
  | cons c first ih =>
      cases second with
      | nil => exact absurd ((List.cons.inj h).1.symm ▸ List.mem_cons_self) hfirst
      | cons d second =>
          obtain ⟨rfl, htail⟩ := List.cons.inj h
          obtain ⟨rfl, rfl⟩ := ih (List.not_mem_of_not_mem_cons hfirst) (List.not_mem_of_not_mem_cons hsecond) htail
          exact ⟨rfl, rfl⟩

/-- So are texts without the separator after the last one. -/
theorem append_separator_inj_last {α : Type} {separator : α} {first second rest others : List α}
    (hrest : separator ∉ rest) (hothers : separator ∉ others)
    (h : first ++ separator :: rest = second ++ separator :: others) : first = second ∧ rest = others := by
  have hreversed := congrArg List.reverse h
  simp only [List.reverse_append, List.reverse_cons, List.append_assoc, List.singleton_append] at hreversed
  obtain ⟨hlast, hfirst⟩ := append_separator_inj (by simpa using hrest) (by simpa using hothers) hreversed
  exact ⟨List.reverse_injective hfirst, List.reverse_injective hlast⟩

/-! ### UTF-8 -/

theorem length_le_utf8ByteSize (s : String) : s.length ≤ s.utf8ByteSize := by
  induction s using String.push_induction with
  | empty => simp
  | push s c ih =>
      rw [String.length_push, String.utf8ByteSize_push]
      exact Nat.add_le_add ih c.utf8Size_pos

/-- `str::as_bytes`. -/
def asBytes (s : String) : List UInt8 := s.toUTF8.data.toList

/-- `str::from_utf8`. -/
def fromUtf8 (bytes : List UInt8) : Option String := String.fromUTF8? ⟨bytes.toArray⟩

theorem fromUtf8_asBytes (s : String) : fromUtf8 (asBytes s) = some s := by
  rw [fromUtf8, asBytes, Array.toArray_toList]
  exact dif_pos s.isValidUTF8

theorem asBytes_append (s t : String) : asBytes (s ++ t) = asBytes s ++ asBytes t := by
  simp [asBytes, String.toUTF8, String.toByteArray_append]

theorem asBytes_inj {s t : String} (h : asBytes s = asBytes t) : s = t := by
  have hread := congrArg fromUtf8 h
  rwa [fromUtf8_asBytes, fromUtf8_asBytes, Option.some.injEq] at hread

/-- A text whose bytes begin another's begins the other. -/
theorem exists_append_of_asBytes {s t : String} {rest : List UInt8} (h : asBytes s ++ rest = asBytes t) :
    ∃ more, t = s ++ more ∧ rest = asBytes more := by
  have hencoded : s.toList.utf8Encode ++ rest.toByteArray = t.toList.utf8Encode := by
    rw [String.utf8Encode_toList, String.utf8Encode_toList]
    apply ByteArray.ext
    rw [← Array.toList_inj]
    simpa [asBytes, String.toUTF8] using h
  obtain ⟨more, hmore⟩ := List.isPrefix_of_utf8Encode_append_eq_utf8Encode _ hencoded
  have ht : t = s ++ String.ofList more := by
    rw [← String.toList_inj, String.toList_append, String.toList_ofList, hmore]
  refine ⟨String.ofList more, ht, ?_⟩
  rw [ht, asBytes_append] at h
  exact List.append_cancel_left h

theorem append_cases_of_asBytes {s t : String} {rest others : List UInt8}
    (h : asBytes s ++ rest = asBytes t ++ others) :
    (∃ more, t = s ++ more ∧ rest = asBytes more ++ others) ∨
      ∃ more, s = t ++ more ∧ others = asBytes more ++ rest := by
  rcases List.append_eq_append_iff.1 h with ⟨middle, ht, hrest⟩ | ⟨middle, hs, hothers⟩
  · obtain ⟨more, rfl, rfl⟩ := exists_append_of_asBytes ht.symm
    exact .inl ⟨more, rfl, hrest⟩
  · obtain ⟨more, rfl, rfl⟩ := exists_append_of_asBytes hs.symm
    exact .inr ⟨more, rfl, hothers⟩

theorem asBytes_cons (c : Char) (cs : List Char) :
    asBytes (String.ofList (c :: cs)) = String.utf8EncodeChar c ++ asBytes (String.ofList cs) := by
  simp [asBytes, String.toUTF8, List.utf8Encode]

/-- ASCII characters are their own bytes. -/
theorem asBytes_ascii {cs : List Char} (h : ∀ c ∈ cs, c.toNat < 128) :
    asBytes (String.ofList cs) = cs.map fun c => UInt8.ofNat c.toNat := by
  induction cs with
  | nil => rfl
  | cons c cs ih =>
      have hc := h c List.mem_cons_self
      have hsize : c.utf8Size = 1 := by
        rw [Char.utf8Size_eq_one_iff]
        exact Nat.le_of_lt_succ hc
      rw [asBytes_cons, String.utf8EncodeChar_eq_singleton hsize, ih fun d hd => h d (List.mem_cons_of_mem c hd)]
      rfl

/-- Numbers are ordered as their digits to the base 64. -/
theorem digits_lt {v w : Nat} (h : v < w) :
    v / 262144 < w / 262144 ∨ v / 262144 = w / 262144 ∧ (v / 4096 % 64 < w / 4096 % 64 ∨
      v / 4096 % 64 = w / 4096 % 64 ∧ (v / 64 % 64 < w / 64 % 64 ∨
        v / 64 % 64 = w / 64 % 64 ∧ v % 64 < w % 64)) := by
  omega

/-- The bytes of a character come before those of every later one, whatever follows. -/
theorem utf8EncodeChar_lt {c d : Char} (h : c < d) (rest others : List UInt8) :
    String.utf8EncodeChar c ++ rest < String.utf8EncodeChar d ++ others := by
  have hlt : c.val.toNat < d.val.toNat := h
  have hvalid : d.val.toNat < 0x110000 := by
    rcases d.valid with hlow | ⟨-, hhigh⟩
    · exact Nat.lt_trans hlow (by decide)
    · exact hhigh
  unfold String.utf8EncodeChar
  generalize c.val.toNat = v at *
  generalize d.val.toNat = w at *
  have hdigits := digits_lt hlt
  dsimp only
  -- Characters of different lengths differ in their first byte; those of one length in a digit.
  split_ifs <;>
    simp only [List.cons_append, List.nil_append, List.cons_lt_cons_iff, UInt8.lt_iff_toNat_lt,
      ← UInt8.toNat_inj, UInt8.toNat_ofNat', Nat.reducePow] <;>
    simp (disch := omega) only [Nat.mod_eq_of_lt, Nat.add_lt_add_iff_right, Nat.add_right_cancel_iff] <;>
    omega

theorem asBytes_ofList_lt {cs ds : List Char} (h : cs < ds) :
    asBytes (String.ofList cs) < asBytes (String.ofList ds) := by
  induction cs generalizing ds with
  | nil =>
      cases ds with
      | nil => cases h
      | cons d ds =>
          rw [asBytes_cons]
          cases hd : String.utf8EncodeChar d with
          | nil => exact absurd hd String.utf8EncodeChar_ne_nil
          | cons b bs => exact List.nil_lt_cons b _
  | cons c cs ih =>
      cases ds with
      | nil => cases h
      | cons d ds =>
          rw [asBytes_cons, asBytes_cons]
          rcases List.cons_lt_cons_iff.mp h with hlt | ⟨rfl, hrest⟩
          · exact utf8EncodeChar_lt hlt _ _
          · exact List.append_left_lt (ih hrest)

/-- The bytes of two texts are ordered as their characters. -/
theorem asBytes_lt_iff {s t : String} : asBytes s < asBytes t ↔ s < t := by
  have hmono : ∀ {s t : String}, s < t → asBytes s < asBytes t := by
    intro s t h
    rw [← String.ofList_toList (s := s), ← String.ofList_toList (s := t)]
    exact asBytes_ofList_lt (String.lt_iff_toList_lt.mp h)
  refine ⟨fun h => ?_, hmono⟩
  rcases lt_trichotomy s t with hlt | rfl | hgt
  · exact hlt
  · exact absurd h (List.lt_irrefl _)
  · exact absurd h (List.lt_asymm (hmono hgt))

theorem ofUInt8_ascii {c : Char} (h : c.toNat < 128) : Char.ofUInt8 (UInt8.ofNat c.toNat) = c := by
  apply Char.toNat_inj.1
  have hvalue : (Char.ofUInt8 (UInt8.ofNat c.toNat)).toNat = (UInt8.ofNat c.toNat).toNat := rfl
  rw [hvalue, UInt8.toNat_ofNat']
  omega

/-! ### Hexadecimal -/

def hexDigit? (c : Char) : Option Nat :=
  if '0' ≤ c ∧ c ≤ '9' then some (c.toNat - '0'.toNat)
  else if 'a' ≤ c ∧ c ≤ 'f' then some (c.toNat - 'a'.toNat + 10)
  else if 'A' ≤ c ∧ c ≤ 'F' then some (c.toNat - 'A'.toNat + 10)
  else none

/-- `hex::decode`, on characters. -/
def hexDecode : List Char → Option (List UInt8)
  | [] => some []
  | [_] => none
  | high :: low :: rest => do
      let byte := 16 * (← hexDigit? high) + (← hexDigit? low)
      some (UInt8.ofNat byte :: (← hexDecode rest))

/-- `hex::encode`. -/
def hexEncode (bytes : List UInt8) : String :=
  String.ofList (bytes.flatMap fun byte => [Nat.digitChar (byte.toNat / 16), Nat.digitChar (byte.toNat % 16)])

theorem hexDigit?_ascii : ∀ n < 128, ∀ d < 16,
    (hexDigit? (Char.ofNat n) = some d ↔ toAsciiLowercase (Char.ofNat n) = Nat.digitChar d) := by
  decide +kernel

theorem hexDigit?_lt : ∀ n < 128, ∀ d, hexDigit? (Char.ofNat n) = some d → d < 16 := by
  have hall : ∀ n < 128, ((hexDigit? (Char.ofNat n)).all fun d => d < 16) = true := by decide +kernel
  intro n hn d hd
  have := hall n hn
  rw [hd, Option.all_some, decide_eq_true_eq] at this
  exact this

/-- A hexadecimal digit of either case has the value its lower case writes. -/
theorem hexDigit?_eq_some_iff {c : Char} {d : Nat} :
    hexDigit? c = some d ↔ d < 16 ∧ toAsciiLowercase c = Nat.digitChar d := by
  by_cases hascii : c.toNat < 128
  · have htable := hexDigit?_ascii c.toNat hascii
    have hvalue := hexDigit?_lt c.toNat hascii
    rw [Char.ofNat_toNat] at htable hvalue
    exact ⟨fun h => ⟨hvalue d h, (htable d (hvalue d h)).1 h⟩, fun ⟨hd, h⟩ => (htable d hd).2 h⟩
  · have habove : ∀ bound : Char, bound.toNat < 128 → ¬c ≤ bound := by
      intro bound hbound hle
      exact hascii (lt_of_le_of_lt hle hbound)
    have hnone : hexDigit? c = none := by
      simp only [hexDigit?, habove _ (show '9'.toNat < 128 by decide), habove _ (show 'f'.toNat < 128 by decide),
        habove _ (show 'F'.toNat < 128 by decide), and_false, if_false]
    have hsame : toAsciiLowercase c = c := by
      simp [toAsciiLowercase, isAsciiUppercase, habove _ (show 'Z'.toNat < 128 by decide)]
    rw [hnone, hsame]
    refine ⟨fun h => (Option.some_ne_none d h.symm).elim, ?_⟩
    rintro ⟨hd, rfl⟩
    exact absurd ((show ∀ d < 16, (Nat.digitChar d).toNat < 128 by decide) d hd) hascii

/-- What decodes to some bytes: their encoding, in either case. -/
theorem hexDecode_eq_some_iff {digits : List Char} {bytes : List UInt8} :
    hexDecode digits = some bytes ↔ digits.map toAsciiLowercase = (hexEncode bytes).toList := by
  rw [hexEncode, String.toList_ofList]
  induction digits using hexDecode.induct generalizing bytes with
  | case1 =>
      cases bytes with
      | nil => simp [hexDecode]
      | cons byte bytes => simp [hexDecode]
  | case2 c =>
      cases bytes with
      | nil => simp [hexDecode]
      | cons byte bytes => simp [hexDecode]
  | case3 high low rest ih =>
      cases bytes with
      | nil => simp [hexDecode, Option.bind_eq_some_iff]
      | cons byte bytes =>
          have hhigh : byte.toNat / 16 < 16 := by have := byte.toNat_lt; omega
          have hlow : byte.toNat % 16 < 16 := Nat.mod_lt _ (by decide)
          simp only [hexDecode, List.map_cons, List.flatMap_cons, List.cons_append, List.nil_append,
            List.cons.injEq, Option.bind_eq_bind, Option.bind_eq_some_iff, Option.some.injEq, ← ih]
          constructor
          · rintro ⟨h, hh, l, hl, others, hothers, rfl, rfl⟩
            obtain ⟨hh16, hhc⟩ := hexDigit?_eq_some_iff.1 hh
            obtain ⟨hl16, hlc⟩ := hexDigit?_eq_some_iff.1 hl
            have hvalue : (UInt8.ofNat (16 * h + l)).toNat = 16 * h + l := by
              rw [UInt8.toNat_ofNat']
              omega
            rw [hvalue, show (16 * h + l) / 16 = h by omega, show (16 * h + l) % 16 = l by omega]
            exact ⟨hhc, hlc, hothers⟩
          · rintro ⟨hh, hl, hrest⟩
            refine ⟨_, hexDigit?_eq_some_iff.2 ⟨hhigh, hh⟩, _, hexDigit?_eq_some_iff.2 ⟨hlow, hl⟩, bytes, hrest,
              ?_, rfl⟩
            rw [Nat.div_add_mod, UInt8.ofNat_toNat]

theorem hexDecode_hexEncode (bytes : List UInt8) : hexDecode (hexEncode bytes).toList = some bytes := by
  rw [hexDecode_eq_some_iff, hexEncode, String.toList_ofList]
  have hlower : ∀ d < 16, toAsciiLowercase (Nat.digitChar d) = Nat.digitChar d := by decide
  refine (List.map_congr_left fun c hc => ?_).trans (List.map_id _)
  obtain ⟨byte, -, hmem⟩ := List.mem_flatMap.1 hc
  have hbyte := byte.toNat_lt
  simp only [List.mem_cons, List.not_mem_nil, or_false] at hmem
  rcases hmem with rfl | rfl
  · exact hlower _ (by omega)
  · exact hlower _ (by omega)

end TextRust
