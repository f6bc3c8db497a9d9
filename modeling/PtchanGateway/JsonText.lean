import PtchanGateway.JsonValue
import PtchanGateway.TextRust

/-! JSON texts: a compact writer and a reader of the whole grammar, which keeps the last of several members
of one name, orders members by name and gives up at 128 levels of nesting. Reading what was written gives
the value back. -/

namespace JsonText

open JsonValue TextRust

/-- A character inside a string. -/
def escape (c : Char) : List Char :=
  if c = '"' then ['\\', '"']
  else if c = '\\' then ['\\', '\\']
  else if c = '\x08' then ['\\', 'b']
  else if c = '\x0c' then ['\\', 'f']
  else if c = '\n' then ['\\', 'n']
  else if c = '\r' then ['\\', 'r']
  else if c = '\t' then ['\\', 't']
  else if c.toNat < 32 then ['\\', 'u', '0', '0', Nat.digitChar (c.toNat / 16), Nat.digitChar (c.toNat % 16)]
  else [c]

def quoted (s : String) : List Char := '"' :: (s.toList.flatMap escape ++ ['"'])

def numberText : Number → List Char
  | .int n => if n < 0 then '-' :: Nat.toDigits 10 n.natAbs else Nat.toDigits 10 n.natAbs
  | .float literal => literal.toList

mutual

def text : Json → List Char
  | .null => ['n', 'u', 'l', 'l']
  | .bool true => ['t', 'r', 'u', 'e']
  | .bool false => ['f', 'a', 'l', 's', 'e']
  | .num n => numberText n
  | .str s => quoted s
  | .arr [] => ['[', ']']
  | .arr (value :: values) => '[' :: (text value ++ textList values)
  | .obj [] => ['\x7b', '\x7d']
  | .obj ((key, value) :: members) => '\x7b' :: (quoted key ++ ':' :: (text value ++ textMembers members))

/-- The elements after the first. -/
def textList : List Json → List Char
  | [] => [']']
  | value :: values => ',' :: (text value ++ textList values)

/-- The members after the first. -/
def textMembers : List (String × Json) → List Char
  | [] => ['\x7d']
  | (key, value) :: members => ',' :: (quoted key ++ ':' :: (text value ++ textMembers members))

end

/-! ### Reading -/

def isBlank (c : Char) : Bool := c == ' ' || c == '\n' || c == '\t' || c == '\r'

def skip (text : List Char) : List Char := text.dropWhile isBlank

def readHex : List Char → Option (Nat × List Char)
  | a :: b :: c :: d :: rest => do
      some (16 ^ 3 * (← hexDigit? a) + 16 ^ 2 * (← hexDigit? b) + 16 * (← hexDigit? c) + (← hexDigit? d), rest)
  | _ => none

/-- The code unit after `\u`; a high surrogate is followed by a low one. -/
def readUnicode (rest : List Char) : Option (Char × List Char) := do
  let (unit, rest) ← readHex rest
  if 0xD800 ≤ unit ∧ unit < 0xDC00 then
    match rest with
    | '\\' :: 'u' :: rest => do
        let (low, rest) ← readHex rest
        if 0xDC00 ≤ low ∧ low < 0xE000 then
          some (Char.ofNat (0x10000 + (unit - 0xD800) * 0x400 + (low - 0xDC00)), rest)
        else none
    | _ => none
  else if 0xDC00 ≤ unit ∧ unit < 0xE000 then none
  else some (Char.ofNat unit, rest)

/-- What a backslash stands before. -/
def readEscape : List Char → Option (Char × List Char)
  | [] => none
  | c :: rest =>
      if c = 'u' then readUnicode rest
      else if c = '"' ∨ c = '\\' ∨ c = '/' then some (c, rest)
      else if c = 'b' then some ('\x08', rest)
      else if c = 'f' then some ('\x0c', rest)
      else if c = 'n' then some ('\n', rest)
      else if c = 'r' then some ('\r', rest)
      else if c = 't' then some ('\t', rest)
      else none

/-- The characters up to the closing quote. -/
def readChars : Nat → List Char → Option (List Char × List Char)
  | 0, _ => none
  | _ + 1, [] => none
  | fuel + 1, c :: rest =>
      if c = '"' then some ([], rest)
      else if c = '\\' then do
        let (d, rest) ← readEscape rest
        let (ds, rest) ← readChars fuel rest
        some (d :: ds, rest)
      else if c.toNat < 32 then none
      else do
        let (ds, rest) ← readChars fuel rest
        some (c :: ds, rest)

def readQuoted : List Char → Option (String × List Char)
  | '"' :: rest => (readChars (rest.length + 1) rest).map fun (cs, rest) => (String.ofList cs, rest)
  | _ => none

def isNumberChar (c : Char) : Bool := c.isDigit || c == '-' || c == '+' || c == '.' || c == 'e' || c == 'E'

/-- An integer part has no leading zero. -/
def isWhole (digits : List Char) : Bool :=
  !digits.isEmpty && digits.all Char.isDigit && (digits.head? != some '0' || digits.length == 1)

def isExponent : List Char → Bool
  | [] => true
  | c :: rest =>
      let digits := match rest with
        | '+' :: digits => digits
        | '-' :: digits => digits
        | digits => digits
      (c == 'e' || c == 'E') && !digits.isEmpty && digits.all Char.isDigit

def isFraction : List Char → Bool
  | '.' :: rest => !(rest.takeWhile Char.isDigit).isEmpty && isExponent (rest.dropWhile Char.isDigit)
  | rest => isExponent rest

def isFloat (token : List Char) : Bool :=
  isWhole (token.takeWhile Char.isDigit) && isFraction (token.dropWhile Char.isDigit)

def signed : List Char → Bool × List Char
  | '-' :: digits => (true, digits)
  | digits => (false, digits)

/-- A number is an integer when it has no fraction or exponent and 64 bits hold it. -/
def toNumber (token : List Char) : Option Number :=
  let (negative, digits) := signed token
  let magnitude := Nat.ofDigitChars 10 digits 0
  if isWhole digits then
    if negative then
      if magnitude = 0 ∨ 2 ^ 63 < magnitude then some (.float (String.ofList token))
      else some (.int (-magnitude))
    else if magnitude < 2 ^ 64 then some (.int magnitude)
    else some (.float (String.ofList token))
  else if isFloat digits then some (.float (String.ofList token))
  else none

def readLiteral (word : List Char) (value : Json) (text : List Char) : Option (Json × List Char) :=
  if word.isPrefixOf text then some (value, text.drop word.length) else none

/-- Of several members of one name the last counts. -/
def lastOfEach : List (String × Json) → List (String × Json)
  | [] => []
  | (key, value) :: members =>
      if key ∈ members.map Prod.fst then lastOfEach members else (key, value) :: lastOfEach members

def toMap (members : List (String × Json)) : Json :=
  .obj ((lastOfEach members).insertionSort fun left right => left.1 ≤ right.1)

def readKey (text : List Char) : Option (String × List Char) := do
  let (key, rest) ← readQuoted (skip text)
  match skip rest with
  | ':' :: rest => some (key, rest)
  | _ => none

mutual

/-- A value and the text after it; `levels` more levels of nesting are allowed. -/
def readValue : Nat → Nat → List Char → Option (Json × List Char)
  | 0, _, _ => none
  | fuel + 1, levels, text =>
      match skip text with
      | [] => none
      | c :: rest =>
          if c = '"' then (readQuoted (c :: rest)).map fun (s, rest) => (.str s, rest)
          else if c = '[' then readArray fuel levels rest
          else if c = '\x7b' then readObject fuel levels rest
          else if c = 'n' then readLiteral ['n', 'u', 'l', 'l'] .null (c :: rest)
          else if c = 't' then readLiteral ['t', 'r', 'u', 'e'] (.bool true) (c :: rest)
          else if c = 'f' then readLiteral ['f', 'a', 'l', 's', 'e'] (.bool false) (c :: rest)
          else (toNumber ((c :: rest).takeWhile isNumberChar)).map fun n =>
            (.num n, (c :: rest).dropWhile isNumberChar)

def readArray : Nat → Nat → List Char → Option (Json × List Char)
  | fuel + 1, levels + 1, text =>
      match skip text with
      | ']' :: rest => some (.arr [], rest)
      | text => do
          let (value, rest) ← readValue fuel levels text
          let (values, rest) ← readList fuel levels rest
          some (.arr (value :: values), rest)
  | _, _, _ => none

def readObject : Nat → Nat → List Char → Option (Json × List Char)
  | fuel + 1, levels + 1, text =>
      match skip text with
      | '\x7d' :: rest => some (.obj [], rest)
      | text => do
          let (key, rest) ← readKey text
          let (value, rest) ← readValue fuel levels rest
          let (members, rest) ← readMembers fuel levels rest
          some (toMap ((key, value) :: members), rest)
  | _, _, _ => none

def readList : Nat → Nat → List Char → Option (List Json × List Char)
  | 0, _, _ => none
  | fuel + 1, levels, text =>
      match skip text with
      | ']' :: rest => some ([], rest)
      | ',' :: rest => do
          let (value, rest) ← readValue fuel levels rest
          let (values, rest) ← readList fuel levels rest
          some (value :: values, rest)
      | _ => none

def readMembers : Nat → Nat → List Char → Option (List (String × Json) × List Char)
  | 0, _, _ => none
  | fuel + 1, levels, text =>
      match skip text with
      | '\x7d' :: rest => some ([], rest)
      | ',' :: rest => do
          let (key, rest) ← readKey rest
          let (value, rest) ← readValue fuel levels rest
          let (members, rest) ← readMembers fuel levels rest
          some ((key, value) :: members, rest)
      | _ => none

end

def read (text : List Char) : Except String Json :=
  match readValue (2 * text.length + 2) 127 text with
  | none => .error "expected value"
  | some (value, rest) => if (skip rest).isEmpty then .ok value else .error "trailing characters"

/-! ### Reading back -/

theorem hexDigit?_digitChar : ∀ d < 16, hexDigit? (Nat.digitChar d) = some d := by decide

/-- An escape of two digits stands for its character. -/
theorem readEscape_short {c : Char} (rest : List Char) (hc : c.toNat < 256) :
    readEscape ('u' :: '0' :: '0' :: Nat.digitChar (c.toNat / 16) :: Nat.digitChar (c.toNat % 16) :: rest) =
      some (c, rest) := by
  have hhigh := hexDigit?_digitChar (c.toNat / 16) (by omega)
  have hlow := hexDigit?_digitChar (c.toNat % 16) (by omega)
  have hzero : hexDigit? '0' = some 0 := by decide
  have hunit : 16 ^ 3 * 0 + 16 ^ 2 * 0 + 16 * (c.toNat / 16) + c.toNat % 16 = c.toNat := by omega
  have hplane : ¬(0xD800 ≤ c.toNat ∧ c.toNat < 0xDC00) := by omega
  have htail : ¬(0xDC00 ≤ c.toNat ∧ c.toNat < 0xE000) := by omega
  simp only [readEscape, if_true, readUnicode, readHex, hzero, hhigh, hlow, Option.bind_eq_bind,
    Option.bind_some, hunit, if_neg hplane, if_neg htail, Char.ofNat_toNat]

theorem readChars_escape (fuel : Nat) (c : Char) (rest : List Char) :
    readChars (fuel + 1) (escape c ++ rest) =
      (readChars fuel rest).bind fun (cs, rest) => some (c :: cs, rest) := by
  unfold escape
  by_cases hquote : c = '"'
  · subst hquote
    simp [readChars, readEscape]
  by_cases hslash : c = '\\'
  · subst hslash
    simp [readChars, readEscape]
  by_cases hb : c = '\x08'
  · subst hb
    simp [readChars, readEscape]
  by_cases hf : c = '\x0c'
  · subst hf
    simp [readChars, readEscape]
  by_cases hn : c = '\n'
  · subst hn
    simp [readChars, readEscape]
  by_cases hr : c = '\r'
  · subst hr
    simp [readChars, readEscape]
  by_cases ht : c = '\t'
  · subst ht
    simp [readChars, readEscape]
  rw [if_neg hquote, if_neg hslash, if_neg hb, if_neg hf, if_neg hn, if_neg hr, if_neg ht]
  by_cases hcontrol : c.toNat < 32
  · rw [if_pos hcontrol]
    simp only [List.cons_append, List.nil_append, readChars]
    rw [if_neg (by decide), if_pos trivial, readEscape_short _ (by omega)]
    rfl
  · rw [if_neg hcontrol]
    simp only [List.cons_append, List.nil_append, readChars]
    rw [if_neg hquote, if_neg hslash, if_neg hcontrol]
    rfl

theorem readChars_quoted (cs rest : List Char) :
    ∀ fuel, cs.length < fuel → readChars fuel (cs.flatMap escape ++ '"' :: rest) = some (cs, rest) := by
  induction cs with
  | nil =>
      intro fuel hfuel
      obtain ⟨fuel, rfl⟩ := Nat.exists_eq_succ_of_ne_zero (Nat.pos_iff_ne_zero.1 hfuel)
      simp [readChars]
  | cons c cs ih =>
      intro fuel hfuel
      obtain ⟨fuel, rfl⟩ := Nat.exists_eq_succ_of_ne_zero (Nat.ne_of_gt (Nat.lt_of_le_of_lt (Nat.zero_le _) hfuel))
      rw [List.flatMap_cons, List.append_assoc, readChars_escape, ih fuel (Nat.lt_of_succ_lt_succ hfuel)]
      rfl

theorem length_le_flatMap_escape (cs : List Char) : cs.length ≤ (cs.flatMap escape).length := by
  induction cs with
  | nil => exact Nat.le_refl _
  | cons c cs ih =>
      have hc : 1 ≤ (escape c).length := by
        unfold escape
        grind
      rw [List.flatMap_cons, List.length_append, List.length_cons]
      omega

theorem readQuoted_quoted (s : String) (rest : List Char) : readQuoted (quoted s ++ rest) = some (s, rest) := by
  have hlength : s.toList.length < (s.toList.flatMap escape ++ '"' :: rest).length + 1 := by
    have hle := length_le_flatMap_escape s.toList
    rw [List.length_append]
    omega
  simp only [quoted, List.cons_append, List.append_assoc, List.nil_append, readQuoted,
    readChars_quoted _ _ _ hlength, Option.map_some, String.ofList_toList]

theorem head?_toDigits {n : Nat} (h : 0 < n) : (Nat.toDigits 10 n).head? ≠ some '0' := by
  induction n using Nat.strongRecOn with
  | ind n ih =>
      rw [Nat.toDigits_eq_if (by decide)]
      split_ifs with hn
      · have hdigit : ∀ d < 10, 0 < d → [Nat.digitChar d].head? ≠ some '0' := by decide
        exact hdigit n hn h
      · rw [List.head?_append_of_ne_nil _ Nat.toDigits_ne_nil]
        exact ih (n / 10) (by omega) (by omega)

theorem isWhole_toDigits (n : Nat) : isWhole (Nat.toDigits 10 n) = true := by
  have hne : (Nat.toDigits 10 n).isEmpty = false := by simp
  have hall : (Nat.toDigits 10 n).all Char.isDigit = true :=
    List.all_eq_true.2 fun c hc => Nat.isDigit_of_mem_toDigits (by decide) (by decide) hc
  have hhead : ((Nat.toDigits 10 n).head? != some '0' || (Nat.toDigits 10 n).length == 1) = true := by
    rcases Nat.eq_zero_or_pos n with rfl | hn
    · decide
    · rw [Bool.or_eq_true, bne_iff_ne]
      exact .inl (head?_toDigits hn)
  rw [isWhole, hne, hall, hhead]
  rfl

theorem signed_toDigits (n : Nat) : signed (Nat.toDigits 10 n) = (false, Nat.toDigits 10 n) := by
  have hminus : ∀ digits, Nat.toDigits 10 n ≠ '-' :: digits := by
    intro digits h
    have hdigit : Char.isDigit '-' = true :=
      Nat.isDigit_of_mem_toDigits (by decide) (by decide) (h ▸ List.mem_cons_self)
    exact absurd hdigit (by decide)
  rw [signed.eq_def]
  split
  · rename_i digits h
    exact absurd h (hminus digits)
  · rfl

theorem toNumber_numberText {n : Int} (hlow : -2 ^ 63 ≤ n) (hhigh : n < 2 ^ 64) :
    toNumber (numberText (.int n)) = some (.int n) := by
  rw [numberText]
  by_cases hn : n < 0
  · have hmagnitude : ¬(n.natAbs = 0 ∨ 2 ^ 63 < n.natAbs) := by omega
    have hvalue : -(n.natAbs : Int) = n := by omega
    simp only [if_pos hn, toNumber, signed, Nat.ofDigitChars_ten_toDigits, isWhole_toDigits, if_true,
      if_neg hmagnitude, hvalue]
  · have hmagnitude : n.natAbs < 2 ^ 64 := by omega
    have hvalue : (n.natAbs : Int) = n := by omega
    simp only [if_neg hn, toNumber, signed_toDigits, Nat.ofDigitChars_ten_toDigits, isWhole_toDigits,
      if_true, if_pos hmagnitude, hvalue, Bool.false_eq_true, if_false]

theorem isNumberChar_of_mem_numberText {n : Int} {c : Char} (hc : c ∈ numberText (.int n)) :
    isNumberChar c = true := by
  have hdigit : c ∈ Nat.toDigits 10 n.natAbs → isNumberChar c = true := fun hmem => by
    rw [isNumberChar, Nat.isDigit_of_mem_toDigits (by decide) (by decide) hmem]
    rfl
  rw [numberText] at hc
  split_ifs at hc
  · rcases List.mem_cons.1 hc with rfl | hmem
    · rfl
    · exact hdigit hmem
  · exact hdigit hc

/-- The text after a value does not go on with a number. -/
def Ends (rest : List Char) : Prop := ∀ c cs, rest = c :: cs → isNumberChar c = false

theorem Ends.nil : Ends [] := by
  intro c cs h
  cases h

theorem Ends.cons {c : Char} {cs : List Char} (h : isNumberChar c = false) : Ends (c :: cs) := by
  intro d ds hd
  cases hd
  exact h

theorem Ends.textList (values : List Json) (rest : List Char) : Ends (textList values ++ rest) := by
  cases values with
  | nil => exact .cons rfl
  | cons value values => exact .cons rfl

theorem Ends.textMembers (members : List (String × Json)) (rest : List Char) :
    Ends (textMembers members ++ rest) := by
  cases members with
  | nil => exact .cons rfl
  | cons member members => exact .cons rfl

theorem takeWhile_of_ends {token rest : List Char} (htoken : ∀ c ∈ token, isNumberChar c = true)
    (hrest : Ends rest) :
    (token ++ rest).takeWhile isNumberChar = token ∧ (token ++ rest).dropWhile isNumberChar = rest := by
  have hstop : rest.takeWhile isNumberChar = [] ∧ rest.dropWhile isNumberChar = rest := by
    cases rest with
    | nil => exact ⟨rfl, rfl⟩
    | cons c cs =>
        have hc := hrest c cs rfl
        rw [List.takeWhile_cons, List.dropWhile_cons, hc]
        exact ⟨rfl, rfl⟩
  rw [List.takeWhile_append_of_pos htoken, List.dropWhile_append_of_pos htoken, hstop.1, hstop.2]
  exact ⟨List.append_nil _, rfl⟩

theorem text_head : ∀ value : Json, plain value = true →
    ∃ c cs, text value = c :: cs ∧ isBlank c = false ∧ c ≠ ']'
  | .null, _ => ⟨'n', _, rfl, by decide, by decide⟩
  | .bool true, _ => ⟨'t', _, rfl, by decide, by decide⟩
  | .bool false, _ => ⟨'f', _, rfl, by decide, by decide⟩
  | .num (.float _), h => by cases h
  | .num (.int n), _ => by
      have hne : numberText (.int n) ≠ [] := by
        rw [numberText]
        split_ifs
        · exact List.cons_ne_nil _ _
        · exact Nat.toDigits_ne_nil
      obtain ⟨c, cs, hcs⟩ := List.exists_cons_of_ne_nil hne
      have hc : isNumberChar c = true :=
        isNumberChar_of_mem_numberText (hcs ▸ List.mem_cons_self)
      refine ⟨c, cs, by rw [text, hcs], ?_, ?_⟩
      · by_contra hblank
        simp only [isBlank, Bool.not_eq_false, Bool.or_eq_true, beq_iff_eq] at hblank
        rcases hblank with ((rfl | rfl) | rfl) | rfl <;> exact absurd hc (by decide)
      · rintro rfl
        exact absurd hc (by decide)
  | .str _, _ => ⟨'"', _, rfl, by decide, by decide⟩
  | .arr [], _ => ⟨'[', _, rfl, by decide, by decide⟩
  | .arr (_ :: _), _ => ⟨'[', _, by rw [text], by decide, by decide⟩
  | .obj [], _ => ⟨'\x7b', _, rfl, by decide, by decide⟩
  | .obj (_ :: _), _ => ⟨'\x7b', _, by rw [text], by decide, by decide⟩

theorem skip_cons {c : Char} {cs : List Char} (h : isBlank c = false) : skip (c :: cs) = c :: cs := by
  rw [skip, List.dropWhile_cons, h]
  rfl

theorem readKey_quoted (key : String) (rest : List Char) :
    readKey (quoted key ++ ':' :: rest) = some (key, rest) := by
  have hskip : skip (quoted key ++ ':' :: rest) = quoted key ++ ':' :: rest := skip_cons (by decide)
  simp only [readKey, hskip, readQuoted_quoted, Option.bind_eq_bind, Option.bind_some,
    skip_cons (c := ':') (by decide)]

theorem lastOfEach_of_nodup {members : List (String × Json)} (h : (members.map Prod.fst).Nodup) :
    lastOfEach members = members := by
  induction members with
  | nil => rfl
  | cons member members ih =>
      obtain ⟨key, value⟩ := member
      rw [List.map_cons, List.nodup_cons] at h
      rw [lastOfEach, if_neg h.1, ih h.2]

theorem map_fst_sortedMembers (members : List (String × Json)) :
    (sortedMembers members).map Prod.fst = members.map Prod.fst := by
  induction members with
  | nil => rfl
  | cons member members ih => rw [sortedMembers, List.map_cons, List.map_cons, ih]

theorem toMap_sortedMembers {members : List (String × Json)} (h : (members.map Prod.fst).Nodup) :
    toMap (sortedMembers members) = sorted (.obj members) := by
  rw [toMap, lastOfEach_of_nodup (by rwa [map_fst_sortedMembers]), sorted]

section Values

variable {fuel levels : Nat} {rest : List Char}

theorem readValue_number {n : Int} (h : plain (.num (.int n)) = true) (hrest : Ends rest) :
    readValue (fuel + 1) levels (text (.num (.int n)) ++ rest) = some (sorted (.num (.int n)), rest) := by
  have hrange : -2 ^ 63 ≤ n ∧ n < 2 ^ 64 := by simpa [plain] using h
  obtain ⟨c, cs, hcs, hblank, -⟩ := text_head (.num (.int n)) h
  rw [text] at hcs ⊢
  have hchars : ∀ d ∈ numberText (.int n), isNumberChar d = true :=
    fun _ hd => isNumberChar_of_mem_numberText hd
  have hspan := takeWhile_of_ends hchars hrest
  have hne : ∀ d, isNumberChar d = false → c ≠ d := by
    rintro d hd rfl
    rw [hchars c (hcs ▸ List.mem_cons_self)] at hd
    cases hd
  rw [hcs, List.cons_append] at hspan ⊢
  rw [readValue, skip_cons hblank]
  simp only
  rw [if_neg (hne _ rfl), if_neg (hne _ rfl), if_neg (hne _ rfl), if_neg (hne _ rfl), if_neg (hne _ rfl),
    if_neg (hne _ rfl), hspan.1, hspan.2, ← hcs, toNumber_numberText hrange.1 hrange.2]
  rfl

theorem readValue_string (s : String) :
    readValue (fuel + 1) levels (text (.str s) ++ rest) = some (sorted (.str s), rest) := by
  have hskip : skip (quoted s ++ rest) = quoted s ++ rest := skip_cons (by decide)
  have hread := readQuoted_quoted s rest
  rw [text, readValue, hskip]
  rw [quoted, List.cons_append] at hread ⊢
  simp only
  rw [if_pos trivial, hread]
  rfl

/-- An array is read once its first value and the values after it are. -/
theorem readArray_text {value first : Json} {values : List Json} {tail : List Char} (h : plain value = true)
    (hvalue : readValue fuel levels (text value ++ tail) = some (first, tail))
    (hvalues : readList fuel levels tail = some (values, rest)) :
    readArray (fuel + 1) (levels + 1) (text value ++ tail) = some (.arr (first :: values), rest) := by
  obtain ⟨c, cs, hcs, hblank, hclose⟩ := text_head value h
  have hskip : skip (text value ++ tail) = text value ++ tail := by
    rw [hcs]
    exact skip_cons hblank
  rw [readArray, hskip]
  split
  · rename_i heq
    rw [hcs] at heq
    exact absurd (List.cons.inj heq).1 hclose
  · rw [hvalue]
    simp only [Option.bind_eq_bind, Option.bind_some, hvalues]

/-- An object is read once the value of its first member and the members after it are. -/
theorem readObject_text {key : String} {value first : Json} {members : List (String × Json)} {tail : List Char}
    (hvalue : readValue fuel levels (text value ++ tail) = some (first, tail))
    (hmembers : readMembers fuel levels tail = some (members, rest)) :
    readObject (fuel + 1) (levels + 1) (quoted key ++ ':' :: (text value ++ tail)) =
      some (toMap ((key, first) :: members), rest) := by
  rw [readObject, show skip (quoted key ++ _) = quoted key ++ _ from skip_cons (by decide)]
  split
  · rename_i heq
    exact absurd (List.cons.inj heq).1 (by decide)
  · rw [readKey_quoted]
    simp only [Option.bind_eq_bind, Option.bind_some, hvalue, hmembers]

end Values

/-! Each reader takes two steps of fuel for each character at most. -/

mutual

theorem readValue_text : ∀ (value : Json) (fuel levels : Nat) (rest : List Char), plain value = true →
    depth value ≤ levels → 2 * (text value).length < fuel → Ends rest →
    readValue fuel levels (text value ++ rest) = some (sorted value, rest)
  | .null, fuel + 1, _, _, _, _, _, _ => by
      simp [text, readValue, skip_cons (c := 'n') (by decide), readLiteral, sorted]
  | .bool true, fuel + 1, _, _, _, _, _, _ => by
      simp [text, readValue, skip_cons (c := 't') (by decide), readLiteral, sorted]
  | .bool false, fuel + 1, _, _, _, _, _, _ => by
      simp [text, readValue, skip_cons (c := 'f') (by decide), readLiteral, sorted]
  | .num (.float _), _, _, _, h, _, _, _ => by cases h
  | .num (.int _), _ + 1, _, _, h, _, _, hrest => readValue_number h hrest
  | .str s, _ + 1, _, _, _, _, _, _ => readValue_string s
  | .arr [], fuel + 2, levels + 1, rest, _, _, _, _ => by
      simp [text, readValue, skip_cons (c := '[') (by decide), readArray, skip_cons (c := ']') (by decide),
        sorted, sortedList]
  | .arr (value :: values), fuel + 2, levels + 1, rest, h, hdepth, hfuel, _ => by
      simp only [plain, plainList, Bool.and_eq_true] at h
      simp only [depth, depthList, Nat.add_le_add_iff_right, Nat.max_le] at hdepth
      simp only [text, List.length_cons, List.length_append] at hfuel
      have hvalue := readValue_text value fuel levels (textList values ++ rest) h.1 hdepth.1 (by omega)
        (.textList values rest)
      have hvalues := readList_textList values fuel levels rest h.2 hdepth.2 (by omega)
      rw [text, List.cons_append, List.append_assoc, readValue, skip_cons (by decide), sorted, sortedList]
      simp only
      rw [if_neg (by decide), if_pos trivial, readArray_text h.1 hvalue hvalues]
  | .obj [], fuel + 2, levels + 1, rest, _, _, _, _ => by
      simp [text, readValue, skip_cons (c := '\x7b') (by decide), readObject, skip_cons (c := '\x7d') (by decide),
        sorted, sortedMembers]
  | .obj ((key, value) :: members), fuel + 2, levels + 1, rest, h, hdepth, hfuel, _ => by
      simp only [plain, plainMembers, Bool.and_eq_true, decide_eq_true_eq] at h
      simp only [depth, depthMembers, Nat.add_le_add_iff_right, Nat.max_le] at hdepth
      simp only [text, List.length_cons, List.length_append] at hfuel
      have hvalue := readValue_text value fuel levels (textMembers members ++ rest) h.2.1 hdepth.1 (by omega)
        (.textMembers members rest)
      have hmembers := readMembers_textMembers members fuel levels rest h.2.2 hdepth.2 (by omega)
      rw [text, List.cons_append, List.append_assoc, List.cons_append, List.append_assoc, readValue,
        skip_cons (by decide), ← toMap_sortedMembers h.1]
      simp only
      rw [if_neg (by decide), if_neg (by decide), if_pos trivial, readObject_text hvalue hmembers, sortedMembers]

theorem readList_textList : ∀ (values : List Json) (fuel levels : Nat) (rest : List Char),
    plainList values = true → depthList values ≤ levels → 2 * (textList values).length < fuel →
    readList fuel levels (textList values ++ rest) = some (sortedList values, rest)
  | [], fuel + 1, _, _, _, _, _ => by
      simp [textList, readList, skip_cons (c := ']') (by decide), sortedList]
  | value :: values, fuel + 1, levels, rest, h, hdepth, hfuel => by
      simp only [plainList, Bool.and_eq_true] at h
      simp only [depthList, Nat.max_le] at hdepth
      simp only [textList, List.length_cons, List.length_append] at hfuel
      have hvalue := readValue_text value fuel levels (textList values ++ rest) h.1 hdepth.1 (by omega)
        (.textList values rest)
      have hvalues := readList_textList values fuel levels rest h.2 hdepth.2 (by omega)
      rw [textList, List.cons_append, List.append_assoc, readList, skip_cons (by decide)]
      simp only [hvalue, Option.bind_eq_bind, Option.bind_some, hvalues, sortedList]

theorem readMembers_textMembers : ∀ (members : List (String × Json)) (fuel levels : Nat) (rest : List Char),
    plainMembers members = true → depthMembers members ≤ levels → 2 * (textMembers members).length < fuel →
    readMembers fuel levels (textMembers members ++ rest) = some (sortedMembers members, rest)
  | [], fuel + 1, _, _, _, _, _ => by
      simp [textMembers, readMembers, skip_cons (c := '\x7d') (by decide), sortedMembers]
  | (key, value) :: members, fuel + 1, levels, rest, h, hdepth, hfuel => by
      simp only [plainMembers, Bool.and_eq_true] at h
      simp only [depthMembers, Nat.max_le] at hdepth
      simp only [textMembers, List.length_cons, List.length_append] at hfuel
      have hvalue := readValue_text value fuel levels (textMembers members ++ rest) h.1 hdepth.1 (by omega)
        (.textMembers members rest)
      have hmembers := readMembers_textMembers members fuel levels rest h.2 hdepth.2 (by omega)
      rw [textMembers, List.cons_append, List.append_assoc, List.cons_append, List.append_assoc, readMembers,
        skip_cons (by decide)]
      simp only [readKey_quoted, hvalue, Option.bind_eq_bind, Option.bind_some, hmembers, sortedMembers]

end

theorem read_text {value : Json} (h : plain value = true) (hdepth : depth value < 128) :
    read (text value) = .ok (sorted value) := by
  have hread := readValue_text value (2 * (text value).length + 2) 127 [] h (by omega) (by omega) .nil
  rw [List.append_nil] at hread
  rw [read, hread]
  rfl

/-- The texts as bytes in UTF-8. -/
def codec : Codec where
  write value := asBytes (String.ofList (text value))
  read bytes :=
    match fromUtf8 bytes with
    | none => .error "invalid unicode code point"
    | some s => read s.toList
  read_write value h hdepth := by
    rw [fromUtf8_asBytes]
    simp only [String.toList_ofList, read_text h hdepth]

end JsonText
