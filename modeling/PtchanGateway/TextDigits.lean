import Mathlib.Data.List.Lex
import Mathlib.Data.String.Basic
import Mathlib.Data.Nat.Digits.Defs
import Mathlib.Order.Lattice
import Mathlib.Tactic.IntervalCases
import Mathlib.Tactic.Ring

/-! Fixed-width decimal fields and the order of the texts made of them. Texts are lists of characters
compared lexicographically, which is the order of their UTF-8 bytes. A text of fixed-width fields
with fixed separators is ordered as the list of its numbers. -/

namespace TextDigits

theorem append_lt_append_iff {α : Type} [LinearOrder α] {a b x y : List α}
    (hlen : a.length = b.length) : a ++ x < b ++ y ↔ a < b ∨ a = b ∧ x < y := by
  induction a generalizing b with
  | nil =>
      have hb : b = [] := List.length_eq_zero_iff.mp hlen.symm
      subst hb
      simp
  | cons c a ih =>
      cases b with
      | nil => simp at hlen
      | cons d b =>
          have htail := ih (b := b) (by simpa using hlen)
          simp only [List.cons_append, List.cons_lt_cons_iff, htail, List.cons.injEq]
          tauto

/-- The last `width` decimal digits of a number, padded with zeros. -/
def pad : Nat → Nat → List Char
  | 0, _ => []
  | width + 1, n => pad width (n / 10) ++ [Nat.digitChar (n % 10)]

@[simp] theorem pad_length (width n : Nat) : (pad width n).length = width := by
  induction width generalizing n with
  | zero => rfl
  | succ width ih => simp [pad, ih]

theorem digitChar_lt_iff : ∀ d < 10, ∀ e < 10, (Nat.digitChar d < Nat.digitChar e ↔ d < e) := by
  decide

theorem digitChar_inj : ∀ d < 10, ∀ e < 10, (Nat.digitChar d = Nat.digitChar e ↔ d = e) := by
  decide

theorem pad_inj {width n m : Nat} (hn : n < 10 ^ width) (hm : m < 10 ^ width)
    (h : pad width n = pad width m) : n = m := by
  induction width generalizing n m with
  | zero => simp only [pow_zero, Nat.lt_one_iff] at hn hm; omega
  | succ width ih =>
      rw [pow_succ] at hn hm
      obtain ⟨hhigh, hlow⟩ := List.append_inj h (by simp)
      have hdiv := ih (by omega) (by omega) hhigh
      have hmod := (digitChar_inj _ (Nat.mod_lt n (by decide)) _ (Nat.mod_lt m (by decide))).mp
        (List.singleton_inj.mp hlow)
      omega

theorem pad_lt_iff {width n m : Nat} (hn : n < 10 ^ width) (hm : m < 10 ^ width) :
    pad width n < pad width m ↔ n < m := by
  induction width generalizing n m with
  | zero => simp only [pow_zero, Nat.lt_one_iff] at hn hm; subst hn hm; simp
  | succ width ih =>
      rw [pow_succ] at hn hm
      have hdigit := digitChar_lt_iff _ (Nat.mod_lt n (by decide : 0 < 10)) _
        (Nat.mod_lt m (by decide : 0 < 10))
      rw [pad, pad, append_lt_append_iff (by simp), ih (by omega) (by omega),
        List.cons_lt_cons_iff, hdigit]
      constructor
      · rintro (h | ⟨h, h' | ⟨_, h'⟩⟩)
        · omega
        · have := pad_inj (by omega) (by omega) h
          omega
        · exact absurd h' (lt_irrefl _)
      · intro h
        by_cases hdiv : n / 10 < m / 10
        · exact Or.inl hdiv
        · refine Or.inr ⟨?_, Or.inl (by omega)⟩
          rw [show n / 10 = m / 10 by omega]

theorem pad_add (high low n : Nat) :
    pad (high + low) n = pad high (n / 10 ^ low) ++ pad low (n % 10 ^ low) := by
  induction low generalizing n with
  | zero => simp [pad]
  | succ low ih =>
      have hdiv : n / 10 / 10 ^ low = n / 10 ^ (low + 1) := by
        rw [Nat.div_div_eq_div_mul, pow_succ']
      have hmid : n % 10 ^ (low + 1) / 10 = n / 10 % 10 ^ low := by
        rw [pow_succ', Nat.mod_mul_right_div_self]
      have hlast : n % 10 ^ (low + 1) % 10 = n % 10 :=
        Nat.mod_mod_of_dvd n (Dvd.intro_left _ (pow_succ 10 low).symm)
      rw [← Nat.add_assoc, pad, ih, pad, hdiv, hmid, hlast, List.append_assoc]

/-- The value of a decimal digit. -/
def digit? (c : Char) : Option Nat :=
  if '0' ≤ c ∧ c ≤ '9' then some (c.toNat - 48) else none

theorem digit?_digitChar : ∀ d < 10, digit? (Nat.digitChar d) = some d := by decide

theorem digit?_lt {c : Char} {d : Nat} (h : digit? c = some d) : d < 10 := by
  unfold digit? at h
  split at h
  · rename_i hc
    have hhigh : c.toNat ≤ 57 := hc.2
    rw [Option.some.injEq] at h
    omega
  · cases h

/-- Reads exactly `width` digits. -/
def readNum : Nat → List Char → Option (Nat × List Char)
  | 0, text => some (0, text)
  | width + 1, text =>
      match readNum width text with
      | some (n, c :: rest) => (digit? c).map fun d => (10 * n + d, rest)
      | _ => none

theorem readNum_pad {width n : Nat} (rest : List Char) (hn : n < 10 ^ width) :
    readNum width (pad width n ++ rest) = some (n, rest) := by
  induction width generalizing n rest with
  | zero => simp only [pow_zero, Nat.lt_one_iff] at hn; subst hn; rfl
  | succ width ih =>
      rw [pow_succ] at hn
      rw [pad, List.append_assoc, readNum, ih _ (by omega)]
      simp only [List.cons_append, List.nil_append, digit?_digitChar _ (Nat.mod_lt n (by decide)),
        Option.map_some, Option.some.injEq, Prod.mk.injEq, and_true]
      omega

/-- What was read is made of digits. -/
theorem digits_of_readNum {width n : Nat} {text rest : List Char} (h : readNum width text = some (n, rest)) :
    ∃ digits, text = digits ++ rest ∧ digits.length = width ∧ ∀ c ∈ digits, (digit? c).isSome = true := by
  induction width generalizing n rest with
  | zero =>
      simp only [readNum, Option.some.injEq, Prod.mk.injEq] at h
      exact ⟨[], h.2, rfl, by simp⟩
  | succ width ih =>
      rw [readNum] at h
      split at h
      · rename_i high c tail hhigh
        obtain ⟨d, hd, hpair⟩ := Option.map_eq_some_iff.1 h
        obtain ⟨rfl, rfl⟩ := Prod.mk.inj hpair
        obtain ⟨digits, rfl, hlength, hdigits⟩ := ih hhigh
        refine ⟨digits ++ [c], by simp, by simp [hlength], ?_⟩
        intro e he
        rcases List.mem_append.1 he with he | he
        · exact hdigits e he
        · rw [List.mem_singleton.1 he, hd]
          rfl
      · cases h

theorem readNum_append {width n : Nat} {text rest : List Char} (h : readNum width text = some (n, rest))
    (more : List Char) : readNum width (text ++ more) = some (n, rest ++ more) := by
  induction width generalizing n rest with
  | zero =>
      simp only [readNum, Option.some.injEq, Prod.mk.injEq] at h ⊢
      exact ⟨h.1, by rw [h.2]⟩
  | succ width ih =>
      rw [readNum] at h
      split at h
      · rename_i high c tail hhigh
        obtain ⟨d, hd, hpair⟩ := Option.map_eq_some_iff.1 h
        obtain ⟨rfl, rfl⟩ := Prod.mk.inj hpair
        rw [readNum, ih hhigh, List.cons_append]
        simp only [hd, Option.map_some]
      · cases h

/-- Reads one expected character. -/
def expect (c : Char) : List Char → Option (List Char)
  | d :: rest => if d = c then some rest else none
  | [] => none

@[simp] theorem expect_self (c : Char) (rest : List Char) : expect c (c :: rest) = some rest := by
  simp [expect]

theorem expect_eq_some {c : Char} {text rest : List Char} : expect c text = some rest ↔ text = c :: rest := by
  cases text with
  | nil => simp [expect]
  | cons d text => simp [expect]

theorem expect_append {c : Char} {text rest : List Char} (h : expect c text = some rest) (more : List Char) :
    expect c (text ++ more) = some (rest ++ more) := by
  rw [expect_eq_some] at h ⊢
  rw [h, List.cons_append]

/-- Numbers written in fields of given widths, each followed by its separator. -/
def render : List (Nat × Char) → List Nat → List Char
  | (width, separator) :: layout, n :: values => pad width n ++ separator :: render layout values
  | _, _ => []

/-- Every number fits its field and there is one number for each field. -/
def Fits : List (Nat × Char) → List Nat → Prop
  | (width, _) :: layout, n :: values => n < 10 ^ width ∧ Fits layout values
  | [], [] => True
  | _, _ => False

theorem render_length {layout : List (Nat × Char)} {values others : List Nat}
    (hv : Fits layout values) (ho : Fits layout others) :
    (render layout values).length = (render layout others).length := by
  induction layout generalizing values others with
  | nil => cases values <;> cases others <;> simp [render]
  | cons field layout ih =>
      cases values with
      | nil => exact hv.elim
      | cons n values =>
          cases others with
          | nil => exact ho.elim
          | cons m others => simp [render, ih hv.2 ho.2]

/-- A text of fields is ordered as the list of its numbers. -/
theorem render_lt_iff {layout : List (Nat × Char)} {values others : List Nat}
    (hv : Fits layout values) (ho : Fits layout others) :
    render layout values < render layout others ↔ values < others := by
  induction layout generalizing values others with
  | nil => cases values <;> cases others <;> simp_all [render, Fits]
  | cons field layout ih =>
      cases values with
      | nil => exact hv.elim
      | cons n values =>
          cases others with
          | nil => exact ho.elim
          | cons m others =>
              rw [render, render, append_lt_append_iff (by simp), pad_lt_iff hv.1 ho.1,
                List.cons_lt_cons_iff, List.cons_lt_cons_iff, ih hv.2 ho.2]
              constructor
              · rintro (h | ⟨h, h' | ⟨_, h'⟩⟩)
                · exact Or.inl h
                · exact absurd h' (lt_irrefl _)
                · exact Or.inr ⟨pad_inj hv.1 ho.1 h, h'⟩
              · rintro (h | ⟨rfl, h⟩)
                · exact Or.inl h
                · exact Or.inr ⟨rfl, Or.inr ⟨rfl, h⟩⟩

end TextDigits
