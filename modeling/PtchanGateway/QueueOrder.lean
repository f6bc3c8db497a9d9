import Mathlib.Data.List.Sort
import Mathlib.Data.List.Perm.Basic

/-! The first `limit` entries of a sorted list. An entry is among them when fewer than `limit` entries come
before it; the sort is stable, so among tied entries the one listed earlier comes first. -/

namespace QueueOrder

variable {α : Type} (r : α → α → Prop) [DecidableRel r]

/-- The first entries of the sorted list. -/
def firstOf (limit : Nat) (entries : List α) : List α := (entries.insertionSort r).take limit

variable {r} {limit : Nat} {entries : List α} {x : α}

theorem mem_of_mem_firstOf (h : x ∈ firstOf r limit entries) : x ∈ entries :=
  (List.perm_insertionSort r entries).mem_iff.mp (List.mem_of_mem_take h)

theorem firstOf_nodup (h : entries.Nodup) : (firstOf r limit entries).Nodup :=
  ((List.perm_insertionSort r entries).nodup_iff.mpr h).sublist (List.take_sublist _ _)

theorem firstOf_eq_nil_iff (hlimit : 0 < limit) : firstOf r limit entries = [] ↔ entries = [] := by
  have hlength := (List.perm_insertionSort r entries).length_eq
  rw [firstOf, List.take_eq_nil_iff]
  constructor
  · rintro (hzero | hnil)
    · omega
    · rw [hnil] at hlength
      exact List.length_eq_zero_iff.mp hlength.symm
  · rintro rfl
    exact Or.inr rfl

/-- The entries after the first ones. -/
def restOf (r : α → α → Prop) [DecidableRel r] (limit : Nat) (entries : List α) : List α :=
  (entries.insertionSort r).drop limit

theorem firstOf_append_restOf (limit : Nat) (entries : List α) :
    firstOf r limit entries ++ restOf r limit entries = entries.insertionSort r :=
  List.take_append_drop limit _

theorem mem_restOf_of_not_mem_firstOf (hx : x ∈ entries) (hout : x ∉ firstOf r limit entries) :
    x ∈ restOf r limit entries := by
  have hmem := (List.perm_insertionSort r entries).mem_iff.mpr hx
  rw [← firstOf_append_restOf limit, List.mem_append] at hmem
  exact hmem.resolve_left hout

variable [Std.Total r] [IsTrans α r]

theorem rel_firstOf_restOf {y : α} (hy : y ∈ firstOf r limit entries) (hx : x ∈ restOf r limit entries) :
    r y x := by
  have hsorted := List.pairwise_insertionSort r entries
  rw [← firstOf_append_restOf limit] at hsorted
  exact (List.pairwise_append.mp hsorted).2.2 y hy x hx

/-- What is taken comes before what is left. -/
theorem before_of_not_mem_firstOf (hx : x ∈ entries) (hout : x ∉ firstOf r limit entries) :
    (∀ y ∈ firstOf r limit entries, r y x) ∧ (firstOf r limit entries).length = limit := by
  have hrest := mem_restOf_of_not_mem_firstOf hx hout
  refine ⟨fun y hy => rel_firstOf_restOf hy hrest, ?_⟩
  have hlength : 0 < (restOf r limit entries).length := List.length_pos_of_mem hrest
  rw [restOf, List.length_drop] at hlength
  rw [firstOf, List.length_take]
  omega

section Position

variable (r) [DecidableEq α]

/-- The number of entries that come before `x`: among equals, the earlier comes first. -/
def position (x : α) : List α → Nat
  | [] => 0
  | y :: rest =>
      if y = x then rest.countP fun z => ¬r x z
      else (if r y x then 1 else 0) + position x rest

variable {r}

omit [Std.Total r] [DecidableEq α] in
theorem length_takeWhile_of_sorted (x : α) {sorted : List α} (hsorted : sorted.Pairwise r) :
    (sorted.takeWhile fun y => ¬r x y).length = sorted.countP fun y => ¬r x y := by
  induction sorted with
  | nil => rfl
  | cons y rest ih =>
      rw [List.pairwise_cons] at hsorted
      by_cases hy : r x y
      · have hzero : rest.countP (fun z => ¬r x z) = 0 := by
          rw [List.countP_eq_zero]
          intro z hz
          simpa using trans_of r hy (hsorted.1 z hz)
        rw [List.takeWhile_cons, List.countP_cons, hzero]
        simp [hy]
      · rw [List.takeWhile_cons, List.countP_cons, ← ih hsorted.2]
        simp [hy]

omit [Std.Total r] in
theorem idxOf_orderedInsert_self {x : α} {sorted : List α} (hsorted : sorted.Pairwise r) (hx : x ∉ sorted) :
    (sorted.orderedInsert r x).idxOf x = sorted.countP fun y => ¬r x y := by
  have hnot : x ∉ sorted.takeWhile fun y => ¬r x y := fun hmem => hx (List.takeWhile_subset _ hmem)
  rw [List.orderedInsert_eq_take_drop, List.idxOf_append_of_notMem hnot, List.idxOf_cons_self, Nat.add_zero]
  exact length_takeWhile_of_sorted x hsorted

theorem idxOf_orderedInsert {x y : α} {sorted : List α} (hsorted : sorted.Pairwise r) (hx : x ∈ sorted)
    (hne : y ≠ x) :
    (sorted.orderedInsert r y).idxOf x = (if r y x then 1 else 0) + sorted.idxOf x := by
  induction sorted with
  | nil => cases hx
  | cons z rest ih =>
      rw [List.pairwise_cons] at hsorted
      have hzx : r z x := by
        rcases List.mem_cons.mp hx with rfl | hmem
        · exact refl_of r _
        · exact hsorted.1 x hmem
      by_cases hyz : r y z
      · rw [List.orderedInsert_cons_of_le r rest hyz, List.idxOf_cons_ne _ hne, if_pos (trans_of r hyz hzx),
          Nat.add_comm]
      · rw [List.orderedInsert_of_not_le r rest hyz]
        by_cases hzeq : z = x
        · subst hzeq
          rw [List.idxOf_cons_self, List.idxOf_cons_self, if_neg hyz]
        · rw [List.idxOf_cons_ne _ hzeq, List.idxOf_cons_ne _ hzeq,
            ih hsorted.2 ((List.mem_cons.mp hx).resolve_left fun heq => hzeq heq.symm), Nat.add_succ]

theorem idxOf_insertionSort (hnodup : entries.Nodup) (hx : x ∈ entries) :
    (entries.insertionSort r).idxOf x = position r x entries := by
  induction entries with
  | nil => cases hx
  | cons y rest ih =>
      rw [List.nodup_cons] at hnodup
      have hperm := List.perm_insertionSort r rest
      rw [List.insertionSort_cons, position]
      by_cases hy : y = x
      · subst hy
        rw [if_pos rfl, idxOf_orderedInsert_self (List.pairwise_insertionSort r rest)
          (fun hmem => hnodup.1 (hperm.mem_iff.mp hmem))]
        exact hperm.countP_eq _
      · have hrest := (List.mem_cons.mp hx).resolve_left fun heq => hy heq.symm
        rw [if_neg hy, idxOf_orderedInsert (List.pairwise_insertionSort r rest) (hperm.mem_iff.mpr hrest) hy,
          ih hnodup.2 hrest]

/-- An entry is taken when fewer than `limit` come before it. -/
theorem mem_firstOf_iff (hnodup : entries.Nodup) (hx : x ∈ entries) :
    x ∈ firstOf r limit entries ↔ position r x entries < limit := by
  have hmem := (List.perm_insertionSort r entries).mem_iff.mpr hx
  rw [firstOf, List.mem_take_iff_idxOf_lt hmem, idxOf_insertionSort hnodup hx]

omit [Std.Total r] [IsTrans α r] in
/-- Removing other entries moves an entry forward. -/
theorem position_filter_le (p : α → Bool) (hp : p x = true) (entries : List α) :
    position r x (entries.filter p) ≤ position r x entries := by
  induction entries with
  | nil => exact le_refl _
  | cons y rest ih =>
      by_cases hy : y = x
      · subst hy
        rw [List.filter_cons_of_pos hp, position, position, if_pos rfl, if_pos rfl]
        exact List.filter_sublist.countP_le
      · by_cases hkeep : p y = true
        · rw [List.filter_cons_of_pos hkeep, position, position, if_neg hy, if_neg hy]
          exact Nat.add_le_add_left ih _
        · rw [List.filter_cons_of_neg hkeep, position, if_neg hy]
          exact ih.trans (Nat.le_add_left _ _)

omit [Std.Total r] [IsTrans α r] in
theorem countP_le_position_append (hx : x ∈ entries) (others : List α) :
    others.countP (fun y => ¬r x y) ≤ position r x (entries ++ others) := by
  induction entries with
  | nil => cases hx
  | cons y rest ih =>
      rw [List.cons_append, position]
      by_cases hy : y = x
      · rw [if_pos hy, List.countP_append]
        exact Nat.le_add_left _ _
      · rw [if_neg hy]
        exact (ih ((List.mem_cons.mp hx).resolve_left fun heq => hy heq.symm)).trans (Nat.le_add_left _ _)

end Position

/-- The first entry comes before all. -/
theorem head_le (h : (entries.insertionSort r).head? = some x) : x ∈ entries ∧ ∀ y ∈ entries, r x y := by
  have hperm := List.perm_insertionSort r entries
  have hsorted := List.pairwise_insertionSort r entries
  cases hlist : entries.insertionSort r with
  | nil => simp [hlist] at h
  | cons a rest =>
      rw [hlist, List.head?_cons, Option.some.injEq] at h
      subst h
      rw [hlist] at hperm hsorted
      refine ⟨hperm.mem_iff.mp (by simp), fun y hy => ?_⟩
      rcases List.mem_cons.mp (hperm.mem_iff.mpr hy) with rfl | hmem
      · exact refl_of r _
      · exact List.rel_of_pairwise_cons hsorted hmem

section Stable

variable {α κ : Type} [LinearOrder κ] (key : α → κ)

/-- The entries in the order of their keys, and those with one key in the order they were listed. -/
structure StablySorted (entries result : List α) : Prop where
  ordered : result.Pairwise fun left right => key left ≤ key right
  perm : result.Perm entries
  stable : ∀ k, result.filter (fun entry => key entry = k) = entries.filter fun entry => key entry = k

/-- An entry moves only past entries with a smaller key. -/
theorem filter_orderedInsert (x : α) (entries : List α) (k : κ) :
    (entries.orderedInsert (fun left right => key left ≤ key right) x).filter (fun entry => key entry = k) =
      (x :: entries).filter fun entry => key entry = k := by
  induction entries with
  | nil => rfl
  | cons y rest ih =>
      rw [List.orderedInsert_cons]
      by_cases hle : key x ≤ key y
      · rw [if_pos hle]
      · rw [if_neg hle, List.filter_cons, ih]
        by_cases hy : key y = k
        · have hx : key x ≠ k := fun hx => hle (le_of_eq (hx.trans hy.symm))
          simp [hy, hx]
        · simp [List.filter_cons, hy]

theorem stablySorted_insertionSort (entries : List α) :
    StablySorted key entries (entries.insertionSort fun left right => key left ≤ key right) where
  ordered := by
    have hsorted := List.pairwise_insertionSort (Order.Preimage key (· ≤ ·)) entries
    exact hsorted
  perm := List.perm_insertionSort _ entries
  stable := by
    intro k
    induction entries with
    | nil => rfl
    | cons x rest ih => rw [List.insertionSort_cons, filter_orderedInsert, List.filter_cons, ih, List.filter_cons]

end Stable

end QueueOrder
