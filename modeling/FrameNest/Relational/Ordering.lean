import Mathlib.Data.List.Count
import Mathlib.Data.List.Sort
import Mathlib.Data.String.Basic
import Mathlib.Order.Basic

/-! Rows in the order of a time and a text, as a query with ORDER BY returns them. -/
namespace Relational
variable {ρ : Type}

/- Not later, and in the same moment not behind by name. -/
def precedes (key : ρ → Nat × String) (a b : ρ) : Prop :=
  (key a).1 < (key b).1 ∨ ((key a).1 = (key b).1 ∧ (key a).2 ≤ (key b).2)

instance (key : ρ → Nat × String) : DecidableRel (precedes key) :=
  fun _ _ => inferInstanceAs (Decidable (_ ∨ _))

/-- SELECT .. ORDER BY key ASC. -/
def orderBy (key : ρ → Nat × String) (rows : List ρ) : List ρ := rows.insertionSort (precedes key)

variable {key : ρ → Nat × String}

@[simp] theorem mem_orderBy {rows : List ρ} {a : ρ} : a ∈ orderBy key rows ↔ a ∈ rows :=
  List.mem_insertionSort _

end Relational

/-! Pages of a table in the order of a key, each beginning behind the last key of the one
before: `WHERE .. AND key > after ORDER BY key LIMIT limit`. -/
namespace Relational
variable {ρ κ : Type} [LinearOrder κ]

/- The cursor is before the key; there is no cursor before the first page. -/
def before (cursor : Option κ) (k : κ) : Bool := cursor.all (· < k)

def page (key : ρ → κ) (wanted : ρ → Bool) (limit : Nat) (cursor : Option κ) (rows : List ρ) :
    List ρ :=
  ((rows.filter fun row => wanted row && before cursor (key row)).insertionSort
    fun a b => key a ≤ key b).take limit

variable {key : ρ → κ} {wanted : ρ → Bool} {limit : Nat} {cursor : Option κ} {rows : List ρ}
  {row : ρ}

instance total_le : Std.Total fun a b : ρ => key a ≤ key b := ⟨fun a b => le_total (key a) (key b)⟩

instance trans_le : IsTrans ρ fun a b : ρ => key a ≤ key b := ⟨fun _ _ _ => le_trans⟩

theorem before_trans {k k' : κ} (h : before cursor k = true) (hlt : k < k') :
    before cursor k' = true := by
  cases cursor with
  | none => rfl
  | some c =>
    simp only [before, Option.all_some, decide_eq_true_eq] at h ⊢
    exact lt_trans h hlt

@[simp] theorem before_some {k k' : κ} : before (some k) k' = true ↔ k < k' := by
  simp [before]

theorem mem_page (h : row ∈ page key wanted limit cursor rows) :
    row ∈ rows ∧ wanted row = true ∧ before cursor (key row) = true := by
  have hsorted := List.mem_of_mem_take h
  rw [List.mem_insertionSort] at hsorted
  simpa using hsorted

theorem page_pairwise : (page key wanted limit cursor rows).Pairwise fun a b => key a ≤ key b :=
  (List.pairwise_insertionSort _ _).sublist (List.take_sublist _ _)

/-- What a page leaves out comes after all it holds. -/
theorem page_skips (hrow : row ∈ rows) (hwanted : wanted row = true)
    (hbefore : before cursor (key row) = true)
    (h : row ∉ page key wanted limit cursor rows) :
    ∀ other ∈ page key wanted limit cursor rows, key other ≤ key row := by
  intro other hother
  have hall : row ∈ (rows.filter fun row => wanted row && before cursor (key row)).insertionSort
      fun a b => key a ≤ key b := by
    rw [List.mem_insertionSort]
    simp [hrow, hwanted, hbefore]
  have hsorted := List.pairwise_insertionSort (fun a b : ρ => key a ≤ key b)
    (rows.filter fun row => wanted row && before cursor (key row))
  unfold page at h hother
  rw [← List.take_append_drop limit (List.insertionSort _ _)] at hsorted hall
  obtain hmem | hmem := List.mem_append.mp hall
  · exact absurd hmem h
  · exact (List.pairwise_append.mp hsorted).2.2 other hother row hmem

/-- An empty page of a positive length is the end of the table. -/
theorem page_eq_nil (hlimit : 0 < limit) (h : page key wanted limit cursor rows = [])
    (hrow : row ∈ rows) (hwanted : wanted row = true) : before cursor (key row) = false := by
  cases hbefore : before cursor (key row) with
  | false => rfl
  | true =>
    have hall : row ∈ (rows.filter fun row => wanted row && before cursor (key row)).insertionSort
        fun a b => key a ≤ key b := by
      rw [List.mem_insertionSort]
      simp [hrow, hwanted, hbefore]
    unfold page at h
    obtain hzero | hnone := List.take_eq_nil_iff.mp h
    · omega
    · rw [hnone] at hall
      cases hall

/-- With keys of their own, the rows of a page ascend. -/
theorem page_ascending (hkey : (rows.map key).Nodup) :
    (page key wanted limit cursor rows).Pairwise fun a b => key a < key b := by
  have hdistinct : (page key wanted limit cursor rows).Pairwise fun a b => key a ≠ key b := by
    have hnodup : ((rows.filter fun row => wanted row && before cursor (key row)).map key).Nodup :=
      (List.Sublist.map key List.filter_sublist).nodup hkey
    have hsorted := ((List.perm_insertionSort (fun a b : ρ => key a ≤ key b) _).map key).nodup_iff.mpr
      hnodup
    have htaken := (List.Sublist.map key (List.take_sublist limit _)).nodup hsorted
    exact List.pairwise_map.mp htaken
  exact (page_pairwise.and hdistinct).imp fun h => lt_of_le_of_ne h.1 h.2

/-- A cursor that has passed a row leaves fewer of them ahead. -/
theorem countP_before_lt {k k' : κ} (hk : before cursor k' = true) (hrow : row ∈ rows)
    (hkey : key row = k') (hle : k' ≤ k) :
    rows.countP (fun r => before (some k) (key r)) < rows.countP fun r => before cursor (key r) := by
  have hpassed : ∀ r : ρ, before (some k) (key r) = true → before cursor (key r) = true := by
    intro r hr
    exact before_trans hk (lt_of_le_of_lt hle (before_some.mp hr))
  have hboth : rows.countP (fun r => before (some k) (key r)) =
      (rows.filter fun r => before cursor (key r)).countP fun r => before (some k) (key r) := by
    rw [List.countP_filter]
    refine List.countP_congr fun r _ => ?_
    constructor
    · intro hr
      simp [hr, hpassed r hr]
    · intro hr
      simpa using (Bool.and_eq_true_iff.mp hr).1
  have hlength : rows.countP (fun r => before cursor (key r)) =
      (rows.filter fun r => before cursor (key r)).length := List.countP_eq_length_filter
  rw [hboth, hlength, List.countP_lt_length_iff]
  refine ⟨row, List.mem_filter.mpr ⟨hrow, by rw [hkey]; exact hk⟩, ?_⟩
  rw [hkey]
  simpa [before] using hle

end Relational
