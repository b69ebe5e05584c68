import Mathlib.Data.List.Nodup
import Mathlib.Data.List.Sort

/-! Rows that each name the one before them: a chain through the whole list. -/
namespace Relational
variable {κ ρ : Type} {key : ρ → κ} {link : ρ → Option κ}

/- The first row names `from`, every later one its predecessor. -/
def Linked (key : ρ → κ) (link : ρ → Option κ) : Option κ → List ρ → Prop
  | _, [] => True
  | start, row :: rows => link row = start ∧ Linked key link (some (key row)) rows

namespace Linked

/-- The name the next row of a chain has to carry. -/
def tip (key : ρ → κ) (start : Option κ) (rows : List ρ) : Option κ :=
  (rows.getLast?.map key).or start

theorem tip_cons (start : Option κ) (first : ρ) (rows : List ρ) :
    tip key start (first :: rows) = tip key (some (key first)) rows := by
  cases rows with
  | nil => rfl
  | cons second rows =>
    have hlast : ((second :: rows).getLast?.map key).isSome = true := by simp
    simp [tip, Option.or_of_isSome hlast]

theorem append {start : Option κ} {rows : List ρ} (h : Linked key link start rows) {row : ρ}
    (hrow : link row = tip key start rows) : Linked key link start (rows ++ [row]) := by
  induction rows generalizing start with
  | nil => exact ⟨hrow, trivial⟩
  | cons first rows ih =>
    exact ⟨h.1, ih h.2 (hrow.trans (tip_cons start first rows))⟩

/-- A change of the rows that leaves keys and links alone leaves the chain. -/
theorem map {start : Option κ} {rows : List ρ} (h : Linked key link start rows) {f : ρ → ρ}
    (hkey : ∀ row, key (f row) = key row) (hlink : ∀ row, link (f row) = link row) :
    Linked key link start (rows.map f) := by
  induction rows generalizing start with
  | nil => trivial
  | cons row rows ih =>
    have hrest := ih h.2
    refine ⟨(hlink row).trans h.1, ?_⟩
    rw [hkey]
    exact hrest

/-- The links are the keys, one place on. -/
theorem links {start : Option κ} {rows : List ρ} (h : Linked key link start rows) :
    rows.map link ++ [tip key start rows] = start :: rows.map fun row => some (key row) := by
  induction rows generalizing start with
  | nil => rfl
  | cons row rows ih =>
    have hrest := ih h.2
    rw [List.map_cons, List.cons_append, tip_cons, hrest, h.1]
    rfl

/-- A row anywhere in a chain names the row before it. -/
theorem link_at {start : Option κ} {older newer : List ρ} {row : ρ}
    (h : Linked key link start (older ++ row :: newer)) : link row = tip key start older := by
  induction older generalizing start with
  | nil => exact h.1
  | cons first older ih =>
    rw [tip_cons]
    exact ih h.2

/-- Keys being distinct, no two rows carry one link. -/
theorem link_injective {rows : List ρ} (h : Linked key link none rows)
    (hkeys : (rows.map key).Nodup) {a b : ρ} (ha : a ∈ rows) (hb : b ∈ rows)
    (hab : link a = link b) : a = b := by
  have hnames : (rows.map fun row => some (key row)).Nodup := by
    have hsome := hkeys.map (Option.some_injective κ)
    rwa [List.map_map] at hsome
  have hnone : none ∉ rows.map fun row => some (key row) := by simp
  have hall : ((none : Option κ) :: rows.map fun row => some (key row)).Nodup :=
    List.nodup_cons.mpr ⟨hnone, hnames⟩
  rw [← h.links] at hall
  exact List.inj_on_of_nodup_map (List.nodup_append.mp hall).1 ha hb hab

/-- The row a link names is a row of the chain. -/
theorem named {rows : List ρ} (h : Linked key link none rows) {b : ρ} (hb : b ∈ rows) {k : κ}
    (hk : link b = some k) : ∃ a ∈ rows, key a = k := by
  have hmem : link b ∈ rows.map link ++ [tip key none rows] :=
    List.mem_append_left _ (List.mem_map_of_mem hb)
  rw [h.links, hk] at hmem
  obtain hmem | hmem := List.mem_cons.mp hmem
  · cases hmem
  · obtain ⟨a, ha, hak⟩ := List.mem_map.mp hmem
    exact ⟨a, ha, Option.some.inj hak⟩

end Linked

/-- Of rows that each come before the ones behind them, a sort the other way puts the last
first. -/
theorem insertionSort_head {r : ρ → ρ → Prop} [DecidableRel r] {rows : List ρ}
    (h : rows.Pairwise fun a b => ¬r a b) : (rows.insertionSort r).head? = rows.getLast? := by
  induction rows with
  | nil => rfl
  | cons row rows ih =>
    obtain ⟨hfirst, hrest⟩ := List.pairwise_cons.mp h
    have hhead := ih hrest
    cases rows with
    | nil => rfl
    | cons second rows =>
      rw [List.getLast?_cons_cons, ← hhead, List.insertionSort_cons]
      cases hsorted : (second :: rows).insertionSort r with
      | nil =>
        have hmem : second ∈ (second :: rows).insertionSort r :=
          (List.mem_insertionSort r).mpr List.mem_cons_self
        rw [hsorted] at hmem
        cases hmem
      | cons top others =>
        have htop : top ∈ second :: rows := by
          rw [← List.mem_insertionSort r, hsorted]
          exact List.mem_cons_self
        rw [List.orderedInsert_cons, if_neg (hfirst top htop)]
        rfl

end Relational
