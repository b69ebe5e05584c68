import Mathlib.Algebra.GroupWithZero.Nat
import Mathlib.Data.List.Nodup
import Mathlib.Algebra.Order.BigOperators.Group.List
import Mathlib.Algebra.Order.Group.Nat

/-! Tables with a primary key: rows in insertion order, no key twice. -/
namespace Relational
variable {κ ρ : Type} [DecidableEq κ] {key : ρ → κ}

structure Table (key : ρ → κ) where
  rows : List ρ
  nodup : (rows.map key).Nodup

namespace Table

def empty : Table key := ⟨[], by simp⟩

def find? (t : Table key) (k : κ) : Option ρ := t.rows.find? fun r => key r = k

/- INSERT: refused when the key is taken. -/
def insert? (t : Table key) (r : ρ) : Option (Table key) :=
  if h : key r ∈ t.rows.map key then none
  else some ⟨t.rows ++ [r], by
    simpa [List.nodup_append, t.nodup] using fun a ha he => h (List.mem_map.mpr ⟨a, ha, he⟩)⟩

theorem map_update (l : List ρ) (k : κ) (f : ρ → ρ) (hf : ∀ r, key (f r) = key r) :
    (l.map fun r => if key r = k then f r else r).map key = l.map key := by
  rw [List.map_map]
  refine List.map_congr_left fun r _ => ?_
  by_cases h : key r = k <;> simp [h, hf]

/- UPDATE .. WHERE key = k, for an assignment that leaves the key alone. -/
def update (t : Table key) (k : κ) (f : ρ → ρ) (hf : ∀ r, key (f r) = key r) : Table key :=
  ⟨t.rows.map fun r => if key r = k then f r else r, by rw [map_update _ _ _ hf]; exact t.nodup⟩

@[simp] theorem find?_empty (k : κ) : (empty : Table key).find? k = none := rfl

theorem find?_key {t : Table key} {k : κ} {r : ρ} (h : t.find? k = some r) : key r = k := by
  simpa using List.find?_some h

theorem find?_mem {t : Table key} {k : κ} {r : ρ} (h : t.find? k = some r) : r ∈ t.rows :=
  List.mem_of_find?_eq_some h

omit [DecidableEq κ] in
theorem eq_of_key {t : Table key} {r r' : ρ} (h : r ∈ t.rows) (h' : r' ∈ t.rows)
    (hk : key r = key r') : r = r' := List.inj_on_of_nodup_map t.nodup h h' hk

theorem mem_find? {t : Table key} {r : ρ} (h : r ∈ t.rows) : t.find? (key r) = some r := by
  cases hf : t.find? (key r) with
  | some r' => rw [eq_of_key (find?_mem hf) h (find?_key hf)]
  | none => exact absurd (by simp) (List.find?_eq_none.mp hf r h)

theorem find?_none_iff {t : Table key} {k : κ} : t.find? k = none ↔ k ∉ t.rows.map key := by
  simp [find?]

theorem insert?_some {t t' : Table key} {r : ρ} (h : t.insert? r = some t') :
    t.find? (key r) = none ∧ t'.rows = t.rows ++ [r] := by
  unfold insert? at h
  split at h
  · cases h
  · rename_i hk
    cases h
    exact ⟨find?_none_iff.mpr hk, rfl⟩

theorem insert?_isSome {t : Table key} {r : ρ} (h : t.find? (key r) = none) :
    ∃ t', t.insert? r = some t' := by
  unfold insert?
  rw [dif_neg (find?_none_iff.mp h)]
  exact ⟨_, rfl⟩

theorem find?_insert {t t' : Table key} {r : ρ} (h : t.insert? r = some t') (k : κ) :
    t'.find? k = if key r = k then some r else t.find? k := by
  obtain ⟨hnone, hrows⟩ := insert?_some h
  unfold find? at hnone ⊢
  rw [hrows, List.find?_append]
  by_cases hk : key r = k
  · subst hk
    simp [hnone]
  · simp [hk]

theorem find?_update {t : Table key} {k : κ} (f : ρ → ρ) (hf : ∀ r, key (f r) = key r)
    (k' : κ) : (t.update k f hf).find? k' =
      if k = k' then (t.find? k').map f else t.find? k' := by
  simp only [update, find?]
  generalize t.rows = l
  induction l with
  | nil => simp
  | cons a l ih =>
    simp only [List.map_cons, List.find?_cons, ih]
    by_cases hk : key a = k
    · subst hk
      by_cases hk' : key a = k' <;> simp [hk', hf]
    · by_cases hk' : key a = k'
      · subst hk'
        simp [hk, Ne.symm hk]
      · simp [hk, hk']

theorem mem_update {t : Table key} {k : κ} {f : ρ → ρ} {hf : ∀ r, key (f r) = key r} {r : ρ}
    (h : r ∈ (t.update k f hf).rows) :
    (r ∈ t.rows ∧ key r ≠ k) ∨ ∃ r₀ ∈ t.rows, key r₀ = k ∧ r = f r₀ := by
  obtain ⟨r₀, hr₀, rfl⟩ := List.mem_map.mp h
  by_cases hk : key r₀ = k
  · exact Or.inr ⟨r₀, hr₀, hk, by simp [hk]⟩
  · exact Or.inl ⟨by simpa [hk] using hr₀, by simp [hk]⟩

theorem mem_update_of_ne {t : Table key} {k : κ} {f : ρ → ρ} {hf : ∀ r, key (f r) = key r} {r : ρ}
    (h : r ∈ t.rows) (hk : key r ≠ k) : r ∈ (t.update k f hf).rows :=
  List.mem_map.mpr ⟨r, h, by simp [hk]⟩

theorem update_mem {t : Table key} {k : κ} {f : ρ → ρ} {hf : ∀ r, key (f r) = key r} {r : ρ}
    (h : r ∈ t.rows) (hk : key r = k) : f r ∈ (t.update k f hf).rows :=
  List.mem_map.mpr ⟨r, h, by simp [hk]⟩

theorem update_congr {t : Table key} {k : κ} {f g : ρ → ρ} {hf : ∀ r, key (f r) = key r}
    {hg : ∀ r, key (g r) = key r} (h : ∀ r ∈ t.rows, key r = k → f r = g r) :
    t.update k f hf = t.update k g hg := by
  have hmap : (t.rows.map fun r => if key r = k then f r else r) =
      t.rows.map fun r => if key r = k then g r else r := by
    refine List.map_congr_left fun r hr => ?_
    by_cases hk : key r = k
    · simpa [hk] using h r hr hk
    · simp [hk]
  simp only [update, hmap]

theorem mem_insert {t t' : Table key} {r r' : ρ} (h : t.insert? r = some t') :
    r' ∈ t'.rows ↔ r' ∈ t.rows ∨ r' = r := by
  rw [(insert?_some h).2]
  simp

/- UPDATE without a key, for an assignment that leaves every key alone. -/
def updateAll (t : Table key) (f : ρ → ρ) (hf : ∀ r, key (f r) = key r) : Table key :=
  ⟨t.rows.map f, by
    have hkeys : (t.rows.map f).map key = t.rows.map key := by
      rw [List.map_map]
      exact List.map_congr_left fun r _ => hf r
    rw [hkeys]
    exact t.nodup⟩

theorem find?_updateAll {t : Table key} (f : ρ → ρ) (hf : ∀ r, key (f r) = key r) (k : κ) :
    (t.updateAll f hf).find? k = (t.find? k).map f := by
  simp only [updateAll, find?]
  generalize t.rows = l
  induction l with
  | nil => rfl
  | cons a l ih =>
    simp only [List.map_cons, List.find?_cons, ih, hf]
    split <;> rfl

/- DELETE of the rows that satisfy `p`. -/
def deleteWhere (t : Table key) (p : ρ → Bool) : Table key :=
  ⟨t.rows.filter fun r => !p r, (t.nodup.sublist (List.filter_sublist.map key))⟩

omit [DecidableEq κ] in
theorem mem_deleteWhere {t : Table key} {p : ρ → Bool} {r : ρ} :
    r ∈ (t.deleteWhere p).rows ↔ r ∈ t.rows ∧ p r = false := by
  simp [deleteWhere]

theorem find?_deleteWhere {t : Table key} (p : ρ → Bool) (k : κ) :
    (t.deleteWhere p).find? k = (t.find? k).filter fun r => !p r := by
  cases hf : t.find? k with
  | none =>
    refine find?_none_iff.mpr fun hmem => ?_
    obtain ⟨r, hr, hk⟩ := List.mem_map.mp hmem
    exact find?_none_iff.mp hf (List.mem_map.mpr ⟨r, (mem_deleteWhere.mp hr).1, hk⟩)
  | some r =>
    have hk := find?_key hf
    cases hp : p r with
    | false =>
      have hmem : r ∈ (t.deleteWhere p).rows := mem_deleteWhere.mpr ⟨find?_mem hf, hp⟩
      simpa [Option.filter, hp, hk] using mem_find? hmem
    | true =>
      have hnone : (t.deleteWhere p).find? k = none := by
        refine find?_none_iff.mpr fun hmem => ?_
        obtain ⟨r', hr', hk'⟩ := List.mem_map.mp hmem
        obtain ⟨hold, hkeep⟩ := mem_deleteWhere.mp hr'
        have heq : r' = r := eq_of_key hold (find?_mem hf) (hk'.trans hk.symm)
        rw [heq, hp] at hkeep
        cases hkeep
      simp [Option.filter, hp, hnone]

/- A quantity summed over the rows, as an INSERT or an UPDATE changes it. -/
def total (t : Table key) (f : ρ → Nat) : Nat := (t.rows.map f).sum

theorem total_insert {t t' : Table key} {r : ρ} (h : t.insert? r = some t') (f : ρ → Nat) :
    t'.total f = t.total f + f r := by
  simp [total, (insert?_some h).2]

theorem total_update_le {t : Table key} {k : κ} {g : ρ → ρ} {hg : ∀ r, key (g r) = key r}
    {f : ρ → Nat} (h : ∀ r ∈ t.rows, key r = k → f (g r) ≤ f r) :
    (t.update k g hg).total f ≤ t.total f := by
  unfold total update
  rw [List.map_map]
  refine List.sum_le_sum fun r hr => ?_
  by_cases hk : key r = k
  · simpa [hk] using h r hr hk
  · simp [hk]

end Table
end Relational
