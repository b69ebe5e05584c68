import FrameNest.Relational.Table

/-! Values under unique names, in the order the names came: the entries of a directory. -/
namespace Relational
variable {ν : Type}

abbrev Named (ν : Type) := Table (Prod.fst : String × ν → String)

namespace Named

def get? (t : Named ν) (name : String) : Option ν := (t.find? name).map Prod.snd

/- A new name, refused when it is taken. -/
def put? (t : Named ν) (name : String) (v : ν) : Option (Named ν) := t.insert? (name, v)

/- Another value under a name that is there. -/
def set (t : Named ν) (name : String) (v : ν) : Named ν :=
  t.updateAll (fun entry => if entry.1 = name then (entry.1, v) else entry) fun entry => by
    by_cases h : entry.1 = name <;> simp [h]

def erase (t : Named ν) (name : String) : Named ν := t.deleteWhere fun entry => entry.1 = name

def names (t : Named ν) : List String := t.rows.map Prod.fst

@[simp] theorem get?_empty (name : String) : get? (Table.empty : Named ν) name = none := rfl

theorem mem_rows {t : Named ν} {name : String} {v : ν} :
    (name, v) ∈ t.rows ↔ get? t name = some v := by
  constructor
  · intro h
    have hfind : t.find? name = some (name, v) := Table.mem_find? h
    simp [get?, hfind]
  · intro h
    obtain ⟨entry, hentry, rfl⟩ := Option.map_eq_some_iff.mp h
    have hname : entry.1 = name := Table.find?_key hentry
    rw [← hname]
    exact Table.find?_mem hentry

theorem mem_names {t : Named ν} {name : String} : name ∈ names t ↔ (get? t name).isSome := by
  constructor
  · intro h
    obtain ⟨entry, hentry, rfl⟩ := List.mem_map.mp h
    have hget : get? t entry.1 = some entry.2 := mem_rows.mp hentry
    simp [hget]
  · intro h
    obtain ⟨v, hv⟩ := Option.isSome_iff_exists.mp h
    exact List.mem_map.mpr ⟨_, mem_rows.mpr hv, rfl⟩

theorem nodup_names (t : Named ν) : (names t).Nodup := t.nodup

theorem put?_some {t t' : Named ν} {name : String} {v : ν} (h : put? t name v = some t') :
    get? t name = none ∧ ∀ other, get? t' other = if name = other then some v else get? t other := by
  refine ⟨?_, fun other => ?_⟩
  · have hnone : t.find? name = none := (Table.insert?_some h).1
    simp [get?, hnone]
  · have hfind := Table.find?_insert h other
    unfold get?
    rw [hfind]
    split <;> rfl

theorem put?_isSome {t : Named ν} {name : String} (v : ν) (h : get? t name = none) :
    ∃ t', put? t name v = some t' :=
  Table.insert?_isSome (by simpa [get?] using h)

theorem get?_set (t : Named ν) (name other : String) (v : ν) :
    get? (set t name v) other =
      if name = other then (get? t other).map fun _ => v else get? t other := by
  unfold get? set
  rw [Table.find?_updateAll]
  cases hfind : t.find? other with
  | none => simp
  | some entry =>
    have hname : entry.1 = other := Table.find?_key hfind
    by_cases h : name = other
    · simp [h, hname]
    · simp [h, hname, Ne.symm h]

theorem get?_erase (t : Named ν) (name other : String) :
    get? (erase t name) other = if name = other then none else get? t other := by
  unfold get? erase
  rw [Table.find?_deleteWhere]
  cases hfind : t.find? other with
  | none => simp
  | some entry =>
    have hname : entry.1 = other := Table.find?_key hfind
    by_cases h : name = other
    · simp [h, hname, Option.filter]
    · simp [h, hname, Ne.symm h, Option.filter]

theorem rows_erase (t : Named ν) (name : String) :
    (erase t name).rows = t.rows.filter fun entry => entry.1 ≠ name := by
  simp [erase, Table.deleteWhere]

end Named
end Relational
