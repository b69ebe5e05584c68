import FrameNest.Text.JsonReadBack

/-! The fields of JSON objects that were built from dictionaries, and what of them can be
written and read back. -/
namespace PyJson
open PyStr JsonReader

/- `mapping[key]` of an object. -/
def field (key : String) : PyJson → Option PyJson
  | .obj members => members.lookup (ofString key)
  | _ => none

section Lookup
variable {κ ν : Type} [BEq κ] [LawfulBEq κ]

theorem lookup_mem {l : List (κ × ν)} (hnodup : (l.map Prod.fst).Nodup) {k : κ} {v : ν} :
    l.lookup k = some v ↔ (k, v) ∈ l := by
  induction l with
  | nil => simp
  | cons m rest ih =>
    obtain ⟨key, w⟩ := m
    rw [List.map_cons, List.nodup_cons] at hnodup
    by_cases hkey : k = key
    · subst hkey
      have habsent : (k, v) ∉ rest := fun hmem =>
        hnodup.1 (List.mem_map.mpr ⟨(k, v), hmem, rfl⟩)
      simp [habsent, eq_comm]
    · have hne : (k == key) = false := by simpa using hkey
      simp [List.lookup_cons, hne, ih hnodup.2, hkey]

/-- The order of members with different keys does not matter to a look-up. -/
theorem lookup_perm {l l' : List (κ × ν)} (h : l.Perm l') (hnodup : (l.map Prod.fst).Nodup)
    (k : κ) : l.lookup k = l'.lookup k := by
  have hnodup' : (l'.map Prod.fst).Nodup := (h.map Prod.fst).nodup_iff.mp hnodup
  apply Option.ext
  intro v
  rw [lookup_mem hnodup, lookup_mem hnodup', h.mem_iff]

end Lookup

section Dictionaries
variable {members : List (String × PyJson)}

/- The members of a dictionary in the order of their keys. -/
def inOrder (members : List (String × PyJson)) : List (String × PyJson) :=
  members.insertionSort fun a b => a.1 ≤ b.1

theorem inOrder_perm (members : List (String × PyJson)) : (inOrder members).Perm members :=
  List.perm_insertionSort _ members

theorem lookup_ofString (l : List (String × PyJson)) (k : String) :
    (l.map fun m => (ofString m.1, m.2)).lookup (ofString k) = l.lookup k := by
  induction l with
  | nil => rfl
  | cons m rest ih =>
    obtain ⟨key, value⟩ := m
    by_cases hkey : k = key
    · simp [hkey]
    · have hne : (k == key) = false := by simpa using hkey
      have hne' : (ofString k == ofString key) = false := by
        simpa using fun h => hkey (ofString_injective h)
      simp [List.lookup_cons, hne, hne', ih]

/-- A field of a dictionary is the member it was built with. -/
theorem field_dict (hnodup : (members.map Prod.fst).Nodup) (k : String) :
    field k (dict members) = members.lookup k := by
  have horder : ((inOrder members).map Prod.fst).Nodup :=
    ((inOrder_perm members).map Prod.fst).nodup_iff.mpr hnodup
  have hlookup := lookup_ofString (inOrder members) k
  rw [lookup_perm (inOrder_perm members) horder k] at hlookup
  exact hlookup

theorem mem_dict {m : PyStr × PyJson} :
    m ∈ (inOrder members).map (fun m => (ofString m.1, m.2)) ↔
      ∃ k v, (k, v) ∈ members ∧ m = (ofString k, v) := by
  rw [List.mem_map]
  constructor
  · rintro ⟨⟨k, v⟩, hmem, rfl⟩
    exact ⟨k, v, (inOrder_perm members).mem_iff.mp hmem, rfl⟩
  · rintro ⟨k, v, hmem, rfl⟩
    exact ⟨(k, v), (inOrder_perm members).mem_iff.mpr hmem, rfl⟩

end Dictionaries

section Shapes

mutual
/-- A value that can be written and read back, if only its integers are short enough. -/
def shaped (ascii : Bool) : PyJson → Nat → Bool
  | .null, _ | .bool _, _ | .int _, _ => true
  | .float _, _ | .constant _, _ => false
  | .str s, _ => !(ascii && hasSurrogate s)
  | .arr items, room => 0 < room && allShaped ascii items (room - 1)
  | .obj members, room =>
    0 < room && (members.map Prod.fst).Nodup && membersShaped ascii members (room - 1)
def allShaped (ascii : Bool) : List PyJson → Nat → Bool
  | [], _ => true
  | v :: rest, room => shaped ascii v room && allShaped ascii rest room
def membersShaped (ascii : Bool) : List (PyStr × PyJson) → Nat → Bool
  | [], _ => true
  | (k, v) :: rest, room =>
    !(ascii && hasSurrogate k) && shaped ascii v room && membersShaped ascii rest room
end

variable {ascii : Bool}

mutual
theorem fits_iff : ∀ (v : PyJson) (room : Nat),
    fits ascii v room = (shaped ascii v room && writable v)
  | .null, _ | .bool _, _ | .float _, _ | .constant _, _ => by simp [fits, shaped, writable]
  | .int n, _ => by simp [fits, shaped, writable]
  | .str s, _ => by simp [fits, shaped, writable]
  | .arr items, room => by
    rw [fits, shaped, writable, allFit_iff items]
    cases decide (0 < room) <;> cases allShaped ascii items (room - 1) <;> simp
  | .obj members, room => by
    rw [fits, shaped, writable, membersFit_iff members]
    cases decide (0 < room) <;> cases decide (members.map Prod.fst).Nodup <;>
      cases membersShaped ascii members (room - 1) <;> simp
theorem allFit_iff : ∀ (items : List PyJson) (room : Nat),
    allFit ascii items room = (allShaped ascii items room && allWritable items)
  | [], _ => rfl
  | v :: rest, room => by
    rw [allFit, allShaped, allWritable, fits_iff v, allFit_iff rest]
    cases shaped ascii v room <;> cases writable v <;> simp
theorem membersFit_iff : ∀ (members : List (PyStr × PyJson)) (room : Nat),
    membersFit ascii members room = (membersShaped ascii members room && membersWritable members)
  | [], _ => rfl
  | (k, v) :: rest, room => by
    rw [membersFit, membersShaped, membersWritable, fits_iff v, membersFit_iff rest]
    cases shaped ascii v room <;> cases writable v <;> cases ascii <;> cases hasSurrogate k <;> simp
end

theorem allShaped_iff {items : List PyJson} {room : Nat} :
    allShaped ascii items room = true ↔ ∀ v ∈ items, shaped ascii v room = true := by
  induction items with
  | nil => simp [allShaped]
  | cons v rest ih => simp [allShaped, ih]

theorem membersShaped_iff {members : List (PyStr × PyJson)} {room : Nat} :
    membersShaped ascii members room = true ↔
      ∀ m ∈ members, (!(ascii && hasSurrogate m.1)) = true ∧ shaped ascii m.2 room = true := by
  induction members with
  | nil => simp [membersShaped]
  | cons m rest ih =>
    obtain ⟨k, v⟩ := m
    rw [membersShaped, Bool.and_eq_true, Bool.and_eq_true, ih]
    constructor
    · rintro ⟨hfirst, hrest⟩ m hm
      rcases List.mem_cons.mp hm with rfl | hm
      · exact hfirst
      · exact hrest m hm
    · intro hall
      exact ⟨hall (k, v) List.mem_cons_self, fun m hm => hall m (List.mem_cons_of_mem _ hm)⟩

theorem shaped_arr {items : List PyJson} {room : Nat}
    (h : ∀ v ∈ items, shaped ascii v room = true) : shaped ascii (.arr items) (room + 1) = true := by
  simp [shaped, allShaped_iff.mpr h]

@[simp] theorem shaped_text (s : String) (room : Nat) :
    shaped ascii (.str (ofString s)) room = true := by
  simp [shaped, ofString]

theorem shaped_dict {members : List (String × PyJson)} {room : Nat}
    (hnodup : (members.map Prod.fst).Nodup) (h : ∀ m ∈ members, shaped ascii m.2 room = true) :
    shaped ascii (dict members) (room + 1) = true := by
  have hkeys : (((inOrder members).map fun m => (ofString m.1, m.2)).map Prod.fst).Nodup := by
    rw [List.map_map]
    have horder : ((inOrder members).map Prod.fst).Nodup :=
      ((inOrder_perm members).map Prod.fst).nodup_iff.mpr hnodup
    have hmap : (inOrder members).map (Prod.fst ∘ fun m => (ofString m.1, m.2)) =
        ((inOrder members).map Prod.fst).map ofString := by simp [Function.comp_def]
    rw [hmap]
    exact horder.map ofString_injective
  have hmembers : membersShaped ascii ((inOrder members).map fun m => (ofString m.1, m.2)) room =
      true := by
    rw [membersShaped_iff]
    intro m hm
    obtain ⟨k, v, hmem, rfl⟩ := mem_dict.mp hm
    exact ⟨by simp [ofString], h (k, v) hmem⟩
  change shaped ascii (.obj ((inOrder members).map fun m => (ofString m.1, m.2))) (room + 1) = true
  rw [shaped, Bool.and_eq_true, Bool.and_eq_true]
  exact ⟨⟨by simp, by simpa using hkeys⟩, by simpa using hmembers⟩

end Shapes

/-- `w` stands somewhere in `v`. -/
inductive Within (w : PyJson) : PyJson → Prop where
  | self : Within w w
  | item {v : PyJson} {items : List PyJson} (hv : v ∈ items) (h : Within w v) :
      Within w (.arr items)
  | member {k : PyStr} {v : PyJson} {members : List (PyStr × PyJson)} (hv : (k, v) ∈ members)
      (h : Within w v) : Within w (.obj members)

theorem shaped_within {w v : PyJson} (h : Within w v) {room : Nat}
    (hv : shaped ascii v room = true) : ∃ r, shaped ascii w r = true := by
  induction h generalizing room with
  | self => exact ⟨room, hv⟩
  | item hmem _ ih =>
    rw [shaped, Bool.and_eq_true] at hv
    exact ih (allShaped_iff.mp hv.2 _ hmem)
  | member hmem _ ih =>
    rw [shaped, Bool.and_eq_true] at hv
    exact ih (membersShaped_iff.mp hv.2 _ hmem).2

/-- Of two shaped values, a text that can be written for both makes them equal. -/
theorem dumps_injective {ascii : Bool} {v w : PyJson} {room : Nat} {text : PyStr}
    (hv : shaped ascii v room = true) (hw : shaped ascii w room = true)
    (htext : dumps ascii v = some text) (htext' : dumps ascii w = some text) : v = w := by
  unfold dumps at htext htext'
  split at htext
  · rename_i hwritable
    split at htext'
    · rename_i hwritable'
      have hfits : fits ascii v room = true := by
        rw [fits_iff, hv, hwritable]
        rfl
      have hfits' : fits ascii w room = true := by
        rw [fits_iff, hw, hwritable']
        rfl
      apply print_injective hfits hfits'
      exact (Option.some.inj htext).trans (Option.some.inj htext').symm
    · cases htext'
  · cases htext

end PyJson
