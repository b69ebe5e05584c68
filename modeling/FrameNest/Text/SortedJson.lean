import FrameNest.Text.Json
import FrameNest.Text.Parsed
import Mathlib.Data.List.Sort
import Mathlib.Data.String.Basic

/-! The text of parsed JSON: `json.dumps` with `separators=(",", ":")` and `sort_keys=True`.
Two values that differ in the order of their members only have one text. -/
namespace Parsed

mutual
/-- The value with the members of every object in the order of their keys. -/
def sorted : Parsed → Parsed
  | .arr items => .arr (sortedItems items)
  | .obj members => .obj ((sortedMembers members).insertionSort fun a b => a.1 ≤ b.1)
  | v => v
def sortedItems : List Parsed → List Parsed
  | [] => []
  | v :: rest => sorted v :: sortedItems rest
def sortedMembers : List (String × Parsed) → List (String × Parsed)
  | [] => []
  | (k, v) :: rest => (k, sorted v) :: sortedMembers rest
end

def hex4 (n : Nat) : List Char :=
  [Json.hexDigit (n / 4096 % 16), Json.hexDigit (n / 256 % 16), Json.hexDigit (n / 16 % 16),
    Json.hexDigit (n % 16)]

/- `ensure_ascii=True` writes a character above the first plane as two surrogates. -/
def escapeAscii (c : Char) : List Char :=
  let n := c.toNat
  if n < 127 then Json.escape c
  else if n < 65536 then '\\' :: 'u' :: hex4 n
  else '\\' :: 'u' :: hex4 (55296 + (n - 65536) / 1024) ++
    '\\' :: 'u' :: hex4 (56320 + (n - 65536) % 1024)

section Text
variable (float : Option ℚ → List Char) (ascii : Bool)

def quote (s : String) : List Char :=
  '"' :: s.toList.flatMap (fun c => if ascii then escapeAscii c else Json.escape c) ++ ['"']

mutual
/-- The text, members in the order they stand in; `float` is `float.__repr__`. -/
def print : Parsed → List Char
  | .null => "null".toList
  | .bool true => "true".toList
  | .bool false => "false".toList
  | .int n => (toString n).toList
  | .float q => float q
  | .str s => quote ascii s
  | .arr items => '[' :: Json.separated (printItems items) ++ [']']
  | .obj members => '\x7b' :: Json.separated (printMembers members) ++ ['\x7d']
def printItems : List Parsed → List (List Char)
  | [] => []
  | v :: rest => print v :: printItems rest
def printMembers : List (String × Parsed) → List (List Char)
  | [] => []
  | (k, v) :: rest => (quote ascii k ++ ':' :: print v) :: printMembers rest
end

def dumps (v : Parsed) : String := String.ofList (print float ascii v.sorted)

end Text

/-! Sorting. -/

theorem sortedItems_map (items : List Parsed) : sortedItems items = items.map sorted := by
  induction items with
  | nil => rfl
  | cons v rest ih => rw [sortedItems, ih, List.map_cons]

theorem sortedMembers_map (members : List (String × Parsed)) :
    sortedMembers members = members.map fun m => (m.1, m.2.sorted) := by
  induction members with
  | nil => rfl
  | cons m rest ih =>
    obtain ⟨k, v⟩ := m
    rw [sortedMembers, ih, List.map_cons]

/- Members that stand in order already. -/
theorem sorted_obj {members : List (String × Parsed)}
    (h : (members.map (·.1)).Pairwise (· ≤ ·)) :
    sorted (.obj members) = .obj (members.map fun m => (m.1, m.2.sorted)) := by
  have hpairs : (members.map fun m => (m.1, m.2.sorted)).Pairwise fun a b => a.1 ≤ b.1 := by
    rw [List.pairwise_map] at h ⊢
    exact h
  rw [sorted, sortedMembers_map, List.Pairwise.insertionSort_eq hpairs]

theorem sorted_arr (items : List Parsed) : sorted (.arr items) = .arr (items.map sorted) := by
  rw [sorted, sortedItems_map]

/- A list that is sorted by keys is left as it is. -/
theorem insertionSort_idem (members : List (String × Parsed)) :
    (members.insertionSort fun a b => a.1 ≤ b.1).insertionSort (fun a b => a.1 ≤ b.1) =
      members.insertionSort fun a b => a.1 ≤ b.1 := by
  exact List.Pairwise.insertionSort_eq (List.pairwise_insertionSort _ members)

theorem map_orderedInsert (f : Parsed → Parsed) (m : String × Parsed)
    (members : List (String × Parsed)) :
    (members.orderedInsert (fun a b => a.1 ≤ b.1) m).map (fun m => (m.1, f m.2)) =
      (members.map fun m => (m.1, f m.2)).orderedInsert (fun a b => a.1 ≤ b.1) (m.1, f m.2) := by
  induction members with
  | nil => rfl
  | cons x rest ih =>
    rw [List.orderedInsert_cons, List.map_cons, List.orderedInsert_cons]
    by_cases hle : m.1 ≤ x.1
    · simp [hle]
    · simp [hle, ih]

/- The order of the keys is not touched by a change of the values. -/
theorem map_insertionSort (f : Parsed → Parsed) (members : List (String × Parsed)) :
    (members.insertionSort fun a b => a.1 ≤ b.1).map (fun m => (m.1, f m.2)) =
      (members.map fun m => (m.1, f m.2)).insertionSort fun a b => a.1 ≤ b.1 := by
  induction members with
  | nil => rfl
  | cons m rest ih =>
    rw [List.insertionSort_cons, map_orderedInsert, ih, List.map_cons, List.insertionSort_cons]

mutual
/-- What is sorted is sorted again to the same. -/
theorem sorted_sorted : ∀ v : Parsed, v.sorted.sorted = v.sorted
  | .null | .bool _ | .int _ | .float _ | .str _ => rfl
  | .arr items => by
    rw [sorted, sorted]
    exact congrArg Parsed.arr (sortedItems_sorted items)
  | .obj members => by
    rw [sorted, sorted, sortedMembers_map, map_insertionSort, ← sortedMembers_map,
      sortedMembers_sorted members, insertionSort_idem]
theorem sortedItems_sorted : ∀ items : List Parsed,
    sortedItems (sortedItems items) = sortedItems items
  | [] => rfl
  | v :: rest => by rw [sortedItems, sortedItems, sorted_sorted v, sortedItems_sorted rest]
theorem sortedMembers_sorted : ∀ members : List (String × Parsed),
    sortedMembers (sortedMembers members) = sortedMembers members
  | [] => rfl
  | (k, v) :: rest => by
    rw [sortedMembers, sortedMembers, sorted_sorted v, sortedMembers_sorted rest]
end

/-- The text is that of the sorted value. -/
theorem dumps_sorted (float : Option ℚ → List Char) (ascii : Bool) (v : Parsed) :
    dumps float ascii v.sorted = dumps float ascii v := by
  rw [dumps, dumps, sorted_sorted]

end Parsed
