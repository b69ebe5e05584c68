import FrameNest.Records.Approvals

/-! The keys of a normalized analysis result. The sanitizer goes into the members of an object
and not into the items of an array. -/
namespace FrameNest.Records

/-- `w` stands somewhere inside `v`. -/
inductive Inside (w : Parsed) : Parsed → Prop
  | here : Inside w w
  | member {members : List (String × Parsed)} {m : String × Parsed} (hm : m ∈ members)
      (h : Inside w m.2) : Inside w (.obj members)
  | item {items : List Parsed} {v : Parsed} (hv : v ∈ items) (h : Inside w v) :
      Inside w (.arr items)

/-- No object inside the value has a forbidden key. -/
def Free (t : Tool) (v : Parsed) : Prop :=
  ∀ members, Inside (.obj members) v → ∀ m ∈ members, forbidden t m.1 = false

/-- `w` is reached from `v` through objects only, under keys that are kept. -/
inductive Surfaces (t : Tool) (w : Parsed) : Parsed → Prop
  | here : Surfaces t w w
  | member {members : List (String × Parsed)} {m : String × Parsed} (hm : m ∈ members)
      (hkey : forbidden t m.1 = false) (h : Surfaces t w m.2) : Surfaces t w (.obj members)

/-! Key paths. -/

inductive Step where
  | key (k : String)
  | index (i : Nat)

def child? : Parsed → Step → Option Parsed
  | .obj members, .key k => members.lookup k
  | .arr items, .index i => items[i]?
  | _, _ => none

def find? (v : Parsed) : List Step → Option Parsed
  | [] => some v
  | s :: path => (child? v s).bind (find? · path)

/- No step of the path is a forbidden key. -/
def Allowed (t : Tool) (path : List Step) : Prop := ∀ k, .key k ∈ path → forbidden t k = false

/-- What stands at the end of a path: a scalar, an array of so many items, or an object. -/
inductive Content where
  | null
  | bool (b : Bool)
  | int (n : Int)
  | float (q : Option ℚ)
  | str (s : String)
  | arr (length : Nat)
  | obj

def content : Parsed → Content
  | .null => .null
  | .bool b => .bool b
  | .int n => .int n
  | .float q => .float q
  | .str s => .str s
  | .arr items => .arr items.length
  | .obj _ => .obj

/-- Every other key path is kept, and nothing else is there. -/
def Kept (t : Tool) (v w : Parsed) : Prop :=
  ∀ path, Allowed t path → (find? w path).map content = (find? v path).map content

section Dropping
variable {t : Tool}

theorem content_keptItem (v : Parsed) : content (keptItem t v) = content v := by
  cases v <;> rfl

/-- A kept key is looked up as before. -/
theorem lookup_dropForbidden {members : List (String × Parsed)} {k : String}
    (hk : forbidden t k = false) :
    (dropForbidden t members).lookup k = (members.lookup k).map (keptItem t) := by
  induction members with
  | nil => rfl
  | cons m rest ih =>
    obtain ⟨key, item⟩ := m
    rw [dropForbidden]
    by_cases hsame : k = key
    · subst hsame
      rw [if_neg (by simp [hk])]
      simp
    · have hne : (k == key) = false := by simpa using hsame
      rw [List.lookup_cons, hne]
      split
      · exact ih
      · rw [List.lookup_cons, hne]
        exact ih

theorem mem_dropForbidden {members : List (String × Parsed)} {m : String × Parsed} :
    m ∈ dropForbidden t members ↔
      ∃ n ∈ members, forbidden t n.1 = false ∧ m = (n.1, keptItem t n.2) := by
  induction members with
  | nil => simp [dropForbidden]
  | cons n rest ih =>
    obtain ⟨key, item⟩ := n
    rw [dropForbidden]
    by_cases hkey : forbidden t key = true
    · simp [hkey, ih]
    · simp [hkey, ih]

/-- What an array holds is found in it unchanged, what an object holds without its forbidden
members. -/
theorem kept_keptItem (v : Parsed) : Kept t v (keptItem t v) := by
  intro path hallowed
  induction path generalizing v with
  | nil => simp [find?, content_keptItem]
  | cons s path ih =>
    cases v with
    | obj members =>
      cases s with
      | key k =>
        have hk : forbidden t k = false := hallowed k List.mem_cons_self
        have hrest : Allowed t path := fun k hk => hallowed k (List.mem_cons_of_mem _ hk)
        simp only [keptItem, find?, child?, lookup_dropForbidden hk]
        cases members.lookup k with
        | none => rfl
        | some w => exact ih w hrest
      | index i => rfl
    | _ => rfl

theorem free_scalar {v : Parsed} (hobj : ∀ members, v ≠ .obj members)
    (harr : ∀ items, v ≠ .arr items) : Free t v := by
  intro members hin
  cases hin with
  | here => exact absurd rfl (hobj members)
  | member hm h => exact absurd rfl (hobj _)
  | item hv h => exact absurd rfl (harr _)

/-- An array that surfaces is left as it is. -/
theorem Surfaces.kept {v : Parsed} {items : List Parsed} (h : Surfaces t (.arr items) v) :
    Inside (.arr items) (keptItem t v) := by
  induction h with
  | here => exact .here
  | @member members m hm hkey h ih =>
    have hmem : (m.1, keptItem t m.2) ∈ dropForbidden t members :=
      mem_dropForbidden.mpr ⟨m, hm, hkey, rfl⟩
    exact .member hmem ih

theorem Inside.trans {u v w : Parsed} (h : Inside u v) (h' : Inside v w) : Inside u w := by
  induction h' with
  | here => exact h
  | member hm _ ih => exact .member hm ih
  | item hv _ ih => exact .item hv ih

mutual
/-- The only places where a forbidden key survives are the arrays. -/
theorem free_keptItem : ∀ v : Parsed,
    (∀ items, Surfaces t (.arr items) v → Free t (.arr items)) → Free t (keptItem t v)
  | .obj members, h => by
    intro inner hin
    cases hin with
    | here =>
      intro m hm
      obtain ⟨n, -, hkey, rfl⟩ := mem_dropForbidden.mp hm
      exact hkey
    | member hm hin =>
      exact free_dropForbidden members (fun n hn hkey items hs => h items (.member hn hkey hs)) _ hm
        inner hin
  | .arr items, h => h items .here
  | .null, _ | .bool _, _ | .int _, _ | .float _, _ | .str _, _ => by
    refine free_scalar ?_ ?_ <;> simp [keptItem]
theorem free_dropForbidden : ∀ members : List (String × Parsed),
    (∀ n ∈ members, forbidden t n.1 = false →
      ∀ items, Surfaces t (.arr items) n.2 → Free t (.arr items)) →
    ∀ m ∈ dropForbidden t members, Free t m.2
  | [], _ => by simp [dropForbidden]
  | (key, item) :: rest, h => by
    intro m hm
    have hrest := free_dropForbidden rest fun n hn => h n (List.mem_cons_of_mem _ hn)
    rw [dropForbidden] at hm
    split at hm
    · exact hrest m hm
    · rename_i hkey
      rcases List.mem_cons.mp hm with rfl | hm
      · exact free_keptItem item (h (key, item) List.mem_cons_self (by simpa using hkey))
      · exact hrest m hm
end

theorem free_dropForbidden_iff {members : List (String × Parsed)} :
    Free t (.obj (dropForbidden t members)) ↔
      ∀ items, Surfaces t (.arr items) (.obj members) → Free t (.arr items) := by
  constructor
  · intro hfree items hs inner hin
    exact hfree inner (hin.trans hs.kept)
  · exact free_keptItem (.obj members)

end Dropping

/-- Where the result of an approved projection comes from. -/
theorem buildProjection_analysis {t : Tool} {c : Catalogue} {row : RecordRow}
    {p : ApprovalProjection} {cleaned : List (String × Parsed)}
    (h : buildProjection t c row = some p) (hresult : p.analysisResult = .obj cleaned) :
    ∃ runId run resultJson stored, row.latestSuccessfulAnalysisRunId = some runId ∧
      c.run runId = some run ∧ run.resultJson = some resultJson ∧
      t.loads resultJson = .value (.obj stored) ∧ cleaned = dropForbidden t stored := by
  have hmedia : mediaProjection t c row = some p := by
    unfold buildProjection at h
    split at h
    · cases h
    · exact h
    · cases h
    · split at h
      · cases h
      · split at h
        · cases h
        · split at h
          · cases h
          · cases h
            cases hresult
  unfold mediaProjection at hmedia
  dsimp only at hmedia
  split at hmedia
  · cases hmedia
  · rename_i runId hrunId
    split at hmedia
    · rename_i run metadata hrun hmetadata
      split at hmedia
      · cases hmedia
      · rename_i resultJson hjson
        split at hmedia
        · cases hmedia
        · split at hmedia
          · cases hmedia
          · obtain ⟨analysis, hanalysis, rfl⟩ := Option.map_eq_some_iff.mp hmedia
            have hcleaned : analysis = cleaned := Parsed.obj.inj hresult
            unfold normalizedAnalysis at hanalysis
            split at hanalysis
            · rename_i stored hloads
              exact ⟨runId, run, resultJson, stored, hrunId, hrun,
                (Option.filter_eq_some_iff.mp hjson).1, hloads,
                hcleaned ▸ (Option.some.inj hanalysis).symm⟩
            · cases hanalysis
    · cases hmedia

/-- A forbidden key of the stored result is not in the projection, and every other key path is,
if and only if no array of the result holds an object with such a key. -/
theorem no_forbidden_key_survives {t : Tool} {c : Catalogue} {row : RecordRow}
    {p : ApprovalProjection} {cleaned : List (String × Parsed)}
    (h : buildProjection t c row = some p) (hresult : p.analysisResult = .obj cleaned) :
    ∃ runId run resultJson stored, row.latestSuccessfulAnalysisRunId = some runId ∧
      c.run runId = some run ∧ run.resultJson = some resultJson ∧
      t.loads resultJson = .value (.obj stored) ∧
      (Free t (.obj cleaned) ∧ Kept t (.obj stored) (.obj cleaned) ↔
        ∀ items, Surfaces t (.arr items) (.obj stored) → Free t (.arr items)) := by
  obtain ⟨runId, run, resultJson, stored, hrunId, hrun, hjson, hloads, rfl⟩ :=
    buildProjection_analysis h hresult
  refine ⟨runId, run, resultJson, stored, hrunId, hrun, hjson, hloads, ?_⟩
  have hkept : Kept t (.obj stored) (.obj (dropForbidden t stored)) := kept_keptItem (.obj stored)
  rw [free_dropForbidden_iff, and_iff_left hkept]

namespace Sample

/- The two results a run may have stored: a forbidden key beside the title, and one inside an
array. -/
def plainResult : String := "\x7b\"raw\":1,\"title\":\"Boat\"\x7d"
def nestedResult : String := "\x7b\"items\":[\x7b\"token\":1\x7d]\x7d"

/- Both results are written in lower case. -/
def tool : Tool where
  casefold s := s
  loads s :=
    if s = plainResult then .value (.obj [("raw", .int 1), ("title", .str "Boat")])
    else if s = nestedResult then .value (.obj [("items", .arr [.obj [("token", .int 1)]])])
    else .notJson
  float _ := []
  str _ := ""
  int _ := none

def catalogue (resultJson : String) : Catalogue where
  document _ := none
  run _ := some ⟨"medium", "analyzed", some resultJson⟩
  metadata _ := some ⟨some "Boat", some "A boat", "general", "upload", none, none, none, none⟩
  tags _ := [⟨"boat", "Boat", 0⟩]
  locations _ := []
  cover _ := none

def row : RecordRow := ⟨.media, 1, some 5, none, none, some "medium", some "run"⟩

def projection (analysis : List (String × Parsed)) : ApprovalProjection where
  schemaVersion := 1
  recordKind := .media
  recordVersion := 1
  analysisRunId := .str "run"
  mediaId := .str "medium"
  displayTitle := .str "Boat"
  description := .str "A boat"
  contentCategory := .str "general"
  acquisitionSource := .str "upload"
  creatorAttributionKind := .null
  creatorStableId := .null
  creatorHandle := .null
  creatorDisplayName := .null
  coverArtifactDigest := .null
  tags := [⟨"boat", "Boat", 0⟩]
  locations := []
  analysisResult := .obj analysis
  document := none

theorem plain_projection : buildProjection tool (catalogue plainResult) row =
    some (projection [("title", .str "Boat")]) := by
  rfl

theorem nested_projection : buildProjection tool (catalogue nestedResult) row =
    some (projection [("items", .arr [.obj [("token", .int 1)]])]) := by
  rfl

end Sample

open Sample in
theorem no_forbidden_key_survives_plain :
    ∃ runId run resultJson stored, row.latestSuccessfulAnalysisRunId = some runId ∧
      (catalogue plainResult).run runId = some run ∧ run.resultJson = some resultJson ∧
      tool.loads resultJson = .value (.obj stored) ∧
      (Free tool (.obj [("title", .str "Boat")]) ∧
        Kept tool (.obj stored) (.obj [("title", .str "Boat")]) ↔
        ∀ items, Surfaces tool (.arr items) (.obj stored) → Free tool (.arr items)) :=
  no_forbidden_key_survives plain_projection rfl

/-- A key inside an array survives. -/
theorem forbidden_key_survives : ¬ ∀ (t : Tool) (c : Catalogue) (row : RecordRow)
    (p : ApprovalProjection) (cleaned : List (String × Parsed)),
    buildProjection t c row = some p → p.analysisResult = .obj cleaned → Free t (.obj cleaned) := by
  intro hall
  have hfree := hall _ _ _ _ _ Sample.nested_projection rfl
  have hinside : Inside (.obj [("token", .int 1)])
      (.obj [("items", .arr [.obj [("token", .int 1)]])]) :=
    .member (m := ("items", .arr [.obj [("token", .int 1)]])) List.mem_cons_self
      (.item List.mem_cons_self .here)
  have hkey := hfree _ hinside ("token", .int 1) List.mem_cons_self
  revert hkey
  decide

end FrameNest.Records
