import FrameNest.Metadata.History

/-! What the statements of the writers do to the rows of one medium. -/
namespace FrameNest.Metadata
open Relational

/-- Keys in order, numbered from a first position on. -/
def positioned (keys : List String) (position : Nat) : List TagAssignment :=
  (keys.zipIdx position).map fun entry => ⟨entry.1, entry.2⟩

section Positions
variable {keys : List String} {position : Nat}

@[simp] theorem positioned_nil : positioned [] position = [] := rfl

@[simp] theorem positioned_cons (key : String) :
    positioned (key :: keys) position = ⟨key, position⟩ :: positioned keys (position + 1) := by
  simp [positioned]

@[simp] theorem positioned_keys : (positioned keys position).map TagAssignment.tagKey = keys := by
  induction keys generalizing position with
  | nil => rfl
  | cons key keys ih => simp [ih]

@[simp] theorem positioned_positions :
    (positioned keys position).map TagAssignment.position = List.range' position keys.length := by
  induction keys generalizing position with
  | nil => rfl
  | cons key keys ih => simp [ih, List.range'_succ]

@[simp] theorem length_positioned : (positioned keys position).length = keys.length := by
  simp [positioned]

theorem positioned_sorted :
    (positioned keys position).Pairwise fun a b => a.position ≤ b.position := by
  rw [← List.pairwise_map (f := TagAssignment.position), positioned_positions]
  exact List.pairwise_le_range'

end Positions

/-- The tag rows are `keys` in order, numbered from nought. -/
def Medium.Holds (m : Medium) (keys : List String) : Prop := m.tags.rows = positioned keys 0

namespace Medium.Holds
variable {m : Medium} {keys : List String}

theorem tagKeys (h : m.Holds keys) : m.tagKeys = keys := by
  unfold Medium.tagKeys
  rw [h, positioned_sorted.insertionSort_eq, positioned_keys]

theorem nodup (h : m.Holds keys) : keys.Nodup := by
  have hnodup := m.tags.nodup
  rwa [h, positioned_keys] at hnodup

theorem nil_iff (h : m.Holds keys) : m.tags.rows = [] ↔ keys = [] := by
  rw [h]
  cases keys <;> simp

theorem new : Medium.new.Holds [] := rfl

end Medium.Holds

section Inserting
variable {outside : Outside} {m m' : Medium}

theorem insertMetadata_ok {row : MetadataRow} (h : insertMetadata row m = .ok m') :
    m.metadata = none ∧ row.check = true ∧ m' = { m with metadata := some row } := by
  unfold insertMetadata at h
  obtain ⟨hchecked, h⟩ := require_bind_eq_ok.mp h
  simp only [Bool.and_eq_true, Option.isNone_iff_eq_none] at hchecked
  exact ⟨hchecked.1, hchecked.2, (Except.ok.inj h).symm⟩

theorem updateMetadata_ok {row : MetadataRow} (h : updateMetadata row m = .ok m') :
    row.check = true ∧ m' = { m with metadata := some row } := by
  unfold updateMetadata at h
  obtain ⟨hchecked, h⟩ := require_bind_eq_ok.mp h
  exact ⟨hchecked, (Except.ok.inj h).symm⟩

theorem insertAssignment_ok {row : TagAssignment} (h : insertAssignment outside row m = .ok m') :
    m.metadata.isSome = true ∧ row.position < 32 ∧
      ∃ tags, m' = { m with tags := tags } ∧ tags.rows = m.tags.rows ++ [row] := by
  unfold insertAssignment at h
  obtain ⟨hchecked, h⟩ := require_bind_eq_ok.mp h
  simp only [Bool.and_eq_true, decide_eq_true_eq] at hchecked
  split at h
  · rename_i tags htags
    exact ⟨hchecked.1.1.1.1, hchecked.1.1.1.2, tags, (Except.ok.inj h).symm,
      (Table.insert?_some htags).2⟩
  · cases h

/-- Insertions append the keys in order, and the table takes no position beyond 31. -/
theorem insertAssignments_ok {keys : List String} {position : Nat}
    (h : insertAssignments outside keys position m = .ok m') :
    (∃ tags, m' = { m with tags := tags } ∧ tags.rows = m.tags.rows ++ positioned keys position) ∧
      (keys ≠ [] → m.metadata.isSome = true ∧ position + keys.length ≤ 32) := by
  induction keys generalizing position m with
  | nil =>
    have hsame : m = m' := Except.ok.inj h
    subst hsame
    exact ⟨⟨m.tags, rfl, by simp⟩, fun hne => absurd rfl hne⟩
  | cons key keys ih =>
    obtain ⟨middle, hfirst, hrest⟩ := bind_eq_ok.mp h
    obtain ⟨hmetadata, hposition, tags, rfl, htags⟩ := insertAssignment_ok hfirst
    obtain ⟨⟨tags', rfl, htags'⟩, hbound⟩ := ih hrest
    refine ⟨⟨tags', rfl, ?_⟩, fun _ => ⟨hmetadata, ?_⟩⟩
    · rw [htags', htags]
      simp
    · cases keys with
      | nil =>
        have hlast : position < 32 := hposition
        simp only [List.length_cons, List.length_nil]
        omega
      | cons next keys =>
        have hlast := (hbound (by simp)).2
        simp only [List.length_cons] at hlast ⊢
        omega

/-- The assignments of a medium that had none. -/
theorem insertAll_ok {keys : List String} (hempty : m.tags.rows = [])
    (h : insertAssignments outside keys 0 m = .ok m') :
    ∃ tags, m' = { m with tags := tags } ∧ m'.Holds keys ∧ keys.length ≤ 32 ∧
      (keys ≠ [] → m.metadata.isSome = true) := by
  obtain ⟨⟨tags, htagged, hrows⟩, hbound⟩ := insertAssignments_ok h
  refine ⟨tags, htagged, ?_, ?_, fun hne => (hbound hne).1⟩
  · rw [hempty, List.nil_append] at hrows
    rw [htagged]
    exact hrows
  · cases keys with
    | nil => simp
    | cons key keys =>
      have hlength := (hbound (by simp)).2
      omega

theorem insertGenres_ok {genres : List MovieGenre} {position : Nat}
    (h : insertGenres genres position m = .ok m') :
    ∃ table, m' = { m with genres := table } ∧ (genres = [] → table = m.genres) := by
  induction genres generalizing position m with
  | nil =>
    have hsame : m = m' := Except.ok.inj h
    subst hsame
    exact ⟨m.genres, rfl, fun _ => rfl⟩
  | cons genre genres ih =>
    obtain ⟨middle, hfirst, hrest⟩ := bind_eq_ok.mp h
    obtain ⟨table, rfl, -⟩ := ih hrest
    unfold insertGenre at hfirst
    obtain ⟨-, hfirst⟩ := require_bind_eq_ok.mp hfirst
    split at hfirst
    · have hmiddle := Except.ok.inj hfirst
      subst hmiddle
      exact ⟨table, rfl, fun hne => nomatch hne⟩
    · cases hfirst

end Inserting

section Receipts
variable {lib : Library} {outside : Outside} {request : ReviewRequest} {m m' : Medium}

theorem find?_overwrite {row : FieldSourceRow} {t : Table FieldSourceRow.fieldName}
    (hthere : t.find? row.fieldName ≠ none) (field : ReviewField) :
    (overwriteFieldSource row t).find? field =
      if row.fieldName = field then some row else t.find? field := by
  unfold overwriteFieldSource
  rw [Table.find?_updateAll]
  cases hfind : t.find? field with
  | none =>
    have hne : row.fieldName ≠ field := by
      rintro rfl
      exact hthere hfind
    simp [hne]
  | some old =>
    have hname : old.fieldName = field := Table.find?_key hfind
    by_cases h : row.fieldName = field
    · simp [h, hname]
    · simp [h, hname, Ne.symm h]

theorem upsertFieldSource_ok {row : FieldSourceRow} (h : upsertFieldSource row m = .ok m') :
    ∃ table, m' = { m with fieldSources := table } ∧ ∀ field, table.find? field =
      if row.fieldName = field then some row else m.fieldSources.find? field := by
  unfold upsertFieldSource at h
  obtain ⟨-, h⟩ := require_bind_eq_ok.mp h
  split at h
  · rename_i table htable
    exact ⟨table, (Except.ok.inj h).symm, Table.find?_insert htable⟩
  · rename_i hnone
    refine ⟨_, (Except.ok.inj h).symm, find?_overwrite fun habsent => ?_⟩
    obtain ⟨table, htable⟩ := Table.insert?_isSome habsent
    rw [hnone] at htable
    cases htable

/-- After an apply the selected fields have its receipts, and the others those they had. -/
theorem upsertFieldSources_ok {value : ReviewField → FieldValue} {fields : List ReviewField}
    (h : upsertFieldSources lib request value fields m = .ok m') :
    ∃ table, m' = { m with fieldSources := table } ∧ ∀ field, table.find? field =
      if field ∈ fields then some (fieldSourceRow lib request field (value field))
      else m.fieldSources.find? field := by
  induction fields generalizing m with
  | nil =>
    have hsame : m = m' := Except.ok.inj h
    subst hsame
    exact ⟨m.fieldSources, rfl, fun _ => by simp⟩
  | cons first fields ih =>
    obtain ⟨middle, hfirst, hrest⟩ := bind_eq_ok.mp h
    obtain ⟨table, rfl, htable⟩ := upsertFieldSource_ok hfirst
    obtain ⟨table', rfl, htable'⟩ := ih hrest
    refine ⟨table', rfl, fun field => ?_⟩
    rw [htable', htable]
    by_cases hfield : first = field
    · subst hfield
      by_cases hmem : first ∈ fields <;> simp [hmem, fieldSourceRow]
    · by_cases hmem : field ∈ fields <;> simp [hmem, hfield, Ne.symm hfield, fieldSourceRow]

theorem insertTagSource_ok {row : TagSourceRow} (h : insertTagSource outside row m = .ok m') :
    ∃ table, m' = { m with tagSources := table } ∧ ∀ key, table.find? key =
      if row.tagKey = key ∧ m.tagSources.find? key = none then some row
      else m.tagSources.find? key := by
  unfold insertTagSource at h
  obtain ⟨-, h⟩ := require_bind_eq_ok.mp h
  split at h
  · rename_i table htable
    refine ⟨table, (Except.ok.inj h).symm, fun key => ?_⟩
    have hfree : m.tagSources.find? row.tagKey = none := (Table.insert?_some htable).1
    rw [Table.find?_insert htable]
    by_cases hkey : row.tagKey = key
    · subst hkey
      simp [hfree]
    · simp [hkey]
  · rename_i hnone
    refine ⟨m.tagSources, (Except.ok.inj h).symm, fun key => ?_⟩
    have hthere : m.tagSources.find? row.tagKey ≠ none := by
      intro hfree
      obtain ⟨table, htable⟩ := Table.insert?_isSome hfree
      rw [hnone] at htable
      cases htable
    rw [if_neg]
    rintro ⟨rfl, hfree⟩
    exact hthere hfree

/-- New tag sources go to keys that had none. -/
theorem insertNewTagSources_ok {keys : List String}
    (h : insertNewTagSources outside request keys m = .ok m') :
    ∃ table, m' = { m with tagSources := table } ∧ ∀ key, table.find? key =
      if key ∈ keys ∧ m.tagSources.find? key = none then some (tagSourceRow request key)
      else m.tagSources.find? key := by
  induction keys generalizing m with
  | nil =>
    have hsame : m = m' := Except.ok.inj h
    subst hsame
    exact ⟨m.tagSources, rfl, fun _ => by simp⟩
  | cons first keys ih =>
    obtain ⟨middle, hfirst, hrest⟩ := bind_eq_ok.mp h
    obtain ⟨table, rfl, htable⟩ := insertTagSource_ok hfirst
    obtain ⟨table', rfl, htable'⟩ := ih hrest
    refine ⟨table', rfl, fun key => ?_⟩
    rw [htable']
    simp only [htable]
    by_cases hkey : first = key
    · subst hkey
      cases hfree : m.tagSources.find? first <;> simp [tagSourceRow]
    · have hkey' : key ≠ first := Ne.symm hkey
      simp [tagSourceRow, hkey, hkey']

end Receipts
end FrameNest.Metadata
