import FrameNest.Metadata.Changes

/-! One event of a history, as one medium sees it, and what every history keeps. -/
namespace FrameNest.Metadata
open Relational
variable {lib : Library} {event : Event lib} {past : List (Event lib)} {mediaId : String}

/-- What an event can do to a medium. -/
inductive Moved (event : Event lib) (mediaId : String) (m m' : Medium) : Prop
  | still : m' = m → Moved event mediaId m m'
  | saved (request : SaveRequest) : event.call = .save mediaId request →
      Saved lib request m m' → Moved event mediaId m m'
  | applied (request : ReviewRequest) (reviewed : Review) :
      event.call = .apply mediaId request → Applied lib request reviewed m m' →
      Moved event mediaId m m'
  | committed (accepted : Bool) (metadata : MediaMetadata lib) :
      event.call = .commit mediaId accepted (some metadata) → m = .new → Committed metadata m' →
      Moved event mediaId m m'

section Media
variable {w w' : Catalog} {name : String}

theorem medium_put (h : Named.put? w name .new = some w') :
    (Named.get? w' mediaId).getD .new = (Named.get? w mediaId).getD .new := by
  obtain ⟨hfree, hput⟩ := Named.put?_some h
  rw [hput]
  by_cases hname : name = mediaId
  · subst hname
    simp [hfree]
  · simp [hname]

theorem ne_none {m : Medium} (h : Named.get? w name = some m) : Named.get? w name ≠ none := by
  rw [h]
  exact Option.some_ne_none m

theorem medium_set (mediaId : String) (m' : Medium) (hthere : Named.get? w name ≠ none) :
    (Named.get? (Named.set w name m') mediaId).getD .new =
      if name = mediaId then m' else (Named.get? w mediaId).getD .new := by
  rw [Named.get?_set]
  by_cases hname : name = mediaId
  · subst hname
    cases hget : Named.get? w name with
    | none => exact absurd hget hthere
    | some m => simp
  · simp [hname]

end Media

section Steps
variable {outside : Outside} {w w' : Catalog} {name : String}

theorem saveMediaMetadata_ok {request : SaveRequest} {status : SaveStatus}
    (h : saveMediaMetadata lib outside name request w = .ok (status, w')) :
    ∃ m m', Named.get? w name = some m ∧ w' = Named.set w name m' ∧
      (m' = m ∨ Saved lib request m m') := by
  obtain ⟨-, -, h⟩ := bind_eq_ok.mp h
  split at h
  · cases h
  · rename_i m hm
    obtain ⟨⟨found, m'⟩, hsaved, h⟩ := bind_eq_ok.mp h
    cases h
    exact ⟨m, m', hm, rfl, saveOperation_ok hsaved⟩

theorem applyReview_ok {request : ReviewRequest} {status : SaveStatus}
    (h : applyReview lib outside name request w = .ok (status, w')) :
    ∃ m m', Named.get? w name = some m ∧ w' = Named.set w name m' ∧
      (m.Consistent → ∃ reviewed, Applied lib request reviewed m m') := by
  unfold applyReview at h
  split at h
  · cases h
  · rename_i m hm
    obtain ⟨⟨found, m'⟩, happlied, h⟩ := bind_eq_ok.mp h
    cases h
    exact ⟨m, m', hm, rfl, fun hconsistent => applyOperation_ok hconsistent happlied⟩

theorem commitCatalogedPublication_ok {accepted : Bool} {metadata : Option (MediaMetadata lib)}
    (h : commitCatalogedPublication outside name accepted metadata w = .ok w') :
    ∃ w₁, Named.put? w name .new = some w₁ ∧ (metadata = none ∧ w' = w₁ ∨
      ∃ found m', metadata = some found ∧ w' = Named.set w₁ name m' ∧ Committed found m') := by
  obtain ⟨-, h⟩ := require_bind_eq_ok.mp h
  obtain ⟨-, h⟩ := require_bind_eq_ok.mp h
  cases hput : Named.put? w name .new with
  | none =>
    rw [hput] at h
    cases h
  | some w₁ =>
    simp only [hput] at h
    refine ⟨w₁, rfl, ?_⟩
    cases metadata with
    | none =>
      cases h
      exact Or.inl ⟨rfl, rfl⟩
    | some found =>
      obtain ⟨m', hcommitted, h⟩ := bind_eq_ok.mp h
      cases h
      exact Or.inr ⟨found, m', rfl, rfl, commitOperation_ok hcommitted⟩

end Steps

/-- An event leaves a medium alone, or is a save, an apply or a commit of that medium. -/
theorem mediumAfter_cons (hm : (mediumAfter past mediaId).Consistent) :
    Moved event mediaId (mediumAfter past mediaId) (mediumAfter (event :: past) mediaId) := by
  obtain hsame | ⟨_, hdone⟩ := transaction_cases (after past) event.operation
  · exact .still (by simp only [mediumAfter, after, Event.step, hsame])
  change event.operation (after past) = .ok ((), after (event :: past)) at hdone
  obtain ⟨outside, call⟩ := event
  cases call with
  | register name =>
    simp only [Event.operation] at hdone
    split at hdone
    · rename_i w' hput
      have hafter : w' = after (⟨outside, .register name⟩ :: past) := by
        have hpair := Except.ok.inj hdone
        exact congrArg Prod.snd hpair
      exact .still (by simp only [mediumAfter, ← hafter, medium_put hput])
    · cases hdone
  | save name request =>
    obtain ⟨⟨status, w'⟩, hsaved, hpair⟩ := map_eq_ok.mp hdone
    have hafter : w' = after (⟨outside, .save name request⟩ :: past) := congrArg Prod.snd hpair
    obtain ⟨m, m', hget, rfl, hmoved⟩ := saveMediaMetadata_ok hsaved
    have hmedium := medium_set mediaId m' (ne_none hget)
    by_cases hname : name = mediaId
    · subst hname
      have hm' : mediumAfter past name = m := by simp [mediumAfter, hget]
      rw [if_pos rfl, hafter] at hmedium
      change Moved _ _ _ (Option.getD _ _)
      rw [hmedium, hm']
      obtain rfl | hsaved := hmoved
      · exact .still rfl
      · exact .saved request rfl hsaved
    · rw [if_neg hname, hafter] at hmedium
      exact .still hmedium
  | apply name request =>
    obtain ⟨⟨status, w'⟩, happlied, hpair⟩ := map_eq_ok.mp hdone
    have hafter : w' = after (⟨outside, .apply name request⟩ :: past) := congrArg Prod.snd hpair
    obtain ⟨m, m', hget, rfl, hmoved⟩ := applyReview_ok happlied
    have hmedium := medium_set mediaId m' (ne_none hget)
    by_cases hname : name = mediaId
    · subst hname
      have hm' : mediumAfter past name = m := by simp [mediumAfter, hget]
      rw [if_pos rfl, hafter] at hmedium
      obtain ⟨reviewed, happly⟩ := hmoved (hm' ▸ hm)
      change Moved _ _ _ (Option.getD _ _)
      rw [hmedium, hm']
      exact .applied request reviewed rfl happly
    · rw [if_neg hname, hafter] at hmedium
      exact .still hmedium
  | commit name accepted metadata =>
    obtain ⟨w', hcommitted, hpair⟩ := map_eq_ok.mp hdone
    have hafter : w' = after (⟨outside, .commit name accepted metadata⟩ :: past) :=
      congrArg Prod.snd hpair
    obtain ⟨w₁, hput, hcases⟩ := commitCatalogedPublication_ok hcommitted
    have hkept : (Named.get? w₁ mediaId).getD .new = mediumAfter past mediaId := medium_put hput
    obtain ⟨rfl, rfl⟩ | ⟨found, m', rfl, rfl, hmoved⟩ := hcases
    · rw [hafter] at hkept
      exact .still hkept
    · obtain ⟨hfree, hput'⟩ := Named.put?_some hput
      have hthere : Named.get? w₁ name = some .new := by simp [hput']
      have hmedium := medium_set mediaId m' (ne_none hthere)
      by_cases hname : name = mediaId
      · subst hname
        rw [if_pos rfl, hafter] at hmedium
        change Moved _ _ _ (Option.getD _ _)
        rw [hmedium]
        exact .committed accepted found rfl (by simp [mediumAfter, hfree]) hmoved
      · rw [if_neg hname, hafter, hkept] at hmedium
        exact .still hmedium

end FrameNest.Metadata
