import FrameNest.Relational.Ordering
import FrameNest.Analysis.ResponsiveDrain
import Mathlib.Data.Prod.Lex

/-! One responsive drain from its first page to its last: it visits every active run. -/
namespace FrameNest.Analysis
open Concurrent Relational

/-- The order of the pages. -/
def runKey (r : MediaAnalysisRun) : Nat ×ₗ String := toLex (r.createdAtMs, r.id.value)

/-- The cursor as a key. -/
def cursorKey (cursor : Option (Nat × MediaAnalysisRunId)) : Option (Nat ×ₗ String) :=
  cursor.map fun c => toLex (c.1, c.2.value)

theorem insertionSort_congr {ρ : Type} {r r' : ρ → ρ → Prop} [DecidableRel r] [DecidableRel r']
    (h : ∀ a b, r a b ↔ r' a b) (l : List ρ) : l.insertionSort r = l.insertionSort r' := by
  have heq : r = r' := by
    funext a b
    exact propext (h a b)
  subst heq
  congr

theorem afterCursor_eq (cursor : Option (Nat × MediaAnalysisRunId)) (r : MediaAnalysisRun) :
    RunStore.afterCursor cursor r = before (cursorKey cursor) (runKey r) := by
  cases cursor with
  | none => rfl
  | some c =>
    obtain ⟨now, id⟩ := c
    rw [Bool.eq_iff_iff]
    have hcomm : r.createdAtMs = now ↔ now = r.createdAtMs := eq_comm
    simp [RunStore.afterCursor, cursorKey, before, runKey, Prod.Lex.toLex_lt_toLex, hcomm]

/-- The unfinished runs, page by page. -/
theorem listUnfinished_eq (s : RunStore) (limit : Nat)
    (cursor : Option (Nat × MediaAnalysisRunId)) :
    s.listUnfinished limit cursor =
      page runKey (fun r => r.state.active) limit (cursorKey cursor) s.runs.rows := by
  have hfilter : (fun r : MediaAnalysisRun => r.state.active && RunStore.afterCursor cursor r) =
      fun r => r.state.active && before (cursorKey cursor) (runKey r) := by
    funext r
    rw [afterCursor_eq]
  have horder : ∀ a b : MediaAnalysisRun, RunStore.olderFirst a b ↔ runKey a ≤ runKey b := by
    intro a b
    have hcomm : b.createdAtMs = a.createdAtMs ↔ a.createdAtMs = b.createdAtMs := eq_comm
    simp [RunStore.olderFirst, RunStore.newerFirst, runKey, Prod.Lex.toLex_le_toLex, hcomm]
  unfold RunStore.listUnfinished page
  rw [hfilter, insertionSort_congr horder]

/-- A drain so far: the runs it has visited are turned, the others are as it found them. -/
structure Walked (maxAttempts : MaxAttempts) (s t : RunStore) (visited : List MediaAnalysisRunId) :
    Prop where
  untouched : ∀ k, k ∉ visited → t.find? k = s.find? k
  turned : ∀ k ∈ visited, ∃ r r', s.find? k = some r ∧ r.state.active = true ∧
    t.find? k = some r' ∧ SameOrigin r r' ∧ Turned maxAttempts r r'

theorem Walked.refl (maxAttempts : MaxAttempts) (s : RunStore) : Walked maxAttempts s s [] :=
  ⟨fun _ _ => rfl, fun _ h => by cases h⟩

section Walk
variable {maxAttempts : MaxAttempts} {s t : RunStore} {visited : List MediaAnalysisRunId}

theorem Walked.visit (h : Walked maxAttempts s t visited) {run : MediaAnalysisRun} {u : RunStore}
    (hrow : s.find? run.id = some run) (hactive : run.state.active = true)
    (hvisit : VisitedRun maxAttempts run t u) :
    Walked maxAttempts s u (run.id :: visited) where
  untouched k hk := by
    simp only [List.mem_cons, not_or] at hk
    exact (hvisit.others k hk.1).trans (h.untouched k hk.2)
  turned k hk := by
    by_cases hself : k = run.id
    · subst hself
      obtain ⟨r', hr', horigin, hturned⟩ := hvisit.turned
      exact ⟨run, r', hrow, hactive, hr', horigin, hturned⟩
    · have hold : k ∈ visited := (List.mem_cons.mp hk).resolve_left hself
      obtain ⟨r, r', hr, ha, hr', horigin, hturned⟩ := h.turned k hold
      exact ⟨r, r', hr, ha, (hvisit.others k hself).trans hr', horigin, hturned⟩

/-- Every row is one of those the drain began with. -/
theorem Walked.row (h : Walked maxAttempts s t visited) {k : MediaAnalysisRunId}
    {r' : MediaAnalysisRun} (hr' : t.find? k = some r') :
    ∃ r, s.find? k = some r ∧ SameOrigin r r' ∧
      (r'.state.active = true → r.state.active = true) := by
  by_cases hk : k ∈ visited
  · obtain ⟨r, r₁, hr, ha, hr₁, horigin, -⟩ := h.turned k hk
    rw [hr'] at hr₁
    cases hr₁
    exact ⟨r, hr, horigin, fun _ => ha⟩
  · rw [h.untouched k hk] at hr'
    exact ⟨r', hr', .refl r', id⟩

end Walk

section Drain
variable {lower : String → String} {maxAttempts : MaxAttempts} {s : AnalysisState} {s₀ : RunStore}
  {run : MediaAnalysisRun}

/-- A call that is answered with no. -/
theorem ends_no {α : Type} {Q : Except AnalysisFailure α → AnalysisState → Prop}
    {e : AnalysisEffect} {f : e.Answer → AnalysisProgram α} (no : e.Answer) (he : e.reads = true)
    (hno : ∀ i : ResponsiveMoment, (e.exec i.toMoment s).1 = .ok no) (hs : s.store.Checked)
    (h : ∀ t : AnalysisState, t.store = s.store → Ends Q (f no) t) : Ends Q (perform e >>= f) s := by
  refine ends_read he hs (fun i a t ha ht => ?_) fun i x t hx _ => ?_
  · rw [hno i] at ha
    cases ha
    exact h t ht
  · rw [hno i] at hx
    cases hx

theorem stopping_no (i : ResponsiveMoment) (s : AnalysisState) :
    (AnalysisEffect.exec i.toMoment .stopping s).1 = .ok false := congrArg Except.ok i.running

theorem active_no (i : ResponsiveMoment) (id : MediaAnalysisRunId) (s : AnalysisState) :
    (AnalysisEffect.exec i.toMoment (.activeRunIds id) s).1 = .ok false :=
  congrArg Except.ok i.idle

variable (lower maxAttempts) in
theorem processRun_visits (hs : s.store.Checked) (hrow : s.store.find? run.id = some run)
    (hactive : run.state.active = true) :
    Ends (fun r t => (r = .ok .progress ∨ r = .ok .retry) ∧
      VisitedRun maxAttempts run s.store t.store) (processRun lower run maxAttempts) s := by
  refine ends_no false rfl (fun i => active_no i run.id s) hs fun t ht => ?_
  rw [← ht] at hs hrow ⊢
  refine Upholds.ite (fun h => by cases h) fun _ => Upholds.ite (fun h => ?_) fun _ => ?_
  · simp [hactive] at h
  · refine ends_no false rfl (fun i => stopping_no i t) hs fun u hu => ?_
    rw [← hu] at hs hrow ⊢
    refine Upholds.ite (fun h => by cases h) fun _ => ?_
    refine ends_rescue (fun r v => (∀ a, r = .ok a → a = .progress) ∧
      VisitedRun maxAttempts run u.store v.store) (ends_bind (execute_visits hs hrow hactive) ?_ ?_)
      ?_ ?_
    · exact fun _ v hv => ⟨fun a ha => (Except.ok.inj ha).symm, hv⟩
    · exact fun x v hv => ⟨fun a ha => (by cases ha), hv⟩
    · exact fun a v hv => ⟨Or.inl (congrArg Except.ok (hv.1 a rfl)), hv.2⟩
    · exact fun x v hv => ⟨Or.inr rfl, hv.2⟩

/-- A page is walked to its end. -/
theorem drainBatch_walks (found : List MediaAnalysisRun) (d : DrainState) (hs : s.store.Checked)
    (hwalked : Walked maxAttempts s₀ s.store d.visited)
    (hfound : ∀ r ∈ found, r.id ∉ d.visited → s₀.find? r.id = some r ∧ r.state.active = true) :
    Ends (fun r t => ∃ d', r = .ok (some d') ∧ Walked maxAttempts s₀ t.store d'.visited ∧
      (∀ r ∈ found, r.id ∈ d'.visited) ∧ (∀ k ∈ d.visited, k ∈ d'.visited) ∧
      d'.cursor = (found.getLast?.map fun r => (r.createdAtMs, r.id)).or d.cursor)
      (drainBatch lower maxAttempts found d) s := by
  induction found generalizing s d with
  | nil => exact ⟨d, rfl, hwalked, fun _ h => (by cases h), fun _ h => h, rfl⟩
  | cons run rest ih =>
    have hlast : ∀ cursor, ((run :: rest).getLast?.map fun r => (r.createdAtMs, r.id)).or cursor =
        (rest.getLast?.map fun r => (r.createdAtMs, r.id)).or (some (run.createdAtMs, run.id)) := by
      intro cursor
      cases rest with
      | nil => rfl
      | cons second rest =>
        have hsome : ((second :: rest).getLast?.map fun r => (r.createdAtMs, r.id)).isSome = true := by
          simp
        rw [List.getLast?_cons_cons, Option.or_of_isSome hsome, Option.or_of_isSome hsome]
    refine ends_no false rfl (fun i => stopping_no i s) hs fun t ht => ?_
    rw [← ht] at hs hwalked
    refine Upholds.ite (fun h => by cases h) fun _ => Upholds.ite (fun hseen => ?_) fun hfresh => ?_
    · have hin : run.id ∈ d.visited := by simpa using hseen
      refine Upholds.mono (fun r u hu => ?_)
        (ih { d with cursor := some (run.createdAtMs, run.id) } hs hwalked fun r hr =>
          hfound r (List.mem_cons_of_mem _ hr))
      obtain ⟨d', hr, hwalk, hall, hkeep, hcursor⟩ := hu
      refine ⟨d', hr, hwalk, ?_, hkeep, by rw [hlast]; exact hcursor⟩
      rintro r hmem
      obtain rfl | hmem := List.mem_cons.mp hmem
      · exact hkeep _ hin
      · exact hall r hmem
    · have hout : run.id ∉ d.visited := by simpa using hfresh
      obtain ⟨hrow, hactive⟩ := hfound run List.mem_cons_self hout
      have hhere : t.store.find? run.id = some run := (hwalked.untouched _ hout).trans hrow
      -- whether it made progress or asks to be retried, the walk goes on
      have hnext : ∀ (u : AnalysisState) (retryNeeded : Bool), u.store.Checked →
          VisitedRun maxAttempts run t.store u.store →
          Ends (fun r t => ∃ d', r = .ok (some d') ∧ Walked maxAttempts s₀ t.store d'.visited ∧
            (∀ r ∈ run :: rest, r.id ∈ d'.visited) ∧ (∀ k ∈ d.visited, k ∈ d'.visited) ∧
            d'.cursor = ((run :: rest).getLast?.map fun r => (r.createdAtMs, r.id)).or d.cursor)
            (drainBatch lower maxAttempts rest
              ⟨some (run.createdAtMs, run.id), run.id :: d.visited, retryNeeded⟩) u := by
        intro u retryNeeded hu hvisit
        refine Upholds.mono (fun r v hv => ?_)
          (ih ⟨some (run.createdAtMs, run.id), run.id :: d.visited, retryNeeded⟩ hu
            (hwalked.visit hrow hactive hvisit) fun r hr hr' =>
              hfound r (List.mem_cons_of_mem _ hr) fun hin => hr' (List.mem_cons_of_mem _ hin))
        obtain ⟨d', hr, hwalk, hall, hkeep, hcursor⟩ := hv
        refine ⟨d', hr, hwalk, ?_, fun k hk => hkeep k (List.mem_cons_of_mem _ hk), by
          rw [hlast]; exact hcursor⟩
        rintro r hmem
        obtain rfl | hmem := List.mem_cons.mp hmem
        · exact hkeep _ List.mem_cons_self
        · exact hall r hmem
      refine ends_bind (Upholds.keeps hs (processRun_visits lower maxAttempts hs
        hhere hactive)) ?_ ?_
      · rintro outcome u ⟨⟨houtcome, hvisit⟩, hu⟩
        obtain houtcome | houtcome := houtcome
        · cases houtcome
          exact hnext u d.retryNeeded hu hvisit
        · cases houtcome
          exact hnext u true hu hvisit
      · rintro x u ⟨⟨houtcome, -⟩, -⟩
        obtain houtcome | houtcome := houtcome <;> cases houtcome

theorem discover_finds (batchSize : Nat) (cursor : Option (Nat × MediaAnalysisRunId))
    (hs : s.store.Checked) : Ends (fun r t => r = .ok (some (s.store.listUnfinished batchSize cursor)) ∧
      t.store = s.store) (discover batchSize cursor) s := by
  have hlisted : Ends (fun (r : Except AnalysisFailure (List MediaAnalysisRun)) t =>
      r = .ok (s.store.listUnfinished batchSize cursor) ∧ t.store = s.store)
      (runs .coordinator (.listUnfinished batchSize cursor)) s :=
    ends_write (fun _ _ => rfl) hs fun u hu => ⟨rfl, hu⟩
  refine ends_rescue (fun r t => r = .ok (some (s.store.listUnfinished batchSize cursor)) ∧
      t.store = s.store) (ends_bind hlisted ?_ ?_) ?_ ?_
  · rintro found t ⟨hfound, ht⟩
    cases hfound
    exact ⟨rfl, ht⟩
  · rintro x t ⟨hx, -⟩
    cases hx
  · exact fun _ _ h => h
  · rintro x t ⟨hx, -⟩
    cases hx

theorem runKey_injective {t : RunStore} {a b : MediaAnalysisRun} (ha : a ∈ t.runs.rows)
    (hb : b ∈ t.runs.rows) (h : runKey a = runKey b) : a = b := by
  have hvalue : a.id.value = b.id.value := congrArg (fun key => (ofLex key).2) h
  have hid : a.id = b.id := by
    cases ha' : a.id
    cases hb' : b.id
    simp_all
  exact Table.eq_of_key ha hb hid

theorem SameOrigin.runKey {a b : MediaAnalysisRun} (h : SameOrigin a b) :
    Analysis.runKey b = Analysis.runKey a := by
  simp only [Analysis.runKey, h.createdAtMs, h.id]

/-- With a page for every row there is, a drain comes to its end, and by then it has visited
every run that was active when it began. -/
theorem drainOnce_walks {batchSize : Nat} (hbatch : 0 < batchSize) (fuel : Nat) (d : DrainState)
    (hs : s.store.Checked) (hwalked : Walked maxAttempts s₀ s.store d.visited)
    (hahead : ∀ k r, s₀.find? k = some r → r.state.active = true →
      k ∈ d.visited ∨ before (cursorKey d.cursor) (runKey r) = true)
    (hfuel : s₀.runs.rows.countP (fun r => before (cursorKey d.cursor) (runKey r)) < fuel) :
    Ends (fun r t => (∃ outcome, r = .ok outcome) ∧ ∃ visited, Walked maxAttempts s₀ t.store visited ∧
      ∀ k r, s₀.find? k = some r → r.state.active = true → k ∈ visited)
      (drainOnce lower maxAttempts batchSize fuel d) s := by
  induction fuel generalizing s d with
  | zero => omega
  | succ fuel ih =>
    refine ends_no false rfl (fun i => stopping_no i s) hs fun t ht => ?_
    rw [← ht] at hs hwalked
    refine Upholds.ite (fun h => by cases h) fun _ => ?_
    refine ends_bind (Upholds.keeps hs (discover_finds batchSize d.cursor hs)) ?_ ?_
    · rintro found u ⟨⟨hfound, hu⟩, hchecked⟩
      cases hfound
      rw [← hu] at hwalked ⊢
      have hpage := listUnfinished_eq u.store batchSize d.cursor
      generalize u.store.listUnfinished batchSize d.cursor = found at hpage
      -- an active run the drain has not visited is a row ahead of the cursor
      have hopen : ∀ k r, s₀.find? k = some r → r.state.active = true → k ∉ d.visited →
          r ∈ u.store.runs.rows ∧ before (cursorKey d.cursor) (runKey r) = true := by
        intro k r hr ha hk
        have hrow := (hwalked.untouched k hk).trans hr
        exact ⟨RunStore.mem_of_find? hrow, (hahead k r hr ha).resolve_left hk⟩
      cases found with
      | nil =>
        refine ⟨⟨_, rfl⟩, d.visited, hwalked, fun k r hr ha => ?_⟩
        by_contra hk
        obtain ⟨hrow, hbefore⟩ := hopen k r hr ha hk
        have hend := page_eq_nil hbatch hpage.symm hrow ha
        rw [hbefore] at hend
        cases hend
      | cons run rest =>
        have hlisted : ∀ r ∈ run :: rest, r ∈ u.store.runs.rows ∧ r.state.active = true ∧
            before (cursorKey d.cursor) (runKey r) = true := by
          intro r hr
          rw [hpage] at hr
          exact mem_page hr
        refine ends_bind (Upholds.keeps hchecked (drainBatch_walks (run :: rest) d hchecked hwalked
          fun r hr hout => ?_)) ?_ ?_
        · obtain ⟨hrow, ha, -⟩ := hlisted r hr
          have hfind := RunStore.find?_of_mem hrow
          rw [hwalked.untouched _ hout] at hfind
          exact ⟨hfind, ha⟩
        · rintro next v ⟨⟨d', hnext, hwalk, hall, hkeep, hcursor⟩, hv⟩
          cases hnext
          -- the cursor now stands at the last row of the page
          obtain ⟨last, hlast⟩ : ∃ last, (run :: rest).getLast? = some last :=
            ⟨_, List.getLast?_eq_some_getLast (List.cons_ne_nil run rest)⟩
          have hmem : last ∈ run :: rest := List.mem_of_getLast? hlast
          have hkey : cursorKey d'.cursor = some (runKey last) := by
            rw [hcursor, hlast]
            rfl
          obtain ⟨hlastrow, -, hlastbefore⟩ := hlisted last hmem
          refine ih d' hv hwalk (fun k r hr ha => ?_) ?_
          · by_cases hk : k ∈ d'.visited
            · exact Or.inl hk
            · right
              obtain ⟨hrow, hbefore⟩ := hopen k r hr ha fun hin => hk (hkeep k hin)
              have hid : r.id = k := RunStore.id_of_find? hr
              have hskipped : r ∉ run :: rest := fun hin => hk (hid ▸ hall r hin)
              rw [hpage] at hskipped hmem
              have hle := page_skips hrow ha hbefore hskipped last hmem
              rw [hkey, before_some]
              refine lt_of_le_of_ne hle fun heq => hskipped ?_
              rw [← runKey_injective hlastrow hrow heq]
              exact hmem
          · obtain ⟨r₀, hr₀, horigin, -⟩ := hwalked.row (RunStore.find?_of_mem hlastrow)
            have hsame : runKey r₀ = runKey last := horigin.runKey.symm
            have hfewer := countP_before_lt hlastbefore (RunStore.mem_of_find? hr₀) hsame le_rfl
            rw [hkey]
            omega
        · rintro x v ⟨⟨d', hx, -⟩, -⟩
          cases hx
    · rintro x u ⟨⟨hx, -⟩, -⟩
      cases hx

end Drain

end FrameNest.Analysis
