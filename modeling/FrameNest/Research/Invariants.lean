import FrameNest.Research.Answers

/-! What holds in every reachable state, whoever acts on whatever row: the tables
agree with each other, and every caller's memory agrees with the tables. -/
namespace FrameNest.Research
open Relational Concurrent ResearchRuntime

/- ADMITTED or SUBMITTING: no caller but the one that submits has a use for the row. -/
def ResearchRequestRow.fresh (row : ResearchRequestRow) : Prop :=
  row.state = .admitted ∨ row.state = .submitting

/- A marked row is CANCEL_REQUESTED or terminal; a VALIDATING row has its handle and
   the checkpoint of an answer that may be saved. -/
structure ResearchRequestRow.WellFormed (row : ResearchRequestRow) : Prop where
  marked : row.cancelRequestedAtMs ≠ none → row.state = .cancelRequested ∨ row.terminal = true
  validating : row.state = .validating → row.handle.isSome = true ∧ ∃ answer : ResearchAnswer,
    row.checkpointJson = some (answerCheckpoint answer) ∧ completionError answer.evidence = none

/- A state that is not VALIDATING asks only about the mark. -/
theorem wellFormed_of {row : ResearchRequestRow} (hs : row.state ≠ .validating)
    (hm : row.cancelRequestedAtMs ≠ none → row.state = .cancelRequested ∨ row.terminal = true) :
    row.WellFormed := ⟨hm, fun h => absurd h hs⟩

theorem wellFormed_terminal {row : ResearchRequestRow} (h : row.terminal = true) :
    row.WellFormed := by
  refine wellFormed_of (fun hs => ?_) fun _ => Or.inr h
  simp [ResearchRequestRow.terminal, hs, isTerminalLifecycle] at h

def ResearchState.hasDocument (s : ResearchState) (op : String) : Prop :=
  ∃ document ∈ s.documents.rows, document.operationId = op

instance (s : ResearchState) (op : String) : Decidable (s.hasDocument op) :=
  inferInstanceAs (Decidable (∃ document ∈ s.documents.rows, document.operationId = op))

def ResearchState.hasHold (s : ResearchState) (row : ResearchRequestRow) : Prop :=
  ∃ hold, s.holds.find? row.operationId = some hold ∧
    hold.reservedUsdMicros = row.record.profile.budgetReservationUsdMicros

structure Consistent (s : ResearchState) : Prop where
  wellFormed : ∀ op row, s.request? op = some row → row.WellFormed
  accepted : ∀ op row, s.request? op = some row → row.updateAccepted = true
  saved : ∀ op row, s.request? op = some row → row.state = .saved → s.hasDocument op
  bound : ∀ op row, s.request? op = some row → row.recordId ≠ none → s.hasDocument op
  held : ∀ op row, s.request? op = some row → s.hasHold row
  fresh : ∀ op row, s.request? op = some row → row.fresh → s.slot = some op
  recorded : ∀ record ∈ s.records.rows, s.hasDocument record.finalOperationId

/- A row that some caller holds for `op`, against the tables. -/
structure Fits (s : ResearchState) (op : String) (row : ResearchRequestRow) : Prop where
  operationId : row.operationId = op
  known : ∃ stored, s.request? op = some stored
  wellFormed : row.WellFormed
  saved : row.state = .saved → s.hasDocument op
  bound : row.recordId ≠ none → s.hasDocument op
  fresh : ∀ stored, s.request? op = some stored → stored.fresh → row.fresh

structure Coherent (g : Memory) (s : ResearchState) : Prop where
  seen : ∀ op row, g.seen op = some row → Fits s op row
  completed : ∀ c, g.completed = some c → s.hasDocument c.operationId ∧
    ∃ stored, s.request? c.operationId = some stored ∧ ¬ stored.fresh
  claimed : ∀ op, g.claimed = some op → ∃ stored, s.request? op = some stored ∧
    stored.state ≠ .admitted

/- Documents and requests stay, and no request becomes fresh again. -/
structure Grows (s s' : ResearchState) : Prop where
  documents : ∀ op, s.hasDocument op → s'.hasDocument op
  requests : ∀ op row, s.request? op = some row → ∃ row', s'.request? op = some row' ∧
    (row'.fresh → row.fresh) ∧ (row'.state = .admitted → row.state = .admitted)

theorem Grows.of_same {s s' : ResearchState} (h : SameTables s s') : Grows s s' where
  documents op hd := by
    unfold ResearchState.hasDocument at hd ⊢
    rwa [h.documents]
  requests op row hr := ⟨row, by rw [h.request?]; exact hr, id, id⟩

theorem Grows.trans {s t u : ResearchState} (h : Grows s t) (h' : Grows t u) : Grows s u where
  documents op hd := h'.documents op (h.documents op hd)
  requests op row hr := by
    obtain ⟨mid, hmid, hfresh, hadmitted⟩ := h.requests op row hr
    obtain ⟨last, hlast, hfresh', hadmitted'⟩ := h'.requests op mid hmid
    exact ⟨last, hlast, fun hf => hfresh (hfresh' hf), fun ha => hadmitted (hadmitted' ha)⟩

theorem Fits.grow {s s' : ResearchState} {op : String} {row : ResearchRequestRow}
    (h : Fits s op row) (hs : Grows s s') : Fits s' op row := by
  obtain ⟨stored, hst⟩ := h.known
  obtain ⟨stored', hst', hfresh, -⟩ := hs.requests op stored hst
  refine ⟨h.operationId, ⟨stored', hst'⟩, h.wellFormed, fun hsaved => hs.documents op (h.saved hsaved),
    fun hb => hs.documents op (h.bound hb), fun found hfound hf => ?_⟩
  cases hst'.symm.trans hfound
  exact h.fresh stored hst (hfresh hf)

theorem Consistent.fits {s : ResearchState} (hs : Consistent s) {op : String}
    {row : ResearchRequestRow} (hr : s.request? op = some row) : Fits s op row := by
  refine ⟨ResearchState.request?_operationId hr, ⟨row, hr⟩, hs.wellFormed op row hr, hs.saved op row hr,
    hs.bound op row hr, fun stored hst hf => ?_⟩
  cases hr.symm.trans hst
  exact hf

theorem Coherent.grow {g : Memory} {s s' : ResearchState} (h : Coherent g s) (hs : Grows s s') :
    Coherent g s' where
  seen op row hb := (h.seen op row hb).grow hs
  completed c hc := by
    obtain ⟨hd, stored, hst, hf⟩ := h.completed c hc
    obtain ⟨stored', hst', hfresh, -⟩ := hs.requests _ stored hst
    exact ⟨hs.documents _ hd, stored', hst', fun h => hf (hfresh h)⟩
  claimed op hc := by
    obtain ⟨stored, hst, hf⟩ := h.claimed op hc
    obtain ⟨stored', hst', -, hadm⟩ := hs.requests _ stored hst
    exact ⟨stored', hst', fun h => hf (hadm h)⟩

theorem Coherent.start (c : Call) (s : ResearchState) : Coherent { call := c } s where
  seen _ _ h := nomatch h
  completed _ h := nomatch h
  claimed _ h := nomatch h

/- What a permitted save keeps of the row it starts from. -/
theorem worksOn_notFresh {g : Memory} {row : ResearchRequestRow} (hw : g.worksOn row)
    (hs : row.state ≠ .submitting) : ¬ row.fresh := by
  have hcall := hw.2.2
  rintro (hf | hf)
  · cases hg : g.call with
    | submitPending => simp [hg, hf] at hcall
    | pollOnce => simp [hg, hf] at hcall
    | _ => simp [hg] at hcall
  · exact hs hf

theorem terminal_notFresh {row : ResearchRequestRow} (h : row.terminal = true) : ¬ row.fresh := by
  rintro (hf | hf) <;> simp [ResearchRequestRow.terminal, hf, isTerminalLifecycle] at h

structure SaveFacts (g : Memory) (basis row : ResearchRequestRow) : Prop where
  operationId : row.operationId = basis.operationId
  recordId : row.recordId = basis.recordId
  notFresh : ¬ row.fresh
  wellFormed : basis.WellFormed → row.WellFormed
  saved : row.state = .saved → basis.state = .saved ∨
    ∃ c, g.completed = some c ∧ c.operationId = basis.operationId

theorem concludes_saved {g : Memory} {row : ResearchRequestRow} (h : g.concludes row .saved) :
    ∃ c, g.completed = some c ∧ c.operationId = row.operationId := by
  have hcall := h.2
  cases hg : g.call with
  | submitPending =>
    simp only [hg, ne_eq, not_true_eq_false, and_false, false_or] at hcall
    obtain ⟨c, hc, hop, -⟩ := hcall
    exact ⟨c, hc, hop⟩
  | pollOnce =>
    simp only [hg, ne_eq, not_true_eq_false, and_false, false_or] at hcall
    obtain ⟨c, hc, hop, -⟩ := hcall
    exact ⟨c, hc, hop⟩
  | _ => simp [hg] at hcall

theorem saveAllowed_facts {rt : ResearchRuntime} {g : Memory} {basis row : ResearchRequestRow}
    (h : rt.SaveAllowed g basis row) : SaveFacts g basis row := by
  cases h with
  | running handle nowMs hw hs =>
    refine ⟨rfl, rfl, by simp [ResearchRequestRow.fresh], fun hm => ?_, by simp⟩
    refine wellFormed_of (by simp) fun hc => ?_
    obtain hst | ht := hm.marked hc
    · simp [hst] at hs
    · simp [ResearchRequestRow.terminal, hs, isTerminalLifecycle] at ht
  | touched nowMs hw hs =>
    exact ⟨rfl, rfl, worksOn_notFresh hw hs, fun hm => ⟨hm.marked, hm.validating⟩,
      fun hst => Or.inl hst⟩
  | validating handle answer nowMs hw hs hc he =>
    exact ⟨rfl, rfl, by simp [ResearchRequestRow.fresh], fun _ =>
      ⟨fun hne => absurd hc hne, fun _ => ⟨rfl, answer, rfl, he⟩⟩, by simp⟩
  | finished state code accounting nowMs ht hc =>
    refine ⟨rfl, rfl, terminal_notFresh ht, fun _ => wellFormed_terminal ht, fun hst => Or.inr ?_⟩
    have hstate : state = .saved := hst
    subst hstate
    exact concludes_saved hc
  | cancelMarked nowMs ho hg ht hc =>
    exact ⟨rfl, rfl, by simp [ResearchRequestRow.fresh],
      fun _ => wellFormed_of (by simp) fun _ => Or.inl rfl, by simp⟩
  | confirmed confirmedAtMs updatedAtMs hg ho hs hc =>
    exact ⟨rfl, rfl, by simp [ResearchRequestRow.fresh, hs],
      fun hm => ⟨hm.marked, hm.validating⟩, fun hst => Or.inl hst⟩
  | cleaned cleanup nowMs hg ht =>
    exact ⟨rfl, rfl, terminal_notFresh ht, fun hm => ⟨hm.marked, hm.validating⟩,
      fun hst => Or.inl hst⟩

section Steps
variable {rt : ResearchRuntime} {g : Memory} {s s' : ResearchState}

theorem savedState_self {row stored : ResearchRequestRow}
    (h : s.request? row.operationId = some stored) :
    (savedState s row).request? row.operationId = some (stored.overwrite row) := by
  simp [request?_savedState, h]

theorem savedState_other {row : ResearchRequestRow} {op : String} (h : row.operationId ≠ op) :
    (savedState s row).request? op = s.request? op := by
  simp [request?_savedState, h]

theorem answered_grows {e : Effect} {r : Except Failure e.Result}
    (h : Answered rt.casefold s e r s') (hm : rt.may g e) : Grows s s' := by
  cases h with
  | failed e x s' hsame => exact Grows.of_same hsame
  | plain e a s' hp hsame => exact Grows.of_same hsame
  | blocker => exact Grows.of_same (SameTables.refl s)
  | byClient owner client => exact Grows.of_same (SameTables.refl s)
  | request op => exact Grows.of_same (SameTables.refl s)
  | slot => exact Grows.of_same (SameTables.refl s)
  | cleanup limit => exact Grows.of_same (SameTables.refl s)
  | replayed row existing reservation hf hfp => exact Grows.of_same (SameTables.refl s)
  | admitted row reservation requests holds hold hf hslot hop hres hi hu hr hh =>
    refine ⟨fun op hd => hd, fun op stored hst => ⟨stored, ?_, id, id⟩⟩
    have hne : row.operationId ≠ op := by
      rintro rfl
      have hnone := (Table.insert?_some hr).1
      rw [ResearchRequestRow.persisted_operationId] at hnone
      exact absurd (hst.symm.trans hnone) (by simp)
    exact (request?_insert hr op).trans (by rw [if_neg hne]; exact hst)
  | saved row stored hst hacc =>
    obtain ⟨basis, -, hsave⟩ := hm
    have hnot := (saveAllowed_facts hsave).notFresh
    refine ⟨fun op hd => hd, fun op found hf => ?_⟩
    by_cases hop : row.operationId = op
    · subst hop
      exact ⟨_, savedState_self hst, fun h => absurd h hnot, fun h => absurd (Or.inl h) hnot⟩
    · exact ⟨found, by rw [savedState_other hop]; exact hf, id, id⟩
  | unclaimed op => exact Grows.of_same (SameTables.refl s)
  | claimed op stored nowMs hst hs hacc =>
    refine ⟨fun op hd => hd, fun op' found hf => ?_⟩
    by_cases hop : op = op'
    · subst hop
      cases hst.symm.trans hf
      refine ⟨stored.claimed nowMs, by simp [request?_claimedState, hst], fun _ => Or.inl hs,
        fun h => hs⟩
    · exact ⟨found, by simp [request?_claimedState, hop, hf], id, id⟩
  | reconciled r nowMs hold holds h => exact ⟨fun op hd => hd, fun op row hr => ⟨row, hr, id, id⟩⟩
  | bound c receipt request hst hb => exact Grows.of_same (SameTables.refl s)
  | completed c receipt request nowMs documentId recordId owner document documents records hst hb
      hacc hdoc hd hr =>
    refine ⟨fun op hd' => ?_, fun op found hf => ?_⟩
    · obtain ⟨d, hmem, hop⟩ := hd'
      exact ⟨d, by
        show d ∈ documents.rows
        rw [(insertDocument_some hd).1]
        exact List.mem_append_left _ hmem, hop⟩
    · by_cases hop : c.operationId = op
      · subst hop
        cases hst.symm.trans hf
        exact ⟨request.bound recordId nowMs, by simp [request?_boundState, hst], id, id⟩
      · exact ⟨found, by simp [request?_boundState, hop, hf], id, id⟩

/-- A document comes from its own completion alone. -/
theorem answered_document {e : Effect} {r : Except Failure e.Result}
    (h : Answered rt.casefold s e r s') {op : String} (hd : s'.hasDocument op) :
    s.hasDocument op ∨ ∃ c, e = .complete c ∧ c.operationId = op := by
  have hsame : ∀ {s' : ResearchState}, SameTables s s' → s'.hasDocument op → s.hasDocument op := by
    intro s' h hd
    unfold ResearchState.hasDocument at hd ⊢
    rwa [h.documents] at hd
  cases h with
  | failed e x s' h => exact Or.inl (hsame h hd)
  | plain e a s' hp h => exact Or.inl (hsame h hd)
  | completed c receipt request nowMs documentId recordId owner document documents records hst hb
      hacc hdoc hins hr =>
    obtain ⟨d, hmem, hop⟩ := hd
    have hmem : d ∈ documents.rows := hmem
    rw [(insertDocument_some hins).1, List.mem_append, List.mem_singleton] at hmem
    obtain hmem | rfl := hmem
    · exact Or.inl ⟨d, hmem, hop⟩
    · exact Or.inr ⟨c, rfl, (make?_some hdoc).2.1.symm.trans hop⟩
  | _ => exact Or.inl hd

theorem Consistent.of_same (hs : Consistent s) (h : SameTables s s') : Consistent s' where
  wellFormed op row hr := hs.wellFormed op row (by rwa [h.request?] at hr)
  accepted op row hr := hs.accepted op row (by rwa [h.request?] at hr)
  saved op row hr hst := (Grows.of_same h).documents op
    (hs.saved op row (by rwa [h.request?] at hr) hst)
  bound op row hr hb := (Grows.of_same h).documents op
    (hs.bound op row (by rwa [h.request?] at hr) hb)
  held op row hr := by
    have hh := hs.held op row (by rwa [h.request?] at hr)
    unfold ResearchState.hasHold at hh ⊢
    rwa [h.holds]
  fresh op row hr hf := by
    rw [h.slot]
    exact hs.fresh op row (by rwa [h.request?] at hr) hf
  recorded record hr := (Grows.of_same h).documents _
    (hs.recorded record (by rwa [h.records] at hr))

theorem admitAllowed_state {row : ResearchRequestRow} {reservation : BudgetReservation}
    (h : rt.AdmitAllowed g row reservation) : row.state = .admitted := by
  rw [h.row_eq]
  exact (admissionRecord?_some h.record_eq).2.2.2.2

theorem consistent_admitted (hs : Consistent s) {row : ResearchRequestRow}
    {reservation : BudgetReservation} {requests : RequestTable} {holds : HoldTable}
    {hold : BudgetHold} (hadm : rt.AdmitAllowed g row reservation) (hslot : s.activeSlot = none)
    (hop : reservation.operationId = row.operationId)
    (hres : reservation.reservedUsdMicros = row.record.profile.budgetReservationUsdMicros)
    (hu : row.updateAccepted = true) (hr : s.requests.insert? row.persisted = some requests)
    (hh : reserveHold s.holds reservation true row.admittedAtMs = .ok (hold, holds)) :
    Consistent { s with requests, holds, activeSlot := some (row.operationId, row.admittedAtMs) } := by
  obtain ⟨dayKey, monthKey, -, -, -, -, hins⟩ := reserveHold_ok hh
  have hnew : row.state = .admitted ∧ row.cancelRequestedAtMs = none ∧ row.recordId = none := by
    refine ⟨admitAllowed_state hadm, ?_⟩
    rw [hadm.row_eq]
    exact ⟨rfl, rfl⟩
  -- an operation of the new table is the new row or one of the old rows
  have hcase : ∀ op found, requests.find? op = some found →
      (row.operationId = op ∧ found = row.persisted) ∨ s.request? op = some found := by
    intro op found hf
    rw [request?_insert hr op] at hf
    by_cases hk : row.operationId = op
    · exact Or.inl ⟨hk, by simpa [hk] using hf.symm⟩
    · exact Or.inr (by simpa [hk] using hf)
  refine ⟨fun op found hf => ?_, fun op found hf => ?_, fun op found hf hst => ?_,
    fun op found hf hb => ?_, fun op found hf => ?_, fun op found hf hfr => ?_, hs.recorded⟩
  · obtain ⟨-, rfl⟩ | hf := hcase op found hf
    · have hstate : row.persisted.state ≠ .validating := by
        have hst : row.persisted.state = .admitted := hnew.1
        simp [hst]
      exact wellFormed_of hstate fun hc => absurd hnew.2.1 hc
    · exact hs.wellFormed op found hf
  · obtain ⟨-, rfl⟩ | hf := hcase op found hf
    · exact hu
    · exact hs.accepted op found hf
  · obtain ⟨-, rfl⟩ | hf := hcase op found hf
    · have hst : row.state = .saved := hst
      rw [hnew.1] at hst
      cases hst
    · exact hs.saved op found hf hst
  · obtain ⟨-, rfl⟩ | hf := hcase op found hf
    · exact absurd hnew.2.2 hb
    · exact hs.bound op found hf hb
  · obtain ⟨-, rfl⟩ | hf := hcase op found hf
    · refine ⟨reservation.row dayKey monthKey row.admittedAtMs, ?_, hres⟩
      exact (Table.find?_insert hins row.operationId).trans (if_pos hop)
    · obtain ⟨h', hfind, hreserved⟩ := hs.held op found hf
      refine ⟨h', (Table.find?_insert hins found.operationId).trans ?_, hreserved⟩
      have hne : (reservation.row dayKey monthKey row.admittedAtMs).operationId ≠
          found.operationId := by
        intro he
        have hnone := (Table.insert?_some hins).1
        rw [he, hfind] at hnone
        cases hnone
      rwa [if_neg hne]
  · obtain ⟨rfl, -⟩ | hf := hcase op found hf
    · rfl
    · have hsl := hs.fresh op found hf hfr
      simp [ResearchState.slot, hslot] at hsl

theorem consistent_saved (hs : Consistent s) (hg : Coherent g s)
    {row stored : ResearchRequestRow} (hst : s.request? row.operationId = some stored)
    (hacc : (stored.overwrite row).updateAccepted = true) (hm : rt.may g (.save row)) :
    Consistent (savedState s row) := by
  obtain ⟨basis, hseen, hsave⟩ := hm
  have hfacts := saveAllowed_facts hsave
  have hcase : ∀ op found, (savedState s row).request? op = some found →
      (op = row.operationId ∧ found = stored.overwrite row) ∨
        (row.operationId ≠ op ∧ s.request? op = some found) := by
    intro op found hf
    by_cases hk : row.operationId = op
    · subst hk
      rw [savedState_self hst] at hf
      exact Or.inl ⟨rfl, by simpa using hf.symm⟩
    · rw [savedState_other hk] at hf
      exact Or.inr ⟨hk, hf⟩
  refine ⟨fun op found hf => ?_, fun op found hf => ?_, fun op found hf hstate => ?_,
    fun op found hf hb => ?_, fun op found hf => ?_, fun op found hf hfr => ?_, hs.recorded⟩
  · obtain ⟨-, rfl⟩ | ⟨-, hf⟩ := hcase op found hf
    · have hrow := hfacts.wellFormed (hg.seen _ basis hseen).wellFormed
      exact ⟨hrow.marked, hrow.validating⟩
    · exact hs.wellFormed op found hf
  · obtain ⟨-, rfl⟩ | ⟨-, hf⟩ := hcase op found hf
    · exact hacc
    · exact hs.accepted op found hf
  · obtain ⟨rfl, rfl⟩ | ⟨-, hf⟩ := hcase op found hf
    · obtain hb | ⟨c, hc, hop⟩ := hfacts.saved hstate
      · exact (hg.seen _ basis hseen).saved hb
      · rw [hfacts.operationId, ← hop]
        exact (hg.completed c hc).1
    · exact hs.saved op found hf hstate
  · obtain ⟨rfl, rfl⟩ | ⟨-, hf⟩ := hcase op found hf
    · exact (hg.seen _ basis hseen).bound (hfacts.recordId ▸ hb)
    · exact hs.bound op found hf hb
  · obtain ⟨rfl, rfl⟩ | ⟨-, hf⟩ := hcase op found hf
    · exact hs.held _ stored hst
    · exact hs.held op found hf
  · obtain ⟨rfl, rfl⟩ | ⟨hne, hf⟩ := hcase op found hf
    · exact absurd hfr hfacts.notFresh
    · have hsl := hs.fresh op found hf hfr
      have hkeep : ¬ (row.terminal = true ∧ s.slot = some row.operationId) := fun h =>
        hne (by simpa [hsl] using h.2.symm)
      rw [slot_savedState, if_neg hkeep]
      exact hsl

theorem consistent_claimed (hs : Consistent s) {op : String} {stored : ResearchRequestRow}
    {nowMs : Int} (hst : s.request? op = some stored) (hadm : stored.state = .admitted)
    (hacc : (stored.claimed nowMs).updateAccepted = true) :
    Consistent (claimedState s op nowMs) := by
  have hcase : ∀ op' found, (claimedState s op nowMs).request? op' = some found →
      (op' = op ∧ found = stored.claimed nowMs) ∨ s.request? op' = some found := by
    intro op' found hf
    rw [request?_claimedState] at hf
    by_cases hk : op = op'
    · subst hk
      exact Or.inl ⟨rfl, by simpa [hst] using hf.symm⟩
    · exact Or.inr (by simpa [hk] using hf)
  have hright : (stored.claimed nowMs).WellFormed := by
    refine wellFormed_of (by simp [ResearchRequestRow.state, ResearchRequestRow.claimed]) fun hc => ?_
    obtain h | h := (hs.wellFormed op stored hst).marked hc
    · simp [hadm] at h
    · simp [ResearchRequestRow.terminal, hadm, isTerminalLifecycle] at h
  refine ⟨fun op' found hf => ?_, fun op' found hf => ?_, fun op' found hf hstate => ?_,
    fun op' found hf hb => ?_, fun op' found hf => ?_, fun op' found hf hfr => ?_, hs.recorded⟩
  · obtain ⟨-, rfl⟩ | hf := hcase op' found hf
    · exact hright
    · exact hs.wellFormed op' found hf
  · obtain ⟨-, rfl⟩ | hf := hcase op' found hf
    · exact hacc
    · exact hs.accepted op' found hf
  · obtain ⟨-, rfl⟩ | hf := hcase op' found hf
    · cases hstate
    · exact hs.saved op' found hf hstate
  · obtain ⟨rfl, rfl⟩ | hf := hcase op' found hf
    · exact hs.bound _ stored hst hb
    · exact hs.bound op' found hf hb
  · obtain ⟨rfl, rfl⟩ | hf := hcase op' found hf
    · exact hs.held _ stored hst
    · exact hs.held op' found hf
  · obtain ⟨rfl, rfl⟩ | hf := hcase op' found hf
    · exact hs.fresh _ stored hst (Or.inl hadm)
    · exact hs.fresh op' found hf hfr

theorem reconcile_reserved {holds holds' : HoldTable} {r : BudgetReconciliation} {nowMs : Int}
    {hold : BudgetHold} (h : reconcileHold holds r nowMs = .ok (hold, holds')) {op : String}
    {row : BudgetHoldRow} (hr : holds.find? op = some row) :
    ∃ row', holds'.find? op = some row' ∧ row'.reservedUsdMicros = row.reservedUsdMicros := by
  obtain ⟨found, hfound, ⟨-, rfl⟩ | ⟨-, -, hst, rfl⟩⟩ := reconcileHold_ok h
  · exact ⟨row, hr, rfl⟩
  · have hfind := Table.find?_update (t := holds) (k := r.operationId)
      (fun row => row.settle r.state hst (r.accounted row.reservedUsdMicros) nowMs)
      (fun _ => rfl) op
    by_cases hk : r.operationId = op
    · rw [if_pos hk, hr] at hfind
      exact ⟨_, hfind, rfl⟩
    · rw [if_neg hk, hr] at hfind
      exact ⟨row, hfind, rfl⟩

theorem consistent_reconciled (hs : Consistent s) {r : BudgetReconciliation} {nowMs : Int}
    {hold : BudgetHold} {holds : HoldTable} (h : reconcileHold s.holds r nowMs = .ok (hold, holds)) :
    Consistent { s with holds } where
  wellFormed := hs.wellFormed
  accepted := hs.accepted
  saved := hs.saved
  bound := hs.bound
  held op row hr := by
    obtain ⟨held, hfind, hreserved⟩ := hs.held op row hr
    obtain ⟨held', hfind', hsame⟩ := reconcile_reserved h hfind
    exact ⟨held', hfind', hsame.trans hreserved⟩
  fresh := hs.fresh
  recorded := hs.recorded

theorem consistent_completed (hs : Consistent s) {c : ResultCompletion}
    {request : ResearchRequestRow} {nowMs : Int} {recordId owner : String}
    {document : CompletedDocument} {documents : DocumentTable} {records : RecordTable}
    (hst : s.request? c.operationId = some request)
    (hacc : (request.bound recordId nowMs).updateAccepted = true) (hop : document.operationId = c.operationId)
    (hd : insertDocument s.documents document = some documents)
    (hr : insertRecord s.records (completionRecord request recordId owner document) = some records) :
    Consistent (boundState s c.operationId recordId nowMs documents records) := by
  have hdocs : ∀ op, s.hasDocument op →
      (boundState s c.operationId recordId nowMs documents records).hasDocument op := by
    rintro op ⟨d, hmem, hk⟩
    refine ⟨d, ?_, hk⟩
    show d ∈ documents.rows
    rw [(insertDocument_some hd).1]
    exact List.mem_append_left _ hmem
  have hnew : (boundState s c.operationId recordId nowMs documents records).hasDocument
      c.operationId := by
    refine ⟨document, ?_, hop⟩
    show document ∈ documents.rows
    rw [(insertDocument_some hd).1]
    simp
  have hcase : ∀ op found,
      (boundState s c.operationId recordId nowMs documents records).request? op = some found →
      (op = c.operationId ∧ found = request.bound recordId nowMs) ∨ s.request? op = some found := by
    intro op found hf
    rw [request?_boundState] at hf
    by_cases hk : c.operationId = op
    · subst hk
      exact Or.inl ⟨rfl, by simpa [hst] using hf.symm⟩
    · exact Or.inr (by simpa [hk] using hf)
  refine ⟨fun op found hf => ?_, fun op found hf => ?_, fun op found hf hstate => ?_,
    fun op found hf hb => ?_, fun op found hf => ?_, fun op found hf hfr => ?_,
    fun record hmem => ?_⟩
  · obtain ⟨rfl, rfl⟩ | hf := hcase op found hf
    · have hrow := hs.wellFormed _ request hst
      exact ⟨hrow.marked, hrow.validating⟩
    · exact hs.wellFormed op found hf
  · obtain ⟨rfl, rfl⟩ | hf := hcase op found hf
    · exact hacc
    · exact hs.accepted op found hf
  · obtain ⟨rfl, rfl⟩ | hf := hcase op found hf
    · exact hnew
    · exact hdocs op (hs.saved op found hf hstate)
  · obtain ⟨rfl, rfl⟩ | hf := hcase op found hf
    · exact hnew
    · exact hdocs op (hs.bound op found hf hb)
  · obtain ⟨rfl, rfl⟩ | hf := hcase op found hf
    · exact hs.held _ request hst
    · exact hs.held op found hf
  · obtain ⟨rfl, rfl⟩ | hf := hcase op found hf
    · exact hs.fresh _ request hst hfr
    · exact hs.fresh op found hf hfr
  · have hmem : record ∈ records.rows := hmem
    rw [(insertRecord_some hr).1, List.mem_append, List.mem_singleton] at hmem
    obtain hmem | rfl := hmem
    · exact hdocs _ (hs.recorded record hmem)
    · show (boundState s c.operationId recordId nowMs documents records).hasDocument
        document.operationId
      rw [hop]
      exact hnew

theorem answered_consistent {e : Effect} {r : Except Failure e.Result}
    (h : Answered rt.casefold s e r s') (hm : rt.may g e) (hs : Consistent s) (hg : Coherent g s) :
    Consistent s' := by
  cases h with
  | failed e x s' hsame => exact hs.of_same hsame
  | plain e a s' hp hsame => exact hs.of_same hsame
  | admitted row reservation requests holds hold hf hslot hop hres hi hu hr hh =>
    obtain ⟨hadm⟩ := hm
    exact consistent_admitted hs hadm hslot hop hres hu hr hh
  | saved row stored hst hacc => exact consistent_saved hs hg hst hacc hm
  | claimed op stored nowMs hst hadm hacc => exact consistent_claimed hs hst hadm hacc
  | reconciled r nowMs hold holds h => exact consistent_reconciled hs h
  | completed c receipt request nowMs documentId recordId owner document documents records hst hb
      hacc hdoc hd hr => exact consistent_completed hs hst hacc (make?_some hdoc).2.1 hd hr
  | _ => exact hs

def Effect.reads (op : String) : Effect → Prop
  | .getRequest op' | .claimSubmission op' => op' = op
  | .listCleanupPending _ => True
  | _ => False

/- What one answered effect changes in the caller's memory. -/
theorem note_seen {e : Effect} {r : Except Failure e.Result} (h : Answered rt.casefold s e r s')
    {op : String} {row : ResearchRequestRow} (hb : (g.note s e r).seen op = some row) :
    g.seen op = some row ∨ (e.reads op ∧ s'.request? op = some row) ∨
      (e = .save row ∧ row.operationId = op ∧ ∃ stored, s.request? op = some stored ∧
        s'.request? op = some (stored.overwrite row)) := by
  have hlearn : ∀ found : ResearchRequestRow, (g.learn found).seen op = some row →
      (op = found.operationId ∧ found = row) ∨ g.seen op = some row := by
    intro found hb
    unfold Memory.learn at hb
    by_cases hop : op = found.operationId
    · subst hop
      exact Or.inl ⟨rfl, by simpa using hb⟩
    · exact Or.inr (by simpa [Function.update_of_ne hop] using hb)
  cases h with
  | failed e x s' hsame => cases e <;> exact Or.inl hb
  | plain e a s' hp hsame => cases e <;> first | exact Or.inl hb | cases hp
  | blocker =>
    cases hbl : s.blocker with
    | none =>
      rw [hbl] at hb
      exact Or.inl hb
    | some code =>
      rw [hbl] at hb
      exact Or.inl hb
  | byClient owner client => exact Or.inl hb
  | request op' =>
    cases hr : s.request? op' with
    | none =>
      rw [hr] at hb
      exact Or.inl hb
    | some found =>
      rw [hr] at hb
      have hop' : found.operationId = op' := ResearchState.request?_operationId hr
      obtain ⟨hop, rfl⟩ | hold := hlearn found hb
      · have hsame : op = op' := hop.trans hop'
        subst hsame
        exact Or.inr (Or.inl ⟨rfl, hr⟩)
      · exact Or.inl hold
  | slot => exact Or.inl hb
  | cleanup limit =>
    obtain ⟨-, hrows⟩ := listCleanupPending_spec s limit
    have hb : ((s.listCleanupPending limit).find? fun row => row.operationId = op).or
        (g.seen op) = some row := hb
    cases hfind : (s.listCleanupPending limit).find? fun row => row.operationId = op with
    | none => exact Or.inl (by simpa [hfind] using hb)
    | some found =>
      have hop : found.operationId = op := by simpa using List.find?_some hfind
      have hmem := Table.mem_find? (hrows found (List.mem_of_find?_eq_some hfind)).1
      have hsame : found = row := by simpa [hfind] using hb
      rw [hop, hsame] at hmem
      exact Or.inr (Or.inl ⟨trivial, hmem⟩)
  | replayed row' existing reservation hf hfp => exact Or.inl hb
  | admitted row' reservation requests holds hold hf hslot hop hres hi hu hr hh => exact Or.inl hb
  | saved row' stored hst hacc =>
    obtain ⟨rfl, rfl⟩ | hold := hlearn row' hb
    · exact Or.inr (Or.inr ⟨rfl, rfl, stored, hst, savedState_self hst⟩)
    · exact Or.inl hold
  | unclaimed op' => exact Or.inl hb
  | claimed op' stored nowMs hst hadm hacc =>
    obtain ⟨hop, rfl⟩ | hold := hlearn (stored.claimed nowMs) hb
    · have hop' : stored.operationId = op' := ResearchState.request?_operationId hst
      have hsame : op = op' := hop.trans hop'
      subst hsame
      exact Or.inr (Or.inl ⟨rfl, by simp [request?_claimedState, hst]⟩)
    · exact Or.inl hold
  | reconciled r nowMs hold holds h => exact Or.inl hb
  | bound c receipt request hst hbound => exact Or.inl hb
  | completed c receipt request nowMs documentId recordId owner document documents records hst
      hbound hacc hdoc hd hr => exact Or.inl hb

/-- What the caller holds for a stored request after one effect, against the tables. -/
theorem note_seen_stored {e : Effect} {r : Except Failure e.Result}
    (h : Answered rt.casefold s e r s') {op : String} {row stored : ResearchRequestRow}
    (hb : (g.note s e r).seen op = some row) (hst : s.request? op = some stored) :
    (g.seen op = some row ∧ (s'.request? op = some stored ∨
      ∃ c recordId nowMs, e = .complete c ∧ c.operationId = op ∧
        s'.request? op = some (stored.bound recordId nowMs))) ∨
      s'.request? op = some row ∨
      (e = .save row ∧ row.operationId = op ∧ s'.request? op = some (stored.overwrite row)) := by
  obtain hold | ⟨-, hread⟩ | ⟨he, hop, found, hfound, hs'⟩ := note_seen h hb
  · obtain hsame | ⟨row', rfl, rfl, hs'⟩ | ⟨nowMs, rfl, hadm, hs'⟩ |
      ⟨c, recordId, nowMs, he, hop, -, hs'⟩ := answered_request h hst
    · exact Or.inl ⟨hold, Or.inl hsame⟩
    · cases h with
      | failed e x s' hsame => exact Or.inl ⟨hold, Or.inl (by rw [hsame.request?]; exact hst)⟩
      | plain e a s' hp hsame => cases hp
      | saved row' found hfound hacc =>
        have hrow : row' = row := by simpa [Memory.note, Memory.learn] using hb
        exact Or.inr (Or.inr ⟨by rw [hrow], by rw [hrow], hrow ▸ hs'⟩)
    · cases h with
      | failed e x s' hsame => exact Or.inl ⟨hold, Or.inl (by rw [hsame.request?]; exact hst)⟩
      | plain e a s' hp hsame => cases hp
      | unclaimed op => exact Or.inl ⟨hold, Or.inl hst⟩
      | claimed op found nowMs' hfound hadm' hacc =>
        cases hst.symm.trans hfound
        have hop : stored.operationId = op := ResearchState.request?_operationId hst
        have hrow : stored.claimed nowMs' = row := by
          have hlearn := Memory.learn_seen g (stored.claimed nowMs')
          have hkey : (stored.claimed nowMs').operationId = op := hop
          rw [hkey] at hlearn
          exact Option.some.inj (hlearn.symm.trans hb)
        rw [← hrow]
        exact Or.inr (Or.inl (by simp [request?_claimedState, hst]))
    · exact Or.inl ⟨hold, Or.inr ⟨c, recordId, nowMs, he, hop, hs'⟩⟩
  · exact Or.inr (Or.inl hread)
  · cases hst.symm.trans hfound
    exact Or.inr (Or.inr ⟨he, hop, hs'⟩)

theorem note_claimed {e : Effect} {r : Except Failure e.Result}
    (h : Answered rt.casefold s e r s') : (g.note s e r).claimed = g.claimed ∨
      ∃ op stored nowMs, e = .claimSubmission op ∧ s.request? op = some stored ∧
        stored.state = .admitted ∧ s'.request? op = some (stored.claimed nowMs) ∧
        (g.note s e r).claimed = some op := by
  cases h with
  | failed e x s' hsame => cases e <;> exact Or.inl rfl
  | plain e a s' hp hsame => cases e <;> first | exact Or.inl rfl | cases hp
  | blocker => cases hbl : s.blocker <;> exact Or.inl rfl
  | request op => cases hr : s.request? op <;> exact Or.inl rfl
  | claimed op stored nowMs hst hadm hacc =>
    have hop : stored.operationId = op := ResearchState.request?_operationId hst
    exact Or.inr ⟨op, stored, nowMs, rfl, hst, hadm, by simp [request?_claimedState, hst],
      congrArg some hop⟩
  | _ => exact Or.inl rfl

theorem note_completed {e : Effect} {r : Except Failure e.Result} {c : ResultCompletion}
    (hc : (g.note s e r).completed = some c) : g.completed = some c ∨ e = .complete c := by
  cases e with
  | complete c' =>
    cases r with
    | error x => exact Or.inl hc
    | ok receipt =>
      cases hc
      exact Or.inr rfl
  | _ =>
    left
    unfold Memory.note at hc
    split at hc <;> first | exact hc | contradiction

theorem note_sent {e : Effect} {r : Except Failure e.Result} :
    ((g.note s e r).sent = g.sent ∧ e.submits = []) ∨
      ∃ request, e = .submit request ∧ (g.note s e r).sent = true := by
  cases e with
  | submit request => cases r <;> exact Or.inr ⟨request, rfl, rfl⟩
  | _ =>
    refine Or.inl ⟨?_, rfl⟩
    unfold Memory.note
    split <;> first | rfl | contradiction

theorem answered_completed {c : ResultCompletion} {r : Except Failure ResultCompletionReceipt}
    (h : Answered rt.casefold s (.complete c) r s') (hm : rt.may g (.complete c))
    (hs' : Consistent s') (hg : Coherent g s) (hc : (g.note s (.complete c) r).completed = some c)
    (hnew : g.completed ≠ some c) : s'.hasDocument c.operationId ∧
      ∃ stored, s'.request? c.operationId = some stored ∧ ¬ stored.fresh := by
  obtain ⟨basis, hseen, hval, -, -⟩ := hm
  -- the stored row has left the fresh states: the caller holds it VALIDATING
  have hnot : ∀ stored, s.request? c.operationId = some stored → ¬ stored.fresh := by
    intro stored hst hf
    obtain hb | hb := (hg.seen _ basis hseen).fresh stored hst hf
    · simp [hval] at hb
    · simp [hval] at hb
  cases h with
  | failed e x s' hsame => exact absurd hc hnew
  | plain e a s' hp hsame => cases hp
  | bound c receipt request hst hb =>
    exact ⟨hs'.bound _ request hst fun hn => by simp [hn] at hb, request, hst, hnot request hst⟩
  | completed c receipt request nowMs documentId recordId owner document documents records hst hb
      hacc hdoc hd hr =>
    have hself : (boundState s c.operationId recordId nowMs documents records).request?
        c.operationId = some (request.bound recordId nowMs) := by
      simp [request?_boundState, hst]
    exact ⟨hs'.bound _ _ hself (Option.some_ne_none recordId), _, hself, hnot request hst⟩

theorem answered_coherent {e : Effect} {r : Except Failure e.Result}
    (h : Answered rt.casefold s e r s') (hm : rt.may g e) (hs : Consistent s)
    (hg : Coherent g s) : Coherent (g.note s e r) s' := by
  have hgrow := hg.grow (answered_grows h hm)
  have hs' := answered_consistent h hm hs hg
  refine ⟨fun op row hb => ?_, fun c hc => ?_, fun op hc => ?_⟩
  · obtain hold | ⟨-, hread⟩ | ⟨rfl, rfl, stored, hst, hst'⟩ := note_seen h hb
    · exact hgrow.seen op row hold
    · exact hs'.fits hread
    · obtain ⟨basis, hseen, hsave⟩ := hm
      have hfacts := saveAllowed_facts hsave
      have hfits := hs'.fits hst'
      refine ⟨rfl, ⟨_, hst'⟩, hfacts.wellFormed (hg.seen _ basis hseen).wellFormed,
        fun hsaved => hfits.saved hsaved, fun hb => hfits.bound hb, fun found hfound hf => ?_⟩
      cases hst'.symm.trans hfound
      exact hf
  · obtain hold | rfl := note_completed hc
    · exact hgrow.completed c hold
    · by_cases hnew : g.completed = some c
      · exact hgrow.completed c hnew
      · exact answered_completed h hm hs' hg hc hnew
  · obtain hold | ⟨op', stored, nowMs, rfl, -, -, hst', hnew⟩ := note_claimed (g := g) h
    · rw [hold] at hc
      exact hgrow.claimed op hc
    · cases hnew.symm.trans hc
      refine ⟨_, hst', ?_⟩
      show ResearchLifecycleState.submitting ≠ .admitted
      decide

end Steps

/- Recovery runs first, at the start and after every restart; every other caller
   waits until it has returned. -/
def startable : List (Thread Effect Effect.Result Failure Memory CallResult) → Call → Bool
  | [], c => c = .recover
  | ⟨g, .done _⟩ :: _, c => g.call = .recover && c ≠ .recover
  | _, _ => false

/- The runtime under concurrent callers; `permits` narrows the runs looked at. -/
def ResearchRuntime.system (rt : ResearchRuntime)
    (permits : Memory → Env → Effect → ResearchState → Prop) (mayCrash : Bool) :
    System Call Env Effect Effect.Result Failure ResearchState Memory CallResult where
  toProtocol := rt.protocol permits
  program := rt.program
  memory c := { call := c }
  mayStart := startable
  mayCrash := mayCrash

theorem system_obedient (rt : ResearchRuntime)
    (permits : Memory → Env → Effect → ResearchState → Prop) (mayCrash : Bool) :
    Obedient (rt.system permits mayCrash) rt.outcome := program_obeys rt permits

theorem consistent_empty : Consistent ResearchState.empty where
  wellFormed _ _ h := nomatch h
  accepted _ _ h := nomatch h
  saved _ _ h := nomatch h
  bound _ _ h := nomatch h
  held _ _ h := nomatch h
  fresh _ _ h := nomatch h
  recorded _ h := nomatch h

/-- The tables stay consistent and every memory coherent, in every interleaving. -/
theorem system_interference (rt : ResearchRuntime)
    (permits : Memory → Env → Effect → ResearchState → Prop) (mayCrash : Bool) :
    Interference (rt.system permits mayCrash) Consistent Coherent fun _ _ => True where
  start c s _ := Coherent.start c s
  state _ env e s hs hg hm _ := answered_consistent (exec_answered rt env e s) hm hs hg
  own _ env e s hs hg hm _ := answered_coherent (exec_answered rt env e s) hm hs hg
  other _ _ env e s _ _ hg' _ hm _ := hg'.grow (answered_grows (exec_answered rt env e s) hm)
  symm _ _ h := h
  newcomer _ _ _ _ _ := trivial
  apart _ _ _ _ _ _ _ _ h _ _ := h

end FrameNest.Research
