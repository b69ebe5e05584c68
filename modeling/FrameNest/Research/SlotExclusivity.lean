import FrameNest.Research.Runs

/-! One caller at a time, crashes between any two transactions: the slot names the one
request that is not terminal, and every request has its hold. -/
namespace FrameNest.Research
open Relational Concurrent Sample

structure SlotNames (s : ResearchState) : Prop where
  opened : ∀ op row, s.request? op = some row → row.terminal = false → s.slot = some op
  named : ∀ op, s.slot = some op → ∃ row, s.request? op = some row ∧ row.terminal = false

/- A memory that is up to date: what a caller running alone relies on. -/
structure Current (g : Memory) (s : ResearchState) : Prop where
  seen : ∀ op row, g.seen op = some row → ∃ stored, s.request? op = some stored ∧
    stored.state = row.state ∧ stored.handle = row.handle
  slotRead : ∀ op, g.slotRead = some op → g.closed = false → s.slot = some op
  ofSlot : ∀ op row, g.seen op = some row → g.readsSlot → g.slotRead = some op

section Steps
variable {rt : ResearchRuntime} {g : Memory} {env : Env} {e : Effect} {s s' : ResearchState}

/- A caller at work on a row works on the slot's request. -/
theorem Current.worksOn_open {row : ResearchRequestRow} (hc : Current g s) (hs : SlotNames s)
    {op : String} (hseen : g.seen op = some row) (hw : g.worksOn row) :
    row.terminal = false := by
  have hcall : g.readsSlot := (worksOn_call hw).imp_right Or.inl
  have hslot := hc.slotRead op (hc.ofSlot op row hseen hcall) hw.1
  obtain ⟨stored, hst, hopen⟩ := hs.named op hslot
  obtain ⟨stored', hst', hstate, -⟩ := hc.seen op row hseen
  cases hst.symm.trans hst'
  rw [← ResearchRequestRow.terminal_congr hstate]
  exact hopen

/-- Alone, a caller saves an open row only over an open row. -/
theorem saveAllowed_opens {basis row : ResearchRequestRow} (h : rt.SaveAllowed g basis row)
    (hw : g.worksOn basis → basis.terminal = false) (hopen : row.terminal = false) :
    basis.terminal = false := by
  cases h with
  | running handle nowMs hworks hs => exact hw hworks
  | touched nowMs hworks hs => exact hw hworks
  | validating handle answer nowMs hworks hs hc he => exact hw hworks
  | finished state code accounting nowMs ht hc =>
    have hterm : (basis.finished state code accounting nowMs).terminal = true := ht
    rw [hterm] at hopen
    cases hopen
  | cancelMarked nowMs ho hg ht hc => exact ht
  | confirmed confirmedAtMs updatedAtMs hg ho hs hc => exact hopen
  | cleaned cleanup nowMs hg ht => exact hopen

theorem slotNames_saved {row stored : ResearchRequestRow} (hs : SlotNames s)
    (hst : s.request? row.operationId = some stored)
    (hopens : row.terminal = false → stored.terminal = false) : SlotNames (savedState s row) := by
  have hslot := slot_savedState s row
  refine ⟨fun op found hfound hopen => ?_, fun op hop => ?_⟩
  · by_cases hk : row.operationId = op
    · subst hk
      rw [savedState_self hst] at hfound
      cases hfound
      have hopen : row.terminal = false := hopen
      rw [hslot, if_neg (by simp [hopen])]
      exact hs.opened _ stored hst (hopens hopen)
    · rw [savedState_other hk] at hfound
      have hold := hs.opened op found hfound hopen
      rw [hslot, if_neg fun h => hk (by simpa [hold] using h.2.symm)]
      exact hold
  · rw [hslot] at hop
    split at hop
    · cases hop
    · rename_i hkeep
      obtain ⟨found, hfound, hopen⟩ := hs.named op hop
      by_cases hk : row.operationId = op
      · subst hk
        cases hst.symm.trans hfound
        have hrow : row.terminal = false := by
          cases hr : row.terminal with
          | false => rfl
          | true => exact absurd ⟨hr, hop⟩ hkeep
        exact ⟨_, savedState_self hst, hrow⟩
      · exact ⟨found, by rw [savedState_other hk]; exact hfound, hopen⟩

theorem slotNames_of_rows (hs : SlotNames s) (hslot : s'.slot = s.slot)
    (hrows : ∀ op row, s'.request? op = some row → ∃ stored, s.request? op = some stored ∧
      stored.terminal = row.terminal)
    (hstays : ∀ op stored, s.request? op = some stored → ∃ row, s'.request? op = some row ∧
      row.terminal = stored.terminal) : SlotNames s' := by
  refine ⟨fun op row hr hopen => ?_, fun op hop => ?_⟩
  · obtain ⟨stored, hst, hterm⟩ := hrows op row hr
    rw [hslot]
    exact hs.opened op stored hst (hterm.trans hopen)
  · rw [hslot] at hop
    obtain ⟨stored, hst, hopen⟩ := hs.named op hop
    obtain ⟨row, hr, hterm⟩ := hstays op stored hst
    exact ⟨row, hr, hterm.trans hopen⟩

theorem slotNames_step (hm : rt.may g e) (hc : Current g s) (hs : SlotNames s) : SlotNames (rt.exec env e s).2 := by
  have hans := exec_answered rt env e s
  revert hans
  generalize (rt.exec env e s).1 = r
  generalize (rt.exec env e s).2 = s'
  intro hans
  have hsame : ∀ {s'}, SameTables s s' → SlotNames s' := fun h =>
    slotNames_of_rows hs h.slot (fun op row hr => ⟨row, by rwa [h.request?] at hr, rfl⟩)
      (fun op row hr => ⟨row, by rw [h.request?]; exact hr, rfl⟩)
  cases hans with
  | failed e x s' h => exact hsame h
  | plain e a s' hp h => exact hsame h
  | admitted row reservation requests holds hold hf hslot hop hres hi hu hr hh =>
    obtain ⟨hadm⟩ := hm
    have hnew : row.persisted.terminal = false := by
      have hstate : row.state = .admitted := by
        rw [hadm.row_eq]
        exact (admissionRecord?_some hadm.record_eq).2.2.2.2
      show isTerminalLifecycle row.state = false
      rw [hstate]
      rfl
    have hnone : s.slot = none := by simp [ResearchState.slot, hslot]
    refine ⟨fun op found hfound hopen => ?_, fun op hop => ?_⟩
    · rw [show ({ s with requests, holds, activeSlot := some (row.operationId, row.admittedAtMs) } :
        ResearchState).request? op = requests.find? op from rfl, request?_insert hr op] at hfound
      by_cases hk : row.operationId = op
      · rw [← hk]
        rfl
      · rw [if_neg hk] at hfound
        have hold := hs.opened op found hfound hopen
        rw [hnone] at hold
        cases hold
    · cases hop
      exact ⟨row.persisted, (request?_insert hr row.operationId).trans (if_pos rfl), hnew⟩
  | saved row stored hst hacc =>
    obtain ⟨basis, hseen, hsave⟩ := hm
    refine slotNames_saved hs hst fun hopen => ?_
    obtain ⟨stored', hst', hstate, -⟩ := hc.seen _ basis hseen
    cases hst.symm.trans hst'
    rw [ResearchRequestRow.terminal_congr hstate]
    exact saveAllowed_opens hsave (hc.worksOn_open hs hseen) hopen
  | claimed op stored nowMs hst hadm hacc =>
    have hterm : (stored.claimed nowMs).terminal = stored.terminal := by
      show isTerminalLifecycle .submitting = isTerminalLifecycle stored.state
      rw [hadm]
      rfl
    refine slotNames_of_rows hs rfl (fun op' row hr => ?_) fun op' found hfound => ?_
    · rw [request?_claimedState] at hr
      by_cases hk : op = op'
      · subst hk
        rw [if_pos rfl, hst] at hr
        cases hr
        exact ⟨stored, hst, hterm.symm⟩
      · exact ⟨row, by simpa [hk] using hr, rfl⟩
    · by_cases hk : op = op'
      · subst hk
        cases hst.symm.trans hfound
        exact ⟨stored.claimed nowMs, by simp [request?_claimedState, hst], hterm⟩
      · exact ⟨found, by simp [request?_claimedState, hk, hfound], rfl⟩
  | completed c receipt request nowMs documentId recordId owner document documents records hst hb
      hacc hdoc hd hr =>
    refine slotNames_of_rows hs rfl (fun op row hr => ?_) fun op found hfound => ?_
    · rw [request?_boundState] at hr
      by_cases hk : c.operationId = op
      · rw [if_pos hk] at hr
        obtain ⟨found, hfound, rfl⟩ := Option.map_eq_some_iff.mp hr
        exact ⟨found, hfound, rfl⟩
      · exact ⟨row, by simpa [hk] using hr, rfl⟩
    · by_cases hk : c.operationId = op
      · exact ⟨found.bound recordId nowMs, by simp [request?_boundState, hk, hfound], rfl⟩
      · exact ⟨found, by simp [request?_boundState, hk, hfound], rfl⟩
  | reconciled r nowMs hold holds h => exact ⟨hs.opened, hs.named⟩
  | _ => exact hs

/- The slot a caller has read stays as it read it until it closes the request. -/
theorem note_slotRead {r : Except Failure e.Result} (h : Answered rt.casefold s e r s') :
    (g.note s e r).slotRead = g.slotRead ∨
      (e = .activeSlotOperationId ∧ (g.note s e r).slotRead = s.slot ∧ s' = s) := by
  cases h with
  | failed e x s' h => cases e <;> exact Or.inl rfl
  | plain e a s' hp h => cases e <;> first | exact Or.inl rfl | cases hp
  | blocker => cases hbl : s.blocker <;> exact Or.inl rfl
  | request op => cases hr : s.request? op <;> exact Or.inl rfl
  | slot => exact Or.inr ⟨rfl, rfl, rfl⟩
  | _ => exact Or.inl rfl

theorem note_closed {r : Except Failure e.Result} (h : (g.note s e r).closed = false) :
    g.closed = false := by
  cases e with
  | save row =>
    cases r with
    | error x => exact h
    | ok saved =>
      have hopen : g.closed = false ∧ saved.terminal = false := by simpa [Memory.note] using h
      exact hopen.1
  | _ =>
    unfold Memory.note at h
    split at h <;> first | exact h | contradiction

/-- The slot keeps its request until a terminal save of that request. -/
theorem answered_slot {r : Except Failure e.Result} (h : Answered rt.casefold s e r s') {op : String}
    (hslot : s.slot = some op) : s'.slot = some op ∨
      ∃ row, e = .save row ∧ row.operationId = op ∧ row.terminal = true ∧
        s'.request? op = (s.request? op).map (·.overwrite row) ∧ (g.note s e r).closed = true := by
  cases h with
  | failed e x s' h => exact Or.inl (h.slot.trans hslot)
  | plain e a s' hp h => exact Or.inl (h.slot.trans hslot)
  | admitted row reservation requests holds hold hf hfree hop hres hi hu hr hh =>
    rw [ResearchState.slot, hfree] at hslot
    cases hslot
  | saved row stored hst hacc =>
    rw [slot_savedState]
    by_cases hfree : row.terminal = true ∧ s.slot = some row.operationId
    · have hop : row.operationId = op := Option.some.inj (hfree.2.symm.trans hslot)
      refine Or.inr ⟨row, rfl, hop, hfree.1, ?_, by simp [Memory.note, hfree.1]⟩
      simp [request?_savedState, hop]
    · rw [if_neg hfree]
      exact Or.inl hslot
  | _ => exact Or.inl hslot

theorem current_own (hm : rt.may g e) (hc : Current g s) :
    Current (g.note s e (rt.exec env e s).1) (rt.exec env e s).2 := by
  have hans := exec_answered rt env e s
  revert hans
  generalize (rt.exec env e s).1 = r
  generalize (rt.exec env e s).2 = s'
  intro hans
  refine ⟨fun op row hseen => ?_, fun op hread hclosed => ?_, fun op row hseen hcall => ?_⟩
  · obtain hold | ⟨-, hread⟩ | ⟨-, -, stored, -, hst'⟩ := note_seen hans hseen
    · obtain ⟨stored, hst, hstate, hhandle⟩ := hc.seen op row hold
      obtain ⟨-, hsame | ⟨c, recordId, nowMs, -, -, hbound⟩⟩ | hread | ⟨-, -, hst'⟩ :=
        note_seen_stored hans hseen hst
      · exact ⟨stored, hsame, hstate, hhandle⟩
      · exact ⟨_, hbound, hstate, hhandle⟩
      · exact ⟨row, hread, rfl, rfl⟩
      · exact ⟨_, hst', rfl, rfl⟩
    · exact ⟨row, hread, rfl, rfl⟩
    · exact ⟨_, hst', rfl, rfl⟩
  · obtain hold | ⟨rfl, hslot, rfl⟩ := note_slotRead (g := g) hans
    · rw [hold] at hread
      obtain hkept | ⟨row, -, -, -, -, htrue⟩ :=
        answered_slot (g := g) hans (hc.slotRead op hread (note_closed hclosed))
      · exact hkept
      · rw [htrue] at hclosed
        cases hclosed
    · rw [← hslot]
      exact hread
  · rw [Memory.readsSlot, Memory.note_call] at hcall
    have hkept : g.slotRead = some op → (g.note s e r).slotRead = some op := by
      intro hslot
      obtain hold | ⟨rfl, -, -⟩ := note_slotRead (g := g) hans
      · rw [hold]
        exact hslot
      · rw [hm.1] at hslot
        cases hslot
    obtain hold | ⟨hreads, -⟩ | ⟨rfl, rfl, -⟩ := note_seen hans hseen
    · exact hkept (hc.ofSlot op row hold hcall)
    · refine hkept ?_
      cases e with
      | getRequest op' =>
        have hop : op' = op := hreads
        subst hop
        obtain h | h | h := hcall
        · simpa [ResearchRuntime.may, h] using hm
        · simpa [ResearchRuntime.may, h] using hm
        · simpa [ResearchRuntime.may, h] using hm
      | claimSubmission op' =>
        have hop : op' = op := hreads
        subst hop
        exact hm.2.1
      | listCleanupPending limit =>
        obtain ⟨limit', h⟩ := hm
        simp [h] at hcall
      | _ => cases hreads
    · obtain ⟨basis, hbasis, -⟩ := hm
      exact hkept (hc.ofSlot _ basis hbasis hcall)

end Steps

theorem slot_preserved (rt : ResearchRuntime)
    (permits : Memory → Env → Effect → ResearchState → Prop) (mayCrash : Bool) :
    Preserved (rt.system permits mayCrash) (fun s => Consistent s ∧ SlotNames s)
      fun g s => Coherent g s ∧ Current g s :=
  (system_interference rt permits mayCrash).toPreserved.and
    (fun _ _ _ _ =>
      { seen := fun _ _ h => nomatch h
        slotRead := fun _ h => nomatch h
        ofSlot := fun _ _ h => nomatch h })
    (fun _ _ _ _ _ _ hs hc hm _ => slotNames_step hm hc hs)
    (fun _ _ _ _ _ _ _ hc hm _ => current_own hm hc)

theorem slotNames_empty : SlotNames ResearchState.empty where
  opened _ _ h := nomatch h
  named _ h := nomatch h

/-- The slot is held exactly by the one request that is not terminal, and every request
has exactly one hold, for its own reservation. -/
structure SlotExclusive (s : ResearchState) : Prop where
  slot : s.slot ≠ none ↔ ∃ row ∈ s.requests.rows, row.terminal = false ∧
    (∀ other ∈ s.requests.rows, other.terminal = false → other = row) ∧
      s.slot = some row.operationId
  free : s.slot = none → ∀ row ∈ s.requests.rows, row.terminal = true
  hold : ∀ row ∈ s.requests.rows, ∃ hold ∈ s.holds.rows, hold.operationId = row.operationId ∧
    (∀ other ∈ s.holds.rows, other.operationId = row.operationId → other = hold) ∧
      hold.reservedUsdMicros = row.record.profile.budgetReservationUsdMicros

theorem slotExclusive_of {s : ResearchState} (hc : Consistent s) (hs : SlotNames s) :
    SlotExclusive s := by
  have hopened : ∀ row ∈ s.requests.rows, row.terminal = false →
      s.slot = some row.operationId := fun row hrow hopen =>
    hs.opened _ row (Table.mem_find? hrow) hopen
  refine ⟨⟨fun hslot => ?_, fun ⟨row, _, _, _, hslot⟩ => by simp [hslot]⟩, fun hfree row hrow => ?_,
    fun row hrow => ?_⟩
  · obtain ⟨op, hop⟩ := Option.ne_none_iff_exists'.mp hslot
    obtain ⟨row, hfound, hopen⟩ := hs.named op hop
    have hrow : row ∈ s.requests.rows := Table.find?_mem hfound
    refine ⟨row, hrow, hopen, fun other hother hopen' => ?_, hopened row hrow hopen⟩
    have hsame := (hopened other hother hopen').symm.trans (hopened row hrow hopen)
    exact Table.eq_of_key hother hrow (Option.some.inj hsame)
  · cases ht : row.terminal with
    | true => rfl
    | false =>
      have hslot := hopened row hrow ht
      rw [hfree] at hslot
      cases hslot
  · obtain ⟨hold, hfound, hreserved⟩ := hc.held _ row (Table.mem_find? hrow)
    have hmem : hold ∈ s.holds.rows := Table.find?_mem hfound
    have hkey : hold.operationId = row.operationId := Table.find?_key hfound
    exact ⟨hold, hmem, hkey, fun other hother hk => Table.eq_of_key hother hmem (hk.trans hkey.symm),
      hreserved⟩

/-- In every run of one caller at a time, cut short anywhere by crashes, the slot is
exclusive. -/
theorem slot_exclusive (rt : ResearchRuntime) {s : ResearchState}
    (h : SeqReachable (rt.system always true) .empty s) : SlotExclusive s := by
  have hs := (slot_preserved rt always true).seqReachable (system_obedient rt always true) h
    ⟨consistent_empty, slotNames_empty⟩
  exact slotExclusive_of hs.1 hs.2

/- The process dies right after the submission was claimed. -/
theorem claimed_slot_exclusive :
    (runtime.afterCalls [taken, (.submitPending, List.replicate 4 env)]).slot = some "op-1" ∧
      SlotExclusive (runtime.afterCalls [taken, (.submitPending, List.replicate 4 env)]) :=
  ⟨by decide +kernel, slot_exclusive runtime (runtime.afterCalls_reachable _)⟩

end FrameNest.Research
