import Mathlib.Data.List.Induction
import FrameNest.Research.Budget

/-! Every sequence of ledger calls: what a day and a month are charged. -/
namespace FrameNest.Research
open Relational

inductive LedgerCall where
  | reserve (reservation : BudgetReservation) (requestExists : Bool) (nowMs : Int)
  | reconcile (reconciliation : BudgetReconciliation) (nowMs : Int)

namespace LedgerCall

def apply (holds : HoldTable) : LedgerCall → Except Failure (BudgetHold × HoldTable)
  | .reserve reservation requestExists nowMs => reserveHold holds reservation requestExists nowMs
  | .reconcile reconciliation nowMs => reconcileHold holds reconciliation nowMs

/- A call that raises is rolled back. -/
def step (holds : HoldTable) (call : LedgerCall) : HoldTable :=
  match apply holds call with
  | .ok (_, holds') => holds'
  | .error _ => holds

def accepted (holds : HoldTable) (call : LedgerCall) : Bool := (apply holds call).isOk

/- The reconciliation an operation is left with: the first one accepted for it. -/
def settlement (operationId : String) : HoldTable → List LedgerCall → Option BudgetReconciliation
  | _, [] => none
  | holds, .reserve reservation requestExists nowMs :: rest =>
    settlement operationId (step holds (.reserve reservation requestExists nowMs)) rest
  | holds, .reconcile reconciliation nowMs :: rest =>
    if reconciliation.operationId = operationId ∧
        accepted holds (.reconcile reconciliation nowMs) = true then some reconciliation
    else settlement operationId (step holds (.reconcile reconciliation nowMs)) rest

end LedgerCall
open LedgerCall

def ledgerRun (calls : List LedgerCall) : HoldTable := calls.foldl step Table.empty

/- What an operation is charged: the reservation until its cost is known. -/
def charge (reserved : Nat) : Option BudgetReconciliation → Nat
  | some ⟨_, _, some cost, .reconciled, _, _, _⟩ => cost
  | _ => reserved

@[simp] theorem ledgerRun_concat (calls : List LedgerCall) (call : LedgerCall) :
    ledgerRun (calls ++ [call]) = step (ledgerRun calls) call := by
  simp [ledgerRun]

theorem accepted_ok {holds : HoldTable} {call : LedgerCall} (h : accepted holds call = true) :
    ∃ hold holds', apply holds call = .ok (hold, holds') ∧ step holds call = holds' := by
  unfold accepted at h
  cases hc : apply holds call with
  | error x => simp [hc, Except.isOk, Except.toBool] at h
  | ok r => exact ⟨r.1, r.2, rfl, by simp [step, hc]⟩

theorem step_refused {holds : HoldTable} {call : LedgerCall} (h : ¬ accepted holds call = true) :
    step holds call = holds := by
  unfold accepted at h
  cases hc : apply holds call with
  | error x => simp [step, hc]
  | ok r => simp [hc, Except.isOk, Except.toBool] at h

theorem charge_accounted {r : BudgetReconciliation} (h : r.state ≠ .reserved) (reserved : Nat) :
    charge reserved (some r) = r.accounted reserved := by
  obtain ⟨op, usage, cost, state, tok, hrec, hunk⟩ := r
  cases state with
  | reserved => exact absurd rfl h
  | unknown => simp [charge, BudgetReconciliation.accounted]
  | reconciled =>
    cases cost with
    | none => simp at hrec
    | some n => simp [charge, BudgetReconciliation.accounted]

theorem settlement_concat (op : String) (holds : HoldTable) (calls : List LedgerCall)
    (call : LedgerCall) :
    settlement op holds (calls ++ [call]) =
      (settlement op holds calls).or (settlement op (calls.foldl step holds) [call]) := by
  induction calls generalizing holds with
  | nil => simp [settlement]
  | cons c calls ih =>
    cases c with
    | reserve reservation known now => simpa [settlement] using ih _
    | reconcile r now =>
      by_cases hr : r.operationId = op ∧ accepted holds (.reconcile r now) = true
      · simp [settlement, hr]
      · simpa [settlement, hr] using ih _

/- An accepted reservation within a sequence of calls. -/
structure Admission where
  before : List LedgerCall
  reservation : BudgetReservation
  requestExists : Bool
  nowMs : Int
  after : List LedgerCall

namespace Admission

def call (a : Admission) : LedgerCall := .reserve a.reservation a.requestExists a.nowMs

def calls (a : Admission) : List LedgerCall := a.before ++ a.call :: a.after

def settlement (a : Admission) : Option BudgetReconciliation :=
  LedgerCall.settlement a.reservation.operationId (ledgerRun (a.before ++ [a.call])) a.after

def snoc (a : Admission) (c : LedgerCall) : Admission := { a with after := a.after ++ [c] }

/- What a hold owes to the admission that made it. -/
structure Explains (a : Admission) (row : BudgetHoldRow) : Prop where
  accepted : accepted (ledgerRun a.before) a.call = true
  operation : row.operationId = a.reservation.operationId
  keys : utcKeys a.nowMs = some (row.dayKey, row.monthKey)
  reserved : row.reservedUsdMicros = a.reservation.reservedUsdMicros
  open_iff : row.state = .reserved ↔ a.settlement = none
  consumed : row.consumed = charge a.reservation.reservedUsdMicros a.settlement

theorem ledgerRun_calls (a : Admission) :
    ledgerRun a.calls = a.after.foldl step (ledgerRun (a.before ++ [a.call])) := by
  simp [ledgerRun, calls, List.foldl_append]

theorem snoc_calls (a : Admission) (c : LedgerCall) : (a.snoc c).calls = a.calls ++ [c] := by
  simp [calls, snoc, call]

theorem snoc_settlement (a : Admission) (c : LedgerCall) :
    (a.snoc c).settlement = a.settlement.or
      (LedgerCall.settlement a.reservation.operationId (ledgerRun a.calls) [c]) := by
  rw [ledgerRun_calls]
  exact settlement_concat _ _ _ _

theorem Explains.snoc_same {a : Admission} {row : BudgetHoldRow} (h : a.Explains row)
    {c : LedgerCall} (hc : a.settlement.or
      (LedgerCall.settlement a.reservation.operationId (ledgerRun a.calls) [c]) = a.settlement) :
    (a.snoc c).Explains row := by
  have hs : (a.snoc c).settlement = a.settlement := (snoc_settlement a c).trans hc
  exact ⟨h.accepted, h.operation, h.keys, h.reserved, by rw [hs]; exact h.open_iff,
    by rw [hs]; exact h.consumed⟩

end Admission

theorem step_reserve {holds : HoldTable} {reservation : BudgetReservation} {known : Bool}
    {nowMs : Int} (h : accepted holds (.reserve reservation known nowMs) = true) :
    ∃ dayKey monthKey, utcKeys nowMs = some (dayKey, monthKey) ∧
      consumedMicros holds BudgetHoldRow.dayKey dayKey + reservation.reservedUsdMicros ≤
        reservation.dailyLimitUsdMicros ∧
      consumedMicros holds BudgetHoldRow.monthKey monthKey + reservation.reservedUsdMicros ≤
        reservation.monthlyLimitUsdMicros ∧
      holds.insert? (reservation.row dayKey monthKey nowMs) =
        some (step holds (.reserve reservation known nowMs)) := by
  obtain ⟨hold, holds', happ, hstep⟩ := accepted_ok h
  obtain ⟨dayKey, monthKey, hkeys, -, hday, hmonth, hins⟩ := reserveHold_ok happ
  exact ⟨dayKey, monthKey, hkeys, hday, hmonth, by rw [hstep]; exact hins⟩

/- A settled hold keeps its row through every later call. -/
theorem step_settled {holds : HoldTable} {row : BudgetHoldRow} (hr : row ∈ holds.rows)
    (hs : row.state ≠ .reserved) (call : LedgerCall) : row ∈ (step holds call).rows := by
  by_cases hacc : accepted holds call = true
  · obtain ⟨hold, holds', happ, hstep⟩ := accepted_ok hacc
    rw [hstep]
    cases call with
    | reserve reservation known nowMs =>
      obtain ⟨_, _, -, -, -, -, hins⟩ := reserveHold_ok happ
      exact (Table.mem_insert hins).mpr (Or.inl hr)
    | reconcile r nowMs =>
      obtain ⟨found, hfound, ⟨-, rfl⟩ | ⟨hres, -, hst, rfl⟩⟩ := reconcileHold_ok happ
      · exact hr
      · refine Table.mem_update_of_ne hr fun hk => hs ?_
        rwa [Table.eq_of_key hr (Table.find?_mem hfound) (hk.trans (Table.find?_key hfound).symm)]
  · rw [step_refused hacc]
    exact hr

/- The first accepted reconciliation settles the hold; the operation's later ones
   change nothing. -/
theorem reconcile_settles {holds : HoldTable} {r : BudgetReconciliation} {nowMs : Int}
    (h : accepted holds (.reconcile r nowMs) = true) :
    ∃ row ∈ (step holds (.reconcile r nowMs)).rows,
      row.operationId = r.operationId ∧ row.state ≠ .reserved := by
  obtain ⟨hold, holds', happ, hstep⟩ := accepted_ok h
  obtain ⟨found, hfound, ⟨hs, rfl⟩ | ⟨-, -, hst, rfl⟩⟩ := reconcileHold_ok happ
  · exact ⟨found, by rw [hstep]; exact Table.find?_mem hfound, Table.find?_key hfound, hs⟩
  · have hk := Table.find?_key hfound
    rw [hstep]
    exact ⟨_, Table.update_mem (Table.find?_mem hfound) hk, hk, hst⟩

theorem reconcile_settled {holds : HoldTable} {row : BudgetHoldRow} (hr : row ∈ holds.rows)
    (hs : row.state ≠ .reserved) {r : BudgetReconciliation} (hop : row.operationId = r.operationId)
    (nowMs : Int) : step holds (.reconcile r nowMs) = holds := by
  by_cases hacc : accepted holds (.reconcile r nowMs) = true
  · obtain ⟨hold, holds', happ, hstep⟩ := accepted_ok hacc
    obtain ⟨found, hfound, ⟨-, rfl⟩ | ⟨hres, -, -, -⟩⟩ := reconcileHold_ok happ
    · exact hstep
    · rw [Table.eq_of_key (Table.find?_mem hfound) hr ((Table.find?_key hfound).trans hop.symm)]
        at hres
      exact absurd hres hs
  · exact step_refused hacc

theorem foldl_settled {holds : HoldTable} {row : BudgetHoldRow} (hr : row ∈ holds.rows)
    (hs : row.state ≠ .reserved) (calls : List LedgerCall) :
    row ∈ (calls.foldl step holds).rows := by
  induction calls generalizing holds with
  | nil => exact hr
  | cons c calls ih => exact ih (step_settled hr hs c)

theorem settlement_other {op : String} {holds : HoldTable} {c : LedgerCall}
    (h : ∀ r nowMs, c = .reconcile r nowMs → r.operationId ≠ op ∨ accepted holds c = false) :
    settlement op holds [c] = none := by
  cases c with
  | reserve reservation known nowMs => rfl
  | reconcile r nowMs =>
    rcases h r nowMs rfl with h | h <;> simp [settlement, h]

/- One call later, an admission's hold still stands where its settlement says. -/
theorem Admission.Explains.step {a : Admission} {row : BudgetHoldRow} (h : a.Explains row)
    (hr : row ∈ (ledgerRun a.calls).rows) (c : LedgerCall) :
    ∃ row' ∈ (LedgerCall.step (ledgerRun a.calls) c).rows, (a.snoc c).Explains row' := by
  by_cases hacc : LedgerCall.accepted (ledgerRun a.calls) c = true
  swap
  · rw [step_refused hacc]
    refine ⟨row, hr, h.snoc_same ?_⟩
    rw [settlement_other fun r nowMs _ => Or.inr (by simpa using hacc), Option.or_none]
  cases c with
  | reserve reservation known nowMs =>
    obtain ⟨_, _, -, -, -, hins⟩ := step_reserve hacc
    exact ⟨row, (Table.mem_insert hins).mpr (Or.inl hr), h.snoc_same Option.or_none⟩
  | reconcile r nowMs =>
    by_cases hop : r.operationId = row.operationId
    swap
    · refine ⟨row, ?_, h.snoc_same ?_⟩
      · obtain ⟨hold, holds', happ, hstep⟩ := accepted_ok hacc
        rw [hstep]
        obtain ⟨found, -, ⟨-, rfl⟩ | ⟨-, -, hst, rfl⟩⟩ := reconcileHold_ok happ
        · exact hr
        · exact Table.mem_update_of_ne hr (Ne.symm hop)
      · have hne : r.operationId ≠ a.reservation.operationId := by rwa [← h.operation]
        rw [settlement_other fun r' nowMs' he => Or.inl (by cases he; exact hne), Option.or_none]
    by_cases hs : row.state = .reserved
    swap
    · rw [reconcile_settled hr hs hop.symm]
      refine ⟨row, hr, h.snoc_same ?_⟩
      cases hset : a.settlement with
      | none => exact absurd (h.open_iff.mpr hset) hs
      | some r' => rfl
    · -- the hold is still open, so this reconciliation is the one that settles it
      have hfirst : (a.snoc (.reconcile r nowMs)).settlement = some r := by
        rw [Admission.snoc_settlement, h.open_iff.mp hs, Option.none_or]
        simp [LedgerCall.settlement, hacc, hop, h.operation]
      obtain ⟨hold, holds', happ, hstep⟩ := accepted_ok hacc
      obtain ⟨found, hfound, ⟨hst, -⟩ | ⟨-, -, hst, rfl⟩⟩ := reconcileHold_ok happ
      · rw [Table.eq_of_key (Table.find?_mem hfound) hr ((Table.find?_key hfound).trans hop)] at hst
        exact absurd hs hst
      · rw [hstep]
        refine ⟨_, Table.update_mem hr hop.symm, h.accepted, h.operation, h.keys, h.reserved,
          iff_of_false hst (by simp [hfirst]), ?_⟩
        rw [hfirst, charge_accounted hst, BudgetHoldRow.settle_consumed, h.reserved]
        rfl

theorem Admission.explained (a : Admission)
    (h : LedgerCall.accepted (ledgerRun a.before) a.call = true) :
    ∃ row ∈ (ledgerRun a.calls).rows, a.Explains row := by
  obtain ⟨before, reservation, known, nowMs, after⟩ := a
  induction after using List.reverseRecOn with
  | nil =>
    obtain ⟨dayKey, monthKey, hkeys, -, -, hins⟩ := step_reserve h
    refine ⟨reservation.row dayKey monthKey nowMs, ?_, h, rfl, hkeys, rfl, iff_of_true rfl rfl, rfl⟩
    simpa [Admission.calls, Admission.call] using (Table.mem_insert hins).mpr (Or.inr rfl)
  | append_singleton after c ih =>
    obtain ⟨row, hrow, hex⟩ := ih h
    obtain ⟨row', hrow', hex'⟩ := hex.step hrow c
    refine ⟨row', ?_, hex'⟩
    rw [← ledgerRun_concat, ← Admission.snoc_calls] at hrow'
    exact hrow'

theorem hold_admitted (calls : List LedgerCall) {row : BudgetHoldRow}
    (h : row ∈ (ledgerRun calls).rows) : ∃ a : Admission, a.calls = calls ∧
      LedgerCall.accepted (ledgerRun a.before) a.call = true ∧
      a.reservation.operationId = row.operationId := by
  induction calls using List.reverseRecOn generalizing row with
  | nil => simp [ledgerRun, Table.empty] at h
  | append_singleton calls c ih =>
    rw [ledgerRun_concat] at h
    by_cases hold : ∃ old ∈ (ledgerRun calls).rows, old.operationId = row.operationId
    · obtain ⟨old, hmem, hop⟩ := hold
      obtain ⟨a, rfl, hacc, ha⟩ := ih hmem
      exact ⟨a.snoc c, Admission.snoc_calls a c, hacc, ha.trans hop⟩
    · by_cases hacc : LedgerCall.accepted (ledgerRun calls) c = true
      swap
      · rw [step_refused hacc] at h
        exact absurd ⟨row, h, rfl⟩ hold
      cases c with
      | reserve reservation known nowMs =>
        obtain ⟨_, _, -, -, -, hins⟩ := step_reserve hacc
        obtain h | rfl := (Table.mem_insert hins).mp h
        · exact absurd ⟨row, h, rfl⟩ hold
        · exact ⟨⟨calls, reservation, known, nowMs, []⟩, rfl, hacc, rfl⟩
      | reconcile r nowMs =>
        obtain ⟨_, holds', happ, hstep⟩ := accepted_ok hacc
        rw [hstep] at h
        obtain ⟨found, -, ⟨-, rfl⟩ | ⟨-, -, hst, rfl⟩⟩ := reconcileHold_ok happ
        · exact absurd ⟨row, h, rfl⟩ hold
        · obtain ⟨h, -⟩ | ⟨old, hmem, -, rfl⟩ := Table.mem_update h
          · exact absurd ⟨row, h, rfl⟩ hold
          · exact absurd ⟨old, hmem, rfl⟩ hold

/- What one accepted call adds to a day or a month, read off the column. -/
theorem consumedMicros_reserve {holds holds' : HoldTable} {row : BudgetHoldRow}
    (h : holds.insert? row = some holds') (column : BudgetHoldRow → String) (key : String) :
    consumedMicros holds' column key =
      consumedMicros holds column key + if column row = key then row.consumed else 0 :=
  Table.total_insert h _

theorem consumedMicros_reconcile {holds : HoldTable} {r : BudgetReconciliation} {nowMs : Int}
    (h : LedgerCall.accepted holds (.reconcile r nowMs) = true)
    (hcost : ∀ row ∈ (LedgerCall.step holds (.reconcile r nowMs)).rows, row.state = .reconciled →
      row.accountedUsdMicros.getD 0 ≤ row.reservedUsdMicros)
    (column : BudgetHoldRow → String)
    (hcol : ∀ row state hs n t, column (row.settle state hs n t) = column row) (key : String) :
    consumedMicros (LedgerCall.step holds (.reconcile r nowMs)) column key ≤
      consumedMicros holds column key := by
  obtain ⟨_, holds', happ, hstep⟩ := accepted_ok h
  rw [hstep] at hcost ⊢
  obtain ⟨found, hfound, ⟨-, rfl⟩ | ⟨hres, -, hst, rfl⟩⟩ := reconcileHold_ok happ
  · exact le_rfl
  · refine Table.total_update_le fun row hrow hk => ?_
    rw [hcol, BudgetHoldRow.settle_consumed]
    have hopen : row.state = .reserved := by
      rwa [Table.eq_of_key hrow (Table.find?_mem hfound) (hk.trans (Table.find?_key hfound).symm)]
    have hle : r.accounted row.reservedUsdMicros ≤ row.consumed := by
      rw [BudgetHoldRow.consumed, if_pos hopen]
      by_cases hrec : r.state = .reconciled
      · exact hcost _ (Table.update_mem hrow hk) hrec
      · simp [BudgetReconciliation.accounted, hrec]
    split
    · exact hle
    · exact le_rfl

/- Costs within their reservations: the day and the month column alike. -/
theorem consumedMicros_le (column : BudgetHoldRow → String) (limit : BudgetReservation → Nat)
    (hcol : ∀ row state hs n t, column (row.settle state hs n t) = column row)
    (hlimit : ∀ holds reservation known nowMs dayKey monthKey,
      LedgerCall.accepted holds (.reserve reservation known nowMs) = true →
      utcKeys nowMs = some (dayKey, monthKey) →
      consumedMicros holds column (column (reservation.row dayKey monthKey nowMs)) +
        reservation.reservedUsdMicros ≤ limit reservation)
    (calls : List LedgerCall)
    (hcost : ∀ row ∈ (ledgerRun calls).rows, row.state = .reconciled →
      row.accountedUsdMicros.getD 0 ≤ row.reservedUsdMicros)
    (key : String) (bound : Nat)
    (hbound : ∀ a : Admission, a.calls = calls →
      LedgerCall.accepted (ledgerRun a.before) a.call = true → limit a.reservation ≤ bound) :
    consumedMicros (ledgerRun calls) column key ≤ bound := by
  induction calls using List.reverseRecOn with
  | nil => simp [ledgerRun, consumedMicros, Table.total, Table.empty]
  | append_singleton calls c ih =>
    rw [ledgerRun_concat] at hcost ⊢
    have ih' : consumedMicros (ledgerRun calls) column key ≤ bound := by
      refine ih (fun row hr hrec => ?_) fun a hsplit => hbound (a.snoc c) ?_
      · exact hcost row (step_settled hr (by rw [hrec]; decide) c) hrec
      · rw [Admission.snoc_calls, hsplit]
    by_cases hacc : LedgerCall.accepted (ledgerRun calls) c = true
    swap
    · rwa [step_refused hacc]
    cases c with
    | reconcile r nowMs =>
      exact (consumedMicros_reconcile hacc hcost column hcol key).trans ih'
    | reserve reservation known nowMs =>
      obtain ⟨dayKey, monthKey, hkeys, -, -, hins⟩ := step_reserve hacc
      rw [consumedMicros_reserve hins]
      split
      · rename_i hkey
        have hin := hlimit _ reservation known nowMs _ _ hacc hkeys
        rw [hkey] at hin
        exact hin.trans (hbound ⟨calls, reservation, known, nowMs, []⟩ rfl hacc)
      · simpa using ih'

/-- Every sequence of reserve and reconcile calls: an accepted reservation fits its
day and its month; each operation is charged once, to the day and month of its
admission, with its reservation until its cost is known; the first reconciliation
wins; and while every cost stays within its reservation no day and no month passes
the largest limit it was reserved under. -/
theorem ledger_budget (calls : List LedgerCall) :
    (∀ a : Admission, a.calls = calls → accepted (ledgerRun a.before) a.call = true →
      (∃ dayKey monthKey, utcKeys a.nowMs = some (dayKey, monthKey) ∧
        consumedMicros (ledgerRun a.before) BudgetHoldRow.dayKey dayKey +
          a.reservation.reservedUsdMicros ≤ a.reservation.dailyLimitUsdMicros ∧
        consumedMicros (ledgerRun a.before) BudgetHoldRow.monthKey monthKey +
          a.reservation.reservedUsdMicros ≤ a.reservation.monthlyLimitUsdMicros) ∧
      ∃ row, (ledgerRun calls).find? a.reservation.operationId = some row ∧ a.Explains row) ∧
    (((ledgerRun calls).rows.map BudgetHoldRow.operationId).Nodup ∧
      ∀ row ∈ (ledgerRun calls).rows, ∃ a : Admission, a.calls = calls ∧
        accepted (ledgerRun a.before) a.call = true ∧
        a.reservation.operationId = row.operationId) ∧
    (∀ before r nowMs after, calls = before ++ .reconcile r nowMs :: after →
      accepted (ledgerRun before) (.reconcile r nowMs) = true →
      ∀ r' nowMs', r'.operationId = r.operationId →
        step (ledgerRun calls) (.reconcile r' nowMs') = ledgerRun calls) ∧
    ((∀ row ∈ (ledgerRun calls).rows, row.state = .reconciled →
        row.accountedUsdMicros.getD 0 ≤ row.reservedUsdMicros) →
      ∀ key bound,
        ((∀ a : Admission, a.calls = calls → accepted (ledgerRun a.before) a.call = true →
            a.reservation.dailyLimitUsdMicros ≤ bound) →
          consumedMicros (ledgerRun calls) BudgetHoldRow.dayKey key ≤ bound) ∧
        ((∀ a : Admission, a.calls = calls → accepted (ledgerRun a.before) a.call = true →
            a.reservation.monthlyLimitUsdMicros ≤ bound) →
          consumedMicros (ledgerRun calls) BudgetHoldRow.monthKey key ≤ bound)) := by
  refine ⟨fun a ha hacc => ⟨?_, ?_⟩, ⟨(ledgerRun calls).nodup, fun row => hold_admitted calls⟩,
    fun before r nowMs after hsplit hacc r' nowMs' hop => ?_, fun hcost key bound => ⟨?_, ?_⟩⟩
  · obtain ⟨dayKey, monthKey, hkeys, hday, hmonth, -⟩ := step_reserve hacc
    exact ⟨dayKey, monthKey, hkeys, hday, hmonth⟩
  · obtain ⟨row, hrow, hex⟩ := a.explained hacc
    rw [← ha, ← hex.operation]
    exact ⟨row, Table.mem_find? hrow, hex⟩
  · obtain ⟨row, hrow, hk, hs⟩ := reconcile_settles hacc
    have hmem : row ∈ (ledgerRun calls).rows := by
      have hrun : ledgerRun calls =
          after.foldl step (step (ledgerRun before) (.reconcile r nowMs)) := by
        simp [hsplit, ledgerRun, List.foldl_append]
      rw [hrun]
      exact foldl_settled hrow hs after
    exact reconcile_settled hmem hs (hk.trans hop.symm) nowMs'
  · refine consumedMicros_le _ BudgetReservation.dailyLimitUsdMicros (fun _ _ _ _ _ => rfl)
      (fun holds reservation known nowMs dayKey monthKey hacc hkeys => ?_) calls hcost key bound
    obtain ⟨dayKey', monthKey', hkeys', hday, -, -⟩ := step_reserve hacc
    cases hkeys.symm.trans hkeys'
    exact hday
  · refine consumedMicros_le _ BudgetReservation.monthlyLimitUsdMicros (fun _ _ _ _ _ => rfl)
      (fun holds reservation known nowMs dayKey monthKey hacc hkeys => ?_) calls hcost key bound
    obtain ⟨dayKey', monthKey', hkeys', -, hmonth, -⟩ := step_reserve hacc
    cases hkeys.symm.trans hkeys'
    exact hmonth

end FrameNest.Research
