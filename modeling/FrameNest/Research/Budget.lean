import FrameNest.Relational.Table
import FrameNest.Research.Values

/-! The budget ledger: one hold per operation, charged to the UTC day and month
of its admission. -/
namespace FrameNest.Research
open Relational

def padded (width n : Nat) : String :=
  let digits := (Nat.repr n).toList
  String.ofList (List.replicate (width - digits.length) '0' ++ digits)

/- The proleptic Gregorian date of a day counted from 1970-01-01. -/
def civilFromDays (days : Int) : Nat × Nat × Nat :=
  let z := days + 719468
  let era := z / 146097
  let doe := (z % 146097).toNat
  let yoe := (doe - doe / 1460 + doe / 36524 - doe / 146096) / 365
  let doy := doe - (365 * yoe + yoe / 4 - yoe / 100)
  let mp := (5 * doy + 2) / 153
  let month := if mp < 10 then mp + 3 else mp - 9
  ((yoe + era * 400 + if month ≤ 2 then 1 else 0).toNat, month, doy - (153 * mp + 2) / 5 + 1)

/- `none` where `datetime.fromtimestamp` raises: outside the years 1 to 9999. -/
def utcKeys (atMs : Int) : Option (String × String) :=
  if -62135596800000 ≤ atMs ∧ atMs ≤ 253402300799999 then
    let (year, month, day) := civilFromDays (atMs / 86400000)
    let monthKey := padded 4 year ++ "-" ++ padded 2 month
    some (monthKey ++ "-" ++ padded 2 day, monthKey)
  else none

example : utcKeys 1709251199999 = some ("2024-02-29", "2024-02") := by decide

def fitsInteger (n : Int) : Bool := -9223372036854775808 ≤ n && n ≤ 9223372036854775807

structure BudgetHoldRow where
  operationId : String
  dayKey : String
  monthKey : String
  reservedUsdMicros : Nat
  accountedUsdMicros : Option Nat
  state : ResearchAccountingState
  createdAtMs : Int
  reconciledAtMs : Option Int
  reserved_bounded : requirePositiveInt reservedUsdMicros maxResearchReservationMicroUsd = true
  shape : (state = .reserved ∧ accountedUsdMicros = none ∧ reconciledAtMs = none) ∨
    (state ≠ .reserved ∧ accountedUsdMicros.isSome = true ∧ reconciledAtMs.isSome = true)

abbrev HoldTable := Table BudgetHoldRow.operationId

namespace BudgetHoldRow

/- One row's term of `_consumed_micros`. -/
def consumed (row : BudgetHoldRow) : Nat :=
  if row.state = .reserved then row.reservedUsdMicros else row.accountedUsdMicros.getD 0

def settle (row : BudgetHoldRow) (state : ResearchAccountingState) (h : state ≠ .reserved)
    (accounted : Nat) (nowMs : Int) : BudgetHoldRow :=
  { row with
    accountedUsdMicros := some accounted
    state := state
    reconciledAtMs := some nowMs
    shape := Or.inr ⟨h, rfl, rfl⟩ }

def hold (row : BudgetHoldRow) : BudgetHold :=
  ⟨row.operationId, row.reservedUsdMicros, row.state, row.reserved_bounded⟩

/- Reconciled, and within its reservation. -/
def settledWithin (row : BudgetHoldRow) : Prop :=
  row.state = .reconciled ∧ row.accountedUsdMicros.getD 0 ≤ row.reservedUsdMicros

@[simp] theorem settle_consumed (row : BudgetHoldRow) (state : ResearchAccountingState)
    (h : state ≠ .reserved) (accounted : Nat) (nowMs : Int) :
    (row.settle state h accounted nowMs).consumed = accounted := by simp [consumed, settle, h]

end BudgetHoldRow

def consumedMicros (holds : HoldTable) (column : BudgetHoldRow → String) (key : String) : Nat :=
  holds.total fun row => if column row = key then row.consumed else 0

def BudgetReservation.row (reservation : BudgetReservation) (dayKey monthKey : String)
    (nowMs : Int) : BudgetHoldRow where
  operationId := reservation.operationId
  dayKey := dayKey
  monthKey := monthKey
  reservedUsdMicros := reservation.reservedUsdMicros
  accountedUsdMicros := none
  state := .reserved
  createdAtMs := nowMs
  reconciledAtMs := none
  reserved_bounded := reservation.reserved_bounded
  shape := Or.inl ⟨rfl, rfl, rfl⟩

/- `requestExists` is the foreign key to `research_requests`. -/
def reserveHold (holds : HoldTable) (reservation : BudgetReservation) (requestExists : Bool)
    (nowMs : Int) : Except Failure (BudgetHold × HoldTable) :=
  match utcKeys nowMs with
  | none => .error .other
  | some (dayKey, monthKey) =>
    if consumedMicros holds BudgetHoldRow.dayKey dayKey + reservation.reservedUsdMicros >
        reservation.dailyLimitUsdMicros then .error (.store .budgetExceeded)
    else if consumedMicros holds BudgetHoldRow.monthKey monthKey + reservation.reservedUsdMicros >
        reservation.monthlyLimitUsdMicros then .error (.store .budgetExceeded)
    else if requestExists = false ∨ nowMs < 0 then .error .other
    else match holds.insert? (reservation.row dayKey monthKey nowMs) with
      | none => .error .other
      | some holds' => .ok ((reservation.row dayKey monthKey nowMs).hold, holds')

/- The accounted amount: the full cost when known, the whole reservation when not. -/
def BudgetReconciliation.accounted (reconciliation : BudgetReconciliation) (reserved : Nat) : Nat :=
  if reconciliation.state = .reconciled then reconciliation.calculatedCostUsdMicros.getD 0
  else reserved

def reconcileHold (holds : HoldTable) (reconciliation : BudgetReconciliation) (nowMs : Int) :
    Except Failure (BudgetHold × HoldTable) :=
  match holds.find? reconciliation.operationId with
  | none => .error (.store .storage)
  | some row =>
    if row.state ≠ .reserved then .ok (row.hold, holds)
    else if h : reconciliation.state = .reserved then .error (.store .invalidRequest)
    else
      let accounted := reconciliation.accounted row.reservedUsdMicros
      if fitsInteger accounted = false ∨ fitsInteger nowMs = false ∨ nowMs < row.createdAtMs then
        .error .other
      else .ok ((row.settle reconciliation.state h accounted nowMs).hold,
        holds.update reconciliation.operationId
          (fun row => row.settle reconciliation.state h accounted nowMs) fun _ => rfl)

/- The fail-closed blocker; `terminal` reads the joined request's lifecycle state. -/
def blockingAccountingState (holds : HoldTable) (terminal : String → Bool) :
    Option ResearchErrorCode :=
  match holds.rows.findSome? fun row =>
      if row.state = .unknown then some ResearchErrorCode.accountingUnknown
      else if row.accountedUsdMicros.any (row.reservedUsdMicros < ·) then
        some ResearchErrorCode.budgetExceeded
      else none with
  | some code => some code
  | none =>
    if holds.rows.any fun row => row.state = .reserved && terminal row.operationId then
      some .accountingUnknown
    else none

theorem reserveHold_ok {holds holds' : HoldTable} {reservation : BudgetReservation} {known : Bool}
    {nowMs : Int} {hold : BudgetHold}
    (h : reserveHold holds reservation known nowMs = .ok (hold, holds')) :
    ∃ dayKey monthKey, utcKeys nowMs = some (dayKey, monthKey) ∧ 0 ≤ nowMs ∧
      consumedMicros holds BudgetHoldRow.dayKey dayKey + reservation.reservedUsdMicros ≤
        reservation.dailyLimitUsdMicros ∧
      consumedMicros holds BudgetHoldRow.monthKey monthKey + reservation.reservedUsdMicros ≤
        reservation.monthlyLimitUsdMicros ∧
      holds.insert? (reservation.row dayKey monthKey nowMs) = some holds' := by
  unfold reserveHold at h
  split at h
  · cases h
  · rename_i dayKey monthKey hkeys
    split at h
    · cases h
    split at h
    · cases h
    split at h
    · cases h
    rename_i hday hmonth hknown
    split at h
    · cases h
    · rename_i inserted hins
      cases h
      rw [not_or] at hknown
      exact ⟨dayKey, monthKey, hkeys, by omega, by omega, by omega, hins⟩

/- An accepted reconciliation finds a hold and either leaves every row alone or
   settles that one hold, which was still reserved. -/
theorem reconcileHold_ok {holds holds' : HoldTable} {reconciliation : BudgetReconciliation}
    {nowMs : Int} {hold : BudgetHold}
    (h : reconcileHold holds reconciliation nowMs = .ok (hold, holds')) :
    ∃ row, holds.find? reconciliation.operationId = some row ∧
      ((row.state ≠ .reserved ∧ holds' = holds) ∨
        (row.state = .reserved ∧ row.createdAtMs ≤ nowMs ∧ ∃ hs : reconciliation.state ≠ .reserved,
          holds' = holds.update reconciliation.operationId (fun row =>
            row.settle reconciliation.state hs (reconciliation.accounted row.reservedUsdMicros)
              nowMs) fun _ => rfl)) := by
  unfold reconcileHold at h
  split at h
  · cases h
  · rename_i row hrow
    refine ⟨row, hrow, ?_⟩
    split at h
    · rename_i hstate
      cases h
      exact Or.inl ⟨hstate, rfl⟩
    · rename_i hstate
      split at h
      · cases h
      · rename_i hs
        simp only at h
        split at h
        · cases h
        · rename_i hchecks
          cases h
          refine Or.inr ⟨not_not.mp hstate, by omega, hs, ?_⟩
          refine Table.update_congr fun r hr hk => ?_
          rw [Table.eq_of_key hr (Table.find?_mem hrow) (hk.trans (Table.find?_key hrow).symm)]

theorem blockingAccountingState_none {holds : HoldTable} {terminal : String → Bool}
    (h : blockingAccountingState holds terminal = none) {row : BudgetHoldRow}
    (hr : row ∈ holds.rows) (ht : terminal row.operationId = true) : row.settledWithin := by
  unfold blockingAccountingState at h
  split at h
  · cases h
  · rename_i hnone
    split at h
    · cases h
    · rename_i hgap
      have hrow := List.findSome?_eq_none_iff.mp hnone row hr
      simp only [List.any_eq_true, Bool.and_eq_true, decide_eq_true_eq, not_exists, not_and] at hgap
      have hres := hgap row hr
      cases hst : row.state with
      | reserved => exact absurd ht (hres hst)
      | unknown => simp [hst] at hrow
      | reconciled =>
        cases hacc : row.accountedUsdMicros with
        | none => simp [BudgetHoldRow.settledWithin, hst, hacc]
        | some n =>
          simp [hst, hacc] at hrow
          simpa [BudgetHoldRow.settledWithin, hst, hacc] using hrow

end FrameNest.Research
