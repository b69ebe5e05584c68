import FrameNest.Relational.Ordering
import FrameNest.Relational.Table
import FrameNest.Uploads.Sessions
import Mathlib.Data.Finset.Card
import Mathlib.Data.Prod.Lex
import Mathlib.Order.WellFounded

/-! One reconciliation pass over the uploads that wait for validation: pages behind a cursor,
while the processing of each candidate may rewrite the very columns the cursor reads. -/
namespace FrameNest.Uploads
open Relational

abbrev Sessions := Table UploadSessionRow.id

inductive DiscoveryMode where
  | startup | runtime
deriving DecidableEq

inductive DrainOutcome where
  | idle | discoveryFailed | shutdown
deriving DecidableEq

/- `_eligible_states_for_mode`, and the states of the two listings. -/
def eligibleStates : DiscoveryMode → List UploadSessionState
  | .startup => [.received, .validating]
  | .runtime => [.received]

abbrev CandidateCursor := Option (Int ×ₗ String)

def candidateKey (row : UploadSessionRow) : Int ×ₗ String := toLex (row.updatedAtMs, row.id.value)

/- `_validate_candidate_cursor`. -/
def candidateCursorValid (after : CandidateCursor) : Bool :=
  after.all fun key => 0 ≤ (ofLex key).1 && (ofLex key).2 ≠ ""

/- `tuple(_session_from_row(row) for row in rows)`. -/
def sessionsFromRows : List UploadSessionRow → Option (List UploadSession)
  | [] => some []
  | row :: rows =>
    match sessionFromRow row, sessionsFromRows rows with
    | some session, some sessions => some (session :: sessions)
    | _, _ => none

/- `_list_validation_candidates`; `none` where it raises. -/
def listValidationCandidates (states : List UploadSessionState) (limit : Int)
    (after : CandidateCursor) (sessions : Sessions) : Option (List UploadSession) :=
  if 0 < limit && candidateCursorValid after then
    sessionsFromRows (page candidateKey (fun row => row.state ∈ states) limit.toNat after
      sessions.rows)
  else none

structure UploadValidationCoordinator where
  batchSize : Int
  positive : 0 < batchSize

/-- What the surroundings make of one step of a pass: what others do to the rows before it,
whether the coordinator is stopping, whether a listing fails, and what the processing of a
candidate does to the rows and whether it reports a shutdown. -/
structure Turn where
  others : Sessions → Sessions
  stopping : Bool
  listingFails : Bool
  process : UploadSession → Sessions → Sessions × Bool

inductive DrainPhase where
  | discovering
  | visiting (candidates : List UploadSession)
  | ended (outcome : DrainOutcome)

/-- A pass under way, with the candidates it has had processed so far. -/
structure Drain where
  sessions : Sessions
  phase : DrainPhase
  cursor : CandidateCursor
  visitedUploadIds : List UploadSessionId
  processed : List UploadSessionId

def Drain.start (sessions : Sessions) : Drain := ⟨sessions, .discovering, none, [], []⟩

namespace UploadValidationCoordinator
variable (c : UploadValidationCoordinator) (mode : DiscoveryMode)

/- `_discover_candidates`. -/
def discoverCandidates (turn : Turn) (after : CandidateCursor) (sessions : Sessions) :
    Option (List UploadSession) :=
  if turn.listingFails then none
  else listValidationCandidates (eligibleStates mode) c.batchSize after sessions

/- One step of `_drain_reconciliation`: the head of its `while` or of its `for`. -/
def drainStep (turn : Turn) (d : Drain) : Drain :=
  let sessions := turn.others d.sessions
  match d.phase with
  | .ended outcome => { d with sessions, phase := .ended outcome }
  | .discovering =>
    if turn.stopping then { d with sessions, phase := .ended .shutdown }
    else
      match c.discoverCandidates mode turn d.cursor sessions with
      | none => { d with sessions, phase := .ended .discoveryFailed }
      | some [] => { d with sessions, phase := .ended .idle }
      | some (candidate :: rest) => { d with sessions, phase := .visiting (candidate :: rest) }
  | .visiting [] => { d with sessions, phase := .discovering }
  | .visiting (candidate :: rest) =>
    let cursor := some (candidateKey candidate.toUploadSessionRow)
    if turn.stopping then { d with sessions, cursor, phase := .ended .shutdown }
    else if candidate.id ∈ d.visitedUploadIds then
      { d with sessions, cursor, phase := .visiting rest }
    else
      let (sessions, shutdown) := turn.process candidate sessions
      { sessions, cursor
        visitedUploadIds := candidate.id :: d.visitedUploadIds
        processed := d.processed ++ [candidate.id]
        phase := if shutdown then .ended .shutdown else .visiting rest }

/- The pass after its first steps. -/
def drainReconciliation (turns : Nat → Turn) (sessions : Sessions) : Nat → Drain
  | 0 => .start sessions
  | n + 1 => c.drainStep mode (turns n) (drainReconciliation turns sessions n)

end UploadValidationCoordinator

section Listing
variable {rows : List UploadSessionRow} {sessions : List UploadSession} {table : Sessions}
  {states : List UploadSessionState} {limit : Int} {after : CandidateCursor}

theorem sessionsFromRows_some (h : sessionsFromRows rows = some sessions) :
    sessions.map UploadSession.toUploadSessionRow = rows := by
  induction rows generalizing sessions with
  | nil =>
    cases h
    rfl
  | cons row rows ih =>
    unfold sessionsFromRows at h
    split at h
    · rename_i session rest hsession hrest
      cases h
      rw [List.map_cons, ih hrest, sessionFromRow_some hsession]
    · cases h

theorem sessionsFromRows_isSome (h : ∀ row ∈ rows, row.Valid) :
    (sessionsFromRows rows).isSome = true := by
  induction rows with
  | nil => rfl
  | cons row rows ih =>
    have hrest := ih fun other hother => h other (List.mem_cons_of_mem _ hother)
    obtain ⟨rest, hsome⟩ := Option.isSome_iff_exists.mp hrest
    simp [sessionsFromRows, sessionFromRow_valid (h row List.mem_cons_self), hsome]

/-- Rows of different sessions have different keys. -/
theorem candidateKey_nodup (table : Sessions) : (table.rows.map candidateKey).Nodup := by
  have hids : table.rows.Pairwise fun a b => a.id ≠ b.id := List.pairwise_map.mp table.nodup
  refine List.pairwise_map.mpr (hids.imp fun {a b} hne hkey => hne ?_)
  have htext : a.id.value = b.id.value := congrArg (fun key => (ofLex key).2) hkey
  obtain ⟨⟨text, canonical⟩⟩ := a
  obtain ⟨⟨text', canonical'⟩⟩ := b
  cases htext
  rfl

/-- What a listing returns: rows of the table behind the cursor, in ascending order, and every
such row that does not come after all of them. -/
theorem listValidationCandidates_some
    (h : listValidationCandidates states limit after table = some sessions) :
    (∀ candidate ∈ sessions, candidate.toUploadSessionRow ∈ table.rows ∧
      before after (candidateKey candidate.toUploadSessionRow) = true) ∧
    (sessions.Pairwise fun a b =>
      candidateKey a.toUploadSessionRow < candidateKey b.toUploadSessionRow) ∧
    ∀ row ∈ table.rows, row.state ∈ states → before after (candidateKey row) = true →
      (∃ candidate ∈ sessions, candidate.toUploadSessionRow = row) ∨
      sessions ≠ [] ∧ ∀ candidate ∈ sessions,
        candidateKey candidate.toUploadSessionRow < candidateKey row := by
  unfold listValidationCandidates at h
  split at h
  · rename_i hvalid
    simp only [Bool.and_eq_true, decide_eq_true_eq] at hvalid
    have hrows := sessionsFromRows_some h
    have hascending : (page candidateKey (fun row => decide (row.state ∈ states)) limit.toNat after
        table.rows).Pairwise fun a b => candidateKey a < candidateKey b :=
      page_ascending (candidateKey_nodup table)
    rw [← hrows] at hascending
    refine ⟨fun candidate hc => ?_,
      (List.pairwise_map (R := fun a b => candidateKey a < candidateKey b)).mp hascending,
      fun row hrow hstate hbehind => ?_⟩
    · have hmem := List.mem_map_of_mem (f := UploadSession.toUploadSessionRow) hc
      rw [hrows] at hmem
      obtain ⟨hin, -, hbehind⟩ := mem_page hmem
      exact ⟨hin, hbehind⟩
    · have hwanted : decide (row.state ∈ states) = true := by simpa using hstate
      by_cases hin : row ∈ sessions.map UploadSession.toUploadSessionRow
      · obtain ⟨candidate, hc, hsame⟩ := List.mem_map.mp hin
        exact Or.inl ⟨candidate, hc, hsame⟩
      · rw [hrows] at hin
        have hlater := page_skips hrow hwanted hbehind hin
        refine Or.inr ⟨?_, fun candidate hc => ?_⟩
        · rintro rfl
          have hnone : page candidateKey (fun row => decide (row.state ∈ states)) limit.toNat after
              table.rows = [] := hrows.symm
          have hlimit : 0 < limit.toNat := by omega
          have hend := page_eq_nil hlimit hnone hrow hwanted
          rw [hbehind] at hend
          cases hend
        · have hmem := List.mem_map_of_mem (f := UploadSession.toUploadSessionRow) hc
          rw [hrows] at hmem
          refine lt_of_le_of_ne (hlater _ hmem) fun hsame => ?_
          -- rows of one table with one key are one row
          have hkeys := List.inj_on_of_nodup_map (candidateKey_nodup table) (mem_page hmem).1 hrow
            hsame
          rw [hkeys] at hmem
          exact hin hmem
  · cases h

end Listing

/-- The pass is in order: it counts each candidate once, and what is left of its page
ascends behind the cursor. -/
structure Drain.Orderly (d : Drain) : Prop where
  counted : d.processed = d.visitedUploadIds.reverse
  distinct : d.visitedUploadIds.Nodup
  cursor : candidateCursorValid d.cursor = true
  behind : ∀ candidates, d.phase = .visiting candidates → ∀ candidate ∈ candidates,
    before d.cursor (candidateKey candidate.toUploadSessionRow) = true
  ascending : ∀ candidates, d.phase = .visiting candidates → candidates.Pairwise fun a b =>
    candidateKey a.toUploadSessionRow < candidateKey b.toUploadSessionRow

theorem candidateCursorValid_some (candidate : UploadSession) :
    candidateCursorValid (some (candidateKey candidate.toUploadSessionRow)) = true := by
  have htime : 0 ≤ candidate.updatedAtMs := candidate.valid.updated_nonneg
  have htext : candidate.id.value ≠ "" := by
    intro hempty
    have hcanonical := candidate.id.canonical
    rw [hempty] at hcanonical
    exact absurd hcanonical (by decide)
  simp [candidateCursorValid, candidateKey, htime, htext]

section Steps
variable {c : UploadValidationCoordinator} {mode : DiscoveryMode} {turn : Turn} {d : Drain}

theorem Drain.Orderly.start (sessions : Sessions) : (Drain.start sessions).Orderly :=
  ⟨rfl, List.nodup_nil, rfl, nofun, nofun⟩

/-- A page as the coordinator discovers it. -/
theorem discoverCandidates_some {after : CandidateCursor} {table : Sessions}
    {candidates : List UploadSession}
    (h : c.discoverCandidates mode turn after table = some candidates) :
    listValidationCandidates (eligibleStates mode) c.batchSize after table = some candidates := by
  unfold UploadValidationCoordinator.discoverCandidates at h
  split at h
  · cases h
  · exact h

/-- Everything one step can do. -/
inductive DrainMove (c : UploadValidationCoordinator) (mode : DiscoveryMode) (turn : Turn)
    (d : Drain) : Drain → Prop where
  | still (outcome : DrainOutcome) (hphase : d.phase = .ended outcome) :
      DrainMove c mode turn d { d with sessions := turn.others d.sessions }
  | stopped (cursor : CandidateCursor) (hphase : ∀ outcome, d.phase ≠ .ended outcome)
      (hcursor : candidateCursorValid d.cursor = true → candidateCursorValid cursor = true)
      (hstopping : turn.stopping = true) : DrainMove c mode turn d
        { d with sessions := turn.others d.sessions, cursor, phase := .ended .shutdown }
  | failed (hphase : d.phase = .discovering)
      (hnone : c.discoverCandidates mode turn d.cursor (turn.others d.sessions) = none) :
      DrainMove c mode turn d
        { d with sessions := turn.others d.sessions, phase := .ended .discoveryFailed }
  | idle (hphase : d.phase = .discovering)
      (hnobody : c.discoverCandidates mode turn d.cursor (turn.others d.sessions) = some []) :
      DrainMove c mode turn d { d with sessions := turn.others d.sessions, phase := .ended .idle }
  | discovered (candidate : UploadSession) (rest : List UploadSession)
      (hphase : d.phase = .discovering)
      (hpage : c.discoverCandidates mode turn d.cursor (turn.others d.sessions) =
        some (candidate :: rest)) : DrainMove c mode turn d
        { d with sessions := turn.others d.sessions, phase := .visiting (candidate :: rest) }
  | turned (hphase : d.phase = .visiting []) : DrainMove c mode turn d
      { d with sessions := turn.others d.sessions, phase := .discovering }
  | skipped (candidate : UploadSession) (rest : List UploadSession)
      (hphase : d.phase = .visiting (candidate :: rest)) (hold : candidate.id ∈ d.visitedUploadIds) :
      DrainMove c mode turn d
        { d with
          sessions := turn.others d.sessions
          cursor := some (candidateKey candidate.toUploadSessionRow)
          phase := .visiting rest }
  | processed (candidate : UploadSession) (rest : List UploadSession) (phase : DrainPhase)
      (hphase : d.phase = .visiting (candidate :: rest)) (hnew : candidate.id ∉ d.visitedUploadIds)
      (hnext : (turn.process candidate (turn.others d.sessions)).2 = false ∧
          phase = .visiting rest ∨
        (turn.process candidate (turn.others d.sessions)).2 = true ∧ phase = .ended .shutdown) :
      DrainMove c mode turn d
        { sessions := (turn.process candidate (turn.others d.sessions)).1
          cursor := some (candidateKey candidate.toUploadSessionRow)
          visitedUploadIds := candidate.id :: d.visitedUploadIds
          processed := d.processed ++ [candidate.id]
          phase }

theorem drainStep_move : DrainMove c mode turn d (c.drainStep mode turn d) := by
  obtain ⟨sessions, phase, cursor, visited, processed⟩ := d
  cases phase with
  | ended outcome => exact .still outcome rfl
  | discovering =>
    simp only [UploadValidationCoordinator.drainStep]
    split
    · exact .stopped cursor nofun id (by assumption)
    · split
      · exact .failed rfl (by assumption)
      · exact .idle rfl (by assumption)
      · exact .discovered _ _ rfl (by assumption)
  | visiting candidates =>
    cases candidates with
    | nil => exact .turned rfl
    | cons candidate rest =>
      simp only [UploadValidationCoordinator.drainStep]
      split
      · exact .stopped _ nofun (fun _ => candidateCursorValid_some candidate) (by assumption)
      · split
        · exact .skipped candidate rest rfl (by assumption)
        · refine .processed candidate rest _ rfl (by assumption) ?_
          cases (turn.process candidate (turn.others sessions)).2 with
          | false => exact Or.inl ⟨rfl, rfl⟩
          | true => exact Or.inr ⟨rfl, rfl⟩

theorem Drain.Orderly.move {d' : Drain} (h : d.Orderly) (hmove : DrainMove c mode turn d d') :
    d'.Orderly := by
  cases hmove with
  | still outcome hphase =>
    exact ⟨h.counted, h.distinct, h.cursor, h.behind, h.ascending⟩
  | stopped cursor hphase hcursor =>
    exact ⟨h.counted, h.distinct, hcursor h.cursor, nofun, nofun⟩
  | failed | idle | turned => exact ⟨h.counted, h.distinct, h.cursor, nofun, nofun⟩
  | discovered candidate rest hphase hpage =>
    obtain ⟨hbehind, hascending, -⟩ :=
      listValidationCandidates_some (discoverCandidates_some hpage)
    refine ⟨h.counted, h.distinct, h.cursor, ?_, ?_⟩
    · rintro candidates ⟨⟩ other hother
      exact (hbehind other hother).2
    · rintro candidates ⟨⟩
      exact hascending
  | skipped candidate rest hphase =>
    have hascending := h.ascending _ hphase
    refine ⟨h.counted, h.distinct, candidateCursorValid_some candidate, ?_, ?_⟩
    · rintro candidates ⟨⟩ other hother
      exact before_some.mpr (List.rel_of_pairwise_cons hascending hother)
    · rintro candidates ⟨⟩
      exact hascending.of_cons
  | processed candidate rest phase hphase hnew hnext =>
    have hascending := h.ascending _ hphase
    refine ⟨?_, List.nodup_cons.mpr ⟨hnew, h.distinct⟩, candidateCursorValid_some candidate, ?_, ?_⟩
    · simp [h.counted]
    · rintro candidates hvisiting other hother
      obtain ⟨-, rfl⟩ | ⟨-, rfl⟩ := hnext
      · cases hvisiting
        exact before_some.mpr (List.rel_of_pairwise_cons hascending hother)
      · cases hvisiting
    · rintro candidates hvisiting
      obtain ⟨-, rfl⟩ | ⟨-, rfl⟩ := hnext
      · cases hvisiting
        exact hascending.of_cons
      · cases hvisiting

/-- The row has had its turn, is in what is left of the page, or is behind the cursor and
all of the page. -/
def Drain.Covers (d : Drain) (row : UploadSessionRow) : Prop :=
  row.id ∈ d.processed ∨
  match d.phase with
  | .discovering => before d.cursor (candidateKey row) = true
  | .visiting candidates => (∃ candidate ∈ candidates, candidate.toUploadSessionRow = row) ∨
      before d.cursor (candidateKey row) = true ∧
        ∀ candidate ∈ candidates, candidateKey candidate.toUploadSessionRow < candidateKey row
  | .ended outcome => outcome ≠ .idle

theorem Drain.Covers.start (sessions : Sessions) (row : UploadSessionRow) :
    (Drain.start sessions).Covers row := Or.inr rfl

/-- What an inner page leaves behind when its first candidate has had its turn. -/
theorem Drain.Covers.rest {row : UploadSessionRow} {candidate : UploadSession}
    {rest : List UploadSession} (hrow : candidate.toUploadSessionRow ≠ row)
    (h : (∃ other ∈ candidate :: rest, other.toUploadSessionRow = row) ∨
      before d.cursor (candidateKey row) = true ∧ ∀ other ∈ candidate :: rest,
        candidateKey other.toUploadSessionRow < candidateKey row) :
    (∃ other ∈ rest, other.toUploadSessionRow = row) ∨
      before (some (candidateKey candidate.toUploadSessionRow)) (candidateKey row) = true ∧
        ∀ other ∈ rest, candidateKey other.toUploadSessionRow < candidateKey row := by
  obtain ⟨other, hother, hsame⟩ | ⟨-, hall⟩ := h
  · obtain rfl | hmem := List.mem_cons.mp hother
    · exact absurd hsame hrow
    · exact Or.inl ⟨other, hmem, hsame⟩
  · exact Or.inr ⟨before_some.mpr (hall candidate List.mem_cons_self),
      fun other hmem => hall other (List.mem_cons_of_mem _ hmem)⟩

/-- A row that is there as it was is not skipped. -/
theorem Drain.Covers.move {d' : Drain} {row : UploadSessionRow} (h : d.Covers row)
    (horderly : d.Orderly) (hstate : row.state ∈ eligibleStates mode)
    (hmove : DrainMove c mode turn d d')
    (hkept : row.id ∈ d'.processed ∨ row ∈ d'.sessions.rows) : d'.Covers row := by
  obtain hdone | hrow := hkept
  · exact Or.inl hdone
  obtain hdone | h := h
  · -- a turn that has been had stays counted
    refine Or.inl ?_
    cases hmove with
    | processed => exact List.mem_append_left _ hdone
    | _ => exact hdone
  cases hmove with
  | still outcome hphase =>
    refine Or.inr ?_
    simp only [hphase] at h ⊢
    exact h
  | stopped | failed => exact Or.inr nofun
  | idle hphase hnobody =>
    simp only [hphase] at h
    obtain ⟨-, -, hcomplete⟩ := listValidationCandidates_some (discoverCandidates_some hnobody)
    obtain ⟨candidate, hmem, -⟩ | ⟨hne, -⟩ := hcomplete row hrow hstate h
    · cases hmem
    · exact absurd rfl hne
  | discovered candidate rest hphase hpage =>
    simp only [hphase] at h
    obtain ⟨-, -, hcomplete⟩ := listValidationCandidates_some (discoverCandidates_some hpage)
    refine Or.inr ?_
    obtain hin | ⟨-, hlater⟩ := hcomplete row hrow hstate h
    · exact Or.inl hin
    · exact Or.inr ⟨h, hlater⟩
  | turned hphase =>
    simp only [hphase] at h
    obtain ⟨candidate, hmem, -⟩ | ⟨hbehind, -⟩ := h
    · cases hmem
    · exact Or.inr hbehind
  | skipped candidate rest hphase hold =>
    simp only [hphase] at h
    by_cases hsame : candidate.toUploadSessionRow = row
    · left
      rw [← hsame, horderly.counted]
      exact List.mem_reverse.mpr hold
    · exact Or.inr (Drain.Covers.rest hsame h)
  | processed candidate rest phase hphase hnew hnext =>
    simp only [hphase] at h
    by_cases hsame : candidate.toUploadSessionRow = row
    · left
      rw [← hsame]
      exact List.mem_append_right _ List.mem_cons_self
    · right
      obtain ⟨-, rfl⟩ | ⟨-, rfl⟩ := hnext
      · exact Drain.Covers.rest hsame h
      · exact nofun

/-- The candidates of a page are among these sessions. -/
def Drain.Within (ids : Finset UploadSessionId) (d : Drain) : Prop :=
  ∀ candidates, d.phase = .visiting candidates → ∀ candidate ∈ candidates, candidate.id ∈ ids

theorem Drain.Within.move {d' : Drain} {ids : Finset UploadSessionId} (h : d.Within ids)
    (hfinite : ∀ row ∈ d'.sessions.rows, row.id ∈ ids) (hmove : DrainMove c mode turn d d') :
    d'.Within ids := by
  cases hmove with
  | still outcome hphase => exact h
  | stopped | failed | idle | turned => exact nofun
  | discovered candidate rest hphase hpage =>
    obtain ⟨hbehind, -, -⟩ := listValidationCandidates_some (discoverCandidates_some hpage)
    rintro candidates ⟨⟩ other hother
    exact hfinite _ (hbehind other hother).1
  | skipped candidate rest hphase =>
    rintro candidates ⟨⟩ other hother
    exact h _ hphase other (List.mem_cons_of_mem _ hother)
  | processed candidate rest phase hphase hnew hnext =>
    rintro candidates hvisiting other hother
    obtain ⟨-, rfl⟩ | ⟨-, rfl⟩ := hnext
    · cases hvisiting
      exact h _ hphase other (List.mem_cons_of_mem _ hother)
    · cases hvisiting

/- How many sessions have not been visited, how many rows lie behind the cursor, and how far
   the page is: a candidate whose row is still there as listed comes next to its turn. -/
def Drain.unvisited (ids : Finset UploadSessionId) (d : Drain) : Nat :=
  (ids.filter fun id => id ∉ d.visitedUploadIds).card

def Drain.ahead (d : Drain) : Nat :=
  d.sessions.rows.countP fun row => before d.cursor (candidateKey row)

def Drain.rank (d : Drain) : Nat :=
  match d.phase with
  | .ended _ => 0
  | .discovering => 1
  | .visiting [] => 2
  | .visiting (candidate :: rest) =>
    if candidate.toUploadSessionRow ∈ d.sessions.rows then 0 else rest.length + 3

def Drain.measure (ids : Finset UploadSessionId) (d : Drain) : Nat ×ₗ Nat ×ₗ Nat :=
  toLex (d.unvisited ids, toLex (d.ahead, d.rank))

theorem measure_lt {d' : Drain} {ids : Finset UploadSessionId}
    (h : d'.unvisited ids < d.unvisited ids ∨ d'.unvisited ids = d.unvisited ids ∧
      (d'.ahead < d.ahead ∨ d'.ahead = d.ahead ∧ d'.rank < d.rank)) :
    d'.measure ids < d.measure ids := by
  simpa [Drain.measure, Prod.Lex.toLex_lt_toLex] using h

theorem rank_visiting_le {candidates : List UploadSession} (h : d.phase = .visiting candidates) :
    d.rank ≤ candidates.length + 2 := by
  unfold Drain.rank
  rw [h]
  cases candidates with
  | nil => simp
  | cons candidate rest =>
    simp only [List.length_cons]
    split <;> omega

/-- Behind a later cursor lie no more rows, and fewer when a row at the new cursor lay behind
the old one. -/
theorem ahead_skipped {candidate : UploadSession} {cursor : CandidateCursor}
    (rows : List UploadSessionRow) (hbehind : before cursor (candidateKey candidate.toUploadSessionRow) = true) :
    let before' := fun row : UploadSessionRow => before cursor (candidateKey row)
    let after' := fun row : UploadSessionRow =>
      before (some (candidateKey candidate.toUploadSessionRow)) (candidateKey row)
    rows.countP after' ≤ rows.countP before' ∧
      (candidate.toUploadSessionRow ∈ rows → rows.countP after' < rows.countP before') := by
  intro before' after'
  have himplies (row : UploadSessionRow) (h : after' row = true) : before' row = true :=
    before_trans hbehind (before_some.mp h)
  refine ⟨List.countP_mono_left fun row _ => himplies row, fun hmem => ?_⟩
  have hnot : after' candidate.toUploadSessionRow = false := by
    simp [after', before]
  induction rows with
  | nil => cases hmem
  | cons row rows ih =>
    have hrest : rows.countP after' ≤ rows.countP before' :=
      List.countP_mono_left fun row _ => himplies row
    rw [List.countP_cons, List.countP_cons]
    obtain rfl | hmem := List.mem_cons.mp hmem
    · have hpos : before' candidate.toUploadSessionRow = true := hbehind
      simp only [hnot, hpos, Bool.false_eq_true, if_false, if_true]
      omega
    · have hlt := ih hmem
      have hhead : (if after' row = true then 1 else 0) ≤ if before' row = true then 1 else 0 := by
        split
        · rename_i hafter
          rw [if_pos (himplies row hafter)]
        · exact Nat.zero_le _
      omega

theorem unvisited_processed {ids : Finset UploadSessionId} {candidate : UploadSession}
    {visited : List UploadSessionId} (hin : candidate.id ∈ ids) (hnew : candidate.id ∉ visited) :
    (ids.filter fun id => id ∉ candidate.id :: visited).card <
      (ids.filter fun id => id ∉ visited).card := by
  refine Finset.card_lt_card ⟨fun id hid => ?_, fun hsub => ?_⟩
  · simp only [Finset.mem_filter, List.mem_cons, not_or] at hid ⊢
    exact ⟨hid.1, hid.2.2⟩
  · have hmem := hsub (Finset.mem_filter.mpr ⟨hin, hnew⟩)
    simp at hmem

/-- While others leave the rows alone, each step ends the pass or comes nearer to its end. -/
theorem Drain.progress {d' : Drain} {ids : Finset UploadSessionId} (horderly : d.Orderly)
    (hwithin : d.Within ids) (hquiet : ∀ sessions, turn.others sessions = sessions)
    (hmove : DrainMove c mode turn d d') :
    (∃ outcome, d'.phase = .ended outcome) ∨ d'.measure ids < d.measure ids := by
  cases hmove with
  | still outcome hphase => exact Or.inl ⟨outcome, hphase⟩
  | stopped | failed | idle => exact Or.inl ⟨_, rfl⟩
  | discovered candidate rest hphase hpage =>
    right
    obtain ⟨hbehind, -, -⟩ := listValidationCandidates_some (discoverCandidates_some hpage)
    have hrow := (hbehind candidate List.mem_cons_self).1
    refine measure_lt (Or.inr ⟨rfl, Or.inr ⟨?_, ?_⟩⟩)
    · simp only [Drain.ahead, hquiet]
    · simp [Drain.rank, hrow, hphase]
  | turned hphase =>
    refine Or.inr (measure_lt (Or.inr ⟨rfl, Or.inr ⟨?_, ?_⟩⟩))
    · simp only [Drain.ahead, hquiet]
    · simp [Drain.rank, hphase]
  | skipped candidate rest hphase hold =>
    right
    have hbehind := horderly.behind _ hphase candidate List.mem_cons_self
    obtain ⟨hle, hlt⟩ := ahead_skipped d.sessions.rows hbehind
    refine measure_lt (Or.inr ⟨rfl, ?_⟩)
    by_cases hrow : candidate.toUploadSessionRow ∈ d.sessions.rows
    · left
      simpa only [Drain.ahead, hquiet] using hlt hrow
    · obtain hless | hsame := Nat.lt_or_eq_of_le hle
      · left
        simpa only [Drain.ahead, hquiet] using hless
      · refine Or.inr ⟨by simpa only [Drain.ahead, hquiet] using hsame, ?_⟩
        refine Nat.lt_of_le_of_lt (rank_visiting_le rfl) ?_
        simp [Drain.rank, hphase, hrow]
  | processed candidate rest phase hphase hnew hnext =>
    have hin := hwithin _ hphase candidate List.mem_cons_self
    exact Or.inr (measure_lt (Or.inl (unvisited_processed hin hnew)))

end Steps

/-- Nothing stops the pass or fails beneath it. -/
def Turn.Undisturbed (turn : Turn) : Prop :=
  turn.stopping = false ∧ turn.listingFails = false ∧
    ∀ candidate sessions, (turn.process candidate sessions).2 = false

/-- A listing that nothing makes fail, of rows that load, returns. -/
theorem discoverCandidates_isSome {c : UploadValidationCoordinator} {mode : DiscoveryMode}
    {turn : Turn} {after : CandidateCursor} {sessions : Sessions}
    (hturn : turn.listingFails = false) (hafter : candidateCursorValid after = true)
    (hvalid : ∀ row ∈ sessions.rows, row.Valid) :
    (c.discoverCandidates mode turn after sessions).isSome = true := by
  have hlimit := c.positive
  simp only [UploadValidationCoordinator.discoverCandidates, listValidationCandidates, hturn, hafter,
    hlimit, decide_true, Bool.and_self, if_true, Bool.false_eq_true, if_false]
  exact sessionsFromRows_isSome fun row hrow => hvalid row (mem_page hrow).1

theorem DrainMove.idle_only {c : UploadValidationCoordinator} {mode : DiscoveryMode} {turn : Turn}
    {d d' : Drain} (hmove : DrainMove c mode turn d d') (horderly : d.Orderly)
    (hturn : turn.Undisturbed) (hvalid : ∀ row ∈ d'.sessions.rows, row.Valid)
    (hbefore : ∀ outcome, d.phase = .ended outcome → outcome = .idle) (outcome : DrainOutcome)
    (h : d'.phase = .ended outcome) : outcome = .idle := by
  obtain ⟨hstopping, hlisting, hprocess⟩ := hturn
  cases hmove with
  | still _ hphase => exact hbefore outcome h
  | stopped cursor hphase hcursor hstop =>
    rw [hstopping] at hstop
    cases hstop
  | failed hphase hnone =>
    have hsome : (c.discoverCandidates mode turn d.cursor (turn.others d.sessions)).isSome = true :=
      discoverCandidates_isSome hlisting horderly.cursor hvalid
    rw [hnone] at hsome
    cases hsome
  | idle =>
    cases h
    rfl
  | discovered | turned | skipped => cases h
  | processed candidate rest phase hphase hnew hnext =>
    obtain ⟨-, rfl⟩ | ⟨hshutdown, -⟩ := hnext
    · cases h
    · rw [hprocess] at hshutdown
      cases hshutdown

section Runs
variable {c : UploadValidationCoordinator} {mode : DiscoveryMode} {turns : Nat → Turn}
  {sessions : Sessions}

theorem drainReconciliation_move (n : Nat) :
    DrainMove c mode (turns n) (c.drainReconciliation mode turns sessions n)
      (c.drainReconciliation mode turns sessions (n + 1)) :=
  drainStep_move

theorem drainReconciliation_orderly (n : Nat) :
    (c.drainReconciliation mode turns sessions n).Orderly := by
  induction n with
  | zero => exact .start sessions
  | succ n ih => exact ih.move (drainReconciliation_move n)

/-- A row that is there as it was until it has had its turn is covered throughout. -/
theorem drainReconciliation_covers {row : UploadSessionRow}
    (hstate : row.state ∈ eligibleStates mode) (n : Nat)
    (hkept : ∀ m ≤ n, row.id ∈ (c.drainReconciliation mode turns sessions m).processed ∨
      row ∈ (c.drainReconciliation mode turns sessions m).sessions.rows) :
    (c.drainReconciliation mode turns sessions n).Covers row := by
  induction n with
  | zero => exact .start sessions row
  | succ n ih =>
    exact (ih fun m hm => hkept m (by omega)).move (drainReconciliation_orderly n) hstate
      (drainReconciliation_move n) (hkept (n + 1) (Nat.le_refl _))

theorem drainReconciliation_within {ids : Finset UploadSessionId}
    (hfinite : ∀ n, ∀ row ∈ (c.drainReconciliation mode turns sessions n).sessions.rows,
      row.id ∈ ids) (n : Nat) : (c.drainReconciliation mode turns sessions n).Within ids := by
  induction n with
  | zero => exact nofun
  | succ n ih => exact ih.move (hfinite (n + 1)) (drainReconciliation_move n)

/-- A pass over finitely many sessions ends, once nobody else changes their rows any more. -/
theorem drainReconciliation_ends {ids : Finset UploadSessionId}
    (hfinite : ∀ n, ∀ row ∈ (c.drainReconciliation mode turns sessions n).sessions.rows,
      row.id ∈ ids)
    (first : Nat) (hquiet : ∀ n, first ≤ n → ∀ sessions, (turns n).others sessions = sessions) :
    ∃ n outcome, (c.drainReconciliation mode turns sessions n).phase = .ended outcome := by
  have hends (bound : Nat ×ₗ Nat ×ₗ Nat) : ∀ n, first ≤ n →
      (c.drainReconciliation mode turns sessions n).measure ids = bound →
      ∃ n outcome, (c.drainReconciliation mode turns sessions n).phase = .ended outcome := by
    induction bound using WellFoundedLT.induction with
    | ind bound ih =>
      intro n hn hbound
      obtain ⟨outcome, hended⟩ | hless := Drain.progress (drainReconciliation_orderly n)
        (drainReconciliation_within hfinite n) (hquiet n hn) (drainReconciliation_move n)
      · exact ⟨n + 1, outcome, hended⟩
      · rw [hbound] at hless
        exact ih _ hless (n + 1) (by omega) rfl
  exact hends _ first (Nat.le_refl _) rfl

/-- A pass that nothing stops, over rows that load, ends idle. -/
theorem drainReconciliation_idle (hundisturbed : ∀ n, (turns n).Undisturbed)
    (hvalid : ∀ n, ∀ row ∈ (c.drainReconciliation mode turns sessions n).sessions.rows, row.Valid)
    (n : Nat) (outcome : DrainOutcome)
    (h : (c.drainReconciliation mode turns sessions n).phase = .ended outcome) :
    outcome = .idle := by
  induction n generalizing outcome with
  | zero => cases h
  | succ n ih =>
    exact (drainReconciliation_move n).idle_only (drainReconciliation_orderly n) (hundisturbed n)
      (hvalid (n + 1)) ih outcome h

end Runs

theorem drained_key : isStorageKeyText "aaaaaaaaaaaaaaaa" = true := by decide +kernel

theorem drained_name : isDisplayFilename "a.png" = true := by decide +kernel

/- One received upload, whose processing fails and changes nothing. -/
def drainedRow : UploadSessionRow where
  id := ⟨"11111111-1111-4111-8111-111111111111", ones_canonical⟩
  state := .received
  storageKey := ⟨"aaaaaaaaaaaaaaaa", drained_key⟩
  displayFilename := ⟨"a.png", drained_name⟩
  declaredSizeBytes := 1
  receivedSizeBytes := 1
  checksumAlgorithm := none
  checksumHex := none
  createdAtMs := 0
  updatedAtMs := 0
  expiresAtMs := 9
  failureCode := none
  version := 0
  validatedMediaKind := none
  validatedFormat := none
  byteIdentityId := none
  duplicateDisposition := none
  createdByLoginKey := none
  duplicateResolutionMode := .explicit

def drainedTable : Sessions := ⟨[drainedRow], by simp⟩

def fruitlessTurn : Turn where
  others sessions := sessions
  stopping := false
  listingFails := false
  process _ sessions := (sessions, false)

theorem fruitless_sessions {c : UploadValidationCoordinator} {mode : DiscoveryMode}
    {sessions : Sessions} (n : Nat) :
    (c.drainReconciliation mode (fun _ => fruitlessTurn) sessions n).sessions = sessions := by
  induction n with
  | zero => rfl
  | succ n ih =>
    have hmove : DrainMove c mode fruitlessTurn
        (c.drainReconciliation mode (fun _ => fruitlessTurn) sessions n)
        (c.drainReconciliation mode (fun _ => fruitlessTurn) sessions (n + 1)) := drainStep_move
    generalize c.drainReconciliation mode (fun _ => fruitlessTurn) sessions (n + 1) = d' at hmove ⊢
    cases hmove <;> exact ih

end FrameNest.Uploads
