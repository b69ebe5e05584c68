import FrameNest.Uploads.DuplicateRace

/-! Canonical duplicate uniqueness over whole runs: the services at once, a race for one
answer, and the requests that come after it. -/
namespace FrameNest.Uploads
open Concurrent UploadStore

section Runs
variable {S : UploadServices} {w : UploadWorld}

/-- One more call of any service: every session is there, one disciplined step further. -/
theorem services_step {v v' : World UploadEffect UploadEffect.Answer UploadError UploadWorld
      (Option UploadSessionId) UploadOutcome}
    (hv : Kept S.servicesSystem (fun _ => True) (fun _ _ => True) UploadServices.Disciplined
      (fun _ _ => True) (fun _ _ => True) v) (h : Step S.servicesSystem v v')
    {id : UploadSessionId} {row : UploadSessionRow} (hrow : v.state.store.session? id = some row) :
    ∃ after, v'.state.store.session? id = some after ∧ DuplicateStep row after := by
  have hrefl : DuplicateStep row row := by
    refine ⟨fun hpending hpublish => ?_, fun d hd => hd⟩
    rw [hpending] at hpublish
    cases hpublish
  obtain hsame | ⟨lease, m, e, hw, -, hmay, -, hexec⟩ := hv.call S.services_exclusion h
  · exact ⟨row, by rw [hsame]; exact hrow, hrefl⟩
  · rw [hexec]
    obtain hsame | ⟨op, hchange, -⟩ := exec_service (S := S) (m := m) hw.load hmay
    · refine ⟨row, ?_, hrefl⟩
      show (S.exec m e v.state).2.store.session? id = some row
      rw [hsame]
      exact hrow
    · exact hchange.duplicateStep hw.load hrow

/-- Every pending duplicate is explicit, so a race for its answer has one outcome. -/
theorem race_outcome {id : UploadSessionId} {row : UploadSessionRow}
    (hw : DuplicateDiscipline w.store) (hrow : w.store.session? id = some row)
    (hs : row.state = .duplicatePending) (race : List (Move (RaceCall id) Moment))
    (hallowed : World.Allowed (S.racingSystem id) race ⟨w, []⟩) :
    let v := race.foldl (World.move (S.racingSystem id)) ⟨w, []⟩
    (v.state.store.session? id = some row ∨ ∃ d, DisposedAs id row d v.state) ∧
    (∀ t ∈ v.threads, t.memory.asks.isSome = true → t.program.settled = true →
      ∃ d, DisposedAs id row d v.state) ∧
    ∀ t ∈ v.threads, ∀ r value, t.memory.asks = some r → t.program = .done value →
      DisposedAs id row r.disposition v.state := by
  intro v
  have hvalid := hw.load id row hrow
  have hv : Kept (S.racingSystem id) (fun _ => True) Answered (Raced id row) (Remembers id row)
      (fun _ _ => True) v :=
    Kept.steps (racing_exclusion hvalid hs)
      (fun c => racing_obeys hvalid hs (session?_id hrow) (hw.asked id row hrow hs) c)
      (Kept.init ⟨hw, Or.inl hrow⟩) (World.moves_reach race _ hallowed)
  refine ⟨hv.state.2, fun t ht hasks hended => ?_, fun t ht r value hasks hdone => ?_⟩
  · have hanswered := hv.obeys t ht
    cases hp : t.program with
    | done value =>
      rw [hp] at hanswered
      exact (hv.threads t ht trivial).disposed hasks (hanswered hasks).1
    | fail x =>
      rw [hp] at hanswered
      exact (hv.threads t ht trivial).disposed hasks (hanswered hasks).1
    | call e next =>
      rw [hp] at hended
      cases hended
  · have hanswered := hv.obeys t ht
    rw [hdone] at hanswered
    have hagreed := (hanswered (by rw [hasks]; rfl)).2 value rfl
    obtain ⟨r', hr', hdisposed⟩ := (hv.threads t ht trivial).agreed hagreed
    rw [hasks] at hr'
    cases hr'
    exact hdisposed

end Runs

/-- However the calls of all upload services and catalog removals are started, interleaved and
cut down by crashes, at most one session holds the place of a byte identity without a
disposition, no silent session is asked, and a session leaves its question for publication
only with Keep recorded, no disposition ever changing. Resolutions of one pending duplicate
raced against each other record one disposition between them, and a resolution that answers
has recorded its own. Where the leases keep the calls for a session in a row, a disposed
session answers the same request again, and refuses the other one without a trace. -/
theorem canonical_duplicate_uniqueness (S : UploadServices) (libraries : List LibraryId)
    (canonicalTagKeys : List String) (quarantine : Quarantine) (destination : Destination)
    (moves : List (Move UploadCall Moment)) :
    let start : UploadWorld := ⟨UploadStore.empty libraries canonicalTagKeys, quarantine, destination⟩
    let w := moves.foldl (World.move S.servicesSystem) ⟨start, []⟩
    let u := moves.foldl (World.move S.leasedSystem) ⟨start, []⟩
    OneCanonical w.state.store ∧
    (∀ id row, w.state.store.session? id = some row →
      row.duplicateResolutionMode = .silentKeepSeparate → row.state ≠ .duplicatePending) ∧
    (∀ w', Step S.servicesSystem w w' → ∀ id row, w.state.store.session? id = some row →
      ∃ after, w'.state.store.session? id = some after ∧ DuplicateStep row after) ∧
    (∀ id row (race : List (Move (RaceCall id) Moment)), w.state.store.session? id = some row →
      row.state = .duplicatePending →
      World.Allowed (S.racingSystem id) race ⟨w.state, []⟩ →
      let v := race.foldl (World.move (S.racingSystem id)) ⟨w.state, []⟩
      (v.state.store.session? id = some row ∨ ∃ d, DisposedAs id row d v.state) ∧
      (∀ t ∈ v.threads, t.memory.asks.isSome = true → t.program.settled = true →
        ∃ d, DisposedAs id row d v.state) ∧
      ∀ t ∈ v.threads, ∀ r value, t.memory.asks = some r → t.program = .done value →
        DisposedAs id row r.disposition v.state) ∧
    ∀ id row r, u.state.store.session? id = some row → row.duplicateResolutionMode = .explicit →
      row.duplicateDisposition = some (UploadDuplicateResolution.disposition r) →
      (∀ ms : List Moment, (∀ m ∈ ms, m.Faultless) → 3 ≤ ms.length → ∃ quarantine,
        Program.run S.exec ms (resolveDuplicate id r) u.state =
          (.done (snapshot row), { u.state with quarantine })) ∧
      ∀ (ms : List Moment) r', r' ≠ r →
        (Program.run S.exec ms (resolveDuplicate id r') u.state).2 = u.state ∧
          ∀ value, (Program.run S.exec ms (resolveDuplicate id r') u.state).1 ≠ .done value := by
  intro start w u
  have hstart : DuplicateDiscipline start.store := empty_discipline libraries canonicalTagKeys
  have hw := Kept.steps S.services_exclusion S.services_obey (Kept.init hstart)
    (World.moves_reach moves _ (World.allowed_of_forall (fun _ _ _ _ => trivial) moves _))
  have hsettled : UploadServices.Settled start := ⟨hstart, fun _ _ hrow => by cases hrow⟩
  have hu := Kept.steps (UploadServices.leased_exclusion (S := S))
    (fun c => UploadServices.leased_obey c) (Kept.init hsettled)
    (World.moves_reach moves _ (World.allowed_of_forall (fun _ _ _ _ => trivial) moves _))
  refine ⟨hw.state.one, ?_, ?_, ?_, ?_⟩
  · intro id row hrow hsilent hpending
    rw [hw.state.asked id row hrow hpending] at hsilent
    cases hsilent
  · intro w' hstep id row hrow
    exact services_step hw hstep hrow
  · intro id row race hrow hpending hallowed
    exact race_outcome hw.state hrow hpending race hallowed
  · intro id row r hrow hmode hd
    refine ⟨fun ms hms hlength => identical_request hu.state.1.load hu.state.2 hrow hmode hd hms
      hlength, fun ms r' hne => conflicting_request hrow hd fun hsame => ?_⟩
    exact hne (UploadDuplicateResolution.disposition_injective hsame).symm

end FrameNest.Uploads
