import FrameNest.Uploads.DuplicateRequests

/-! Keep and Discard asked at once of one pending duplicate, without the lease: the version
of its row lets one of them through. -/
namespace FrameNest.Uploads
open Relational Concurrent UploadStore

/-- A pending duplicate with its answer recorded. -/
def disposedRow (row : UploadSessionRow) (disposition : UploadDuplicateDisposition) (now : Int) :
    UploadSessionRow :=
  { row with
    state := dispositionTarget disposition, duplicateDisposition := some disposition,
    updatedAtMs := now, version := row.version + 1 }

theorem disposedRow_valid {row : UploadSessionRow} {disposition : UploadDuplicateDisposition}
    {now : Int} (h : row.Valid) (hs : row.state = .duplicatePending) (hnow : row.createdAtMs ≤ now) :
    (disposedRow row disposition now).Valid := by
  have hevidence : row.hasValidationEvidence = true := h.validated_evidence (by rw [hs]; decide)
  have hcreated := h.created_nonneg
  have hversion := h.version_nonneg
  exact
    { h with
      created_empty := fun hempty => by cases disposition <;> cases hempty
      complete_full := fun _ => h.complete_full (by rw [hs]; decide)
      updated_nonneg := by show 0 ≤ now; omega
      updated_after := hnow
      version_nonneg := by show 0 ≤ row.version + 1; omega
      validated_evidence := fun _ => hevidence
      disposition_state := fun d hd => by
        cases hd
        refine ⟨?_, hevidence⟩
        show dispositionTarget disposition ∈ disposition.allowedStates
        cases disposition <;> decide }

theorem guardedUpdate_of_update {s t : UploadStore} {id : UploadSessionId}
    {guard : UploadSessionRow → Bool} {set : UploadSessionRow → UploadSessionRow}
    {hset : ∀ row, (set row).id = row.id}
    {refuse : UploadSessionRow → Except UploadSessionRepositoryError UploadSession}
    (h : s.updateSession id guard set hset = some t) :
    s.guardedUpdate id guard set hset refuse = (t.requireSession id).map (·, t) := by
  rw [guardedUpdate, h]

/-- On a pending duplicate the statement succeeds, for the version it has. -/
theorem recordDuplicateDisposition_succeeds {s : UploadStore} {id : UploadSessionId}
    {row : UploadSessionRow} {disposition : UploadDuplicateDisposition} {now : Int}
    (hrow : s.session? id = some row) (hv : row.Valid) (hs : row.state = .duplicatePending)
    (hnow : row.createdAtMs ≤ now) : ∃ session t,
      UploadStore.recordDuplicateDisposition id row.version disposition now s =
        .ok (session, t) := by
  have hnone := no_disposition_of_state hv (Or.inr hs)
  have hvalid : (disposedRow row disposition now).Valid := disposedRow_valid hv hs hnow
  have hcreated := hv.created_nonneg
  have hargs : (decide (0 ≤ row.version) && decide (0 ≤ now)) = true := by
    have hversion := hv.version_nonneg
    simp only [Bool.and_eq_true, decide_eq_true_eq]
    omega
  have hupdate : ∃ t, s.updateSession id
      (fun row' => row'.state = .duplicatePending && row'.version = row.version &&
        row'.duplicateDisposition.isNone)
      (fun row => disposedRow row disposition now) (fun _ => rfl) = some t := by
    unfold updateSession
    simp [hrow, hs, hnone]
  obtain ⟨t, ht⟩ := hupdate
  have hfind : t.session? id = some (disposedRow row disposition now) := by
    rw [updateSession_session? hrow ht, if_pos rfl]
  refine ⟨⟨disposedRow row disposition now, hvalid⟩, t, ?_⟩
  unfold UploadStore.recordDuplicateDisposition
  rw [require_bind_eq_ok]
  refine ⟨hargs, ?_⟩
  refine (guardedUpdate_of_update ht).trans ?_
  simp [requireSession, hfind, sessionFromRow_valid hvalid, Except.map]

/-- A call beside the raced session: a resolution of it, or anything elsewhere. -/
inductive RaceCall (id : UploadSessionId) where
  | resolve (resolution : UploadDuplicateResolution)
  | elsewhere (call : UploadCall) (h : call.lease ≠ some id)

/-- What a racing call remembers: what it asks for, what it has seen, and whether the session
was then disposed of, and its own way. -/
structure Racer where
  lease : Option UploadSessionId
  asks : Option UploadDuplicateResolution
  seen : Option UploadSession
  clock : Option Int
  disposed : Bool
  agreed : Bool

namespace Racer

def note (g : Racer) (_ : UploadWorld) : (e : UploadEffect) → Except UploadError e.Answer → Racer
  | .repository (.getSession _), .ok found =>
    let found : Option UploadSession := found
    { g with
      seen := found
      disposed := g.disposed || found.any fun session => session.duplicateDisposition.isSome
      agreed := g.agreed || found.any fun session => g.asks.isSome &&
        session.duplicateDisposition = g.asks.map UploadDuplicateResolution.disposition }
  | .nowMs, .ok now => { g with clock := some now }
  | .repository (.recordDuplicateDisposition ..), .ok _ =>
    { g with disposed := true, agreed := g.asks.isSome }
  | .repository (.recordDuplicateDisposition ..), .error _ => { g with disposed := true }
  | _, _ => g

end Racer

namespace RaceCall
variable {id : UploadSessionId}

def racer : RaceCall id → Racer
  | .resolve r => ⟨none, some r, none, none, false, false⟩
  | .elsewhere c _ => ⟨c.lease, none, none, none, false, false⟩

def call : RaceCall id → UploadCall
  | .resolve r => .resolveDuplicate id r
  | .elsewhere c _ => c

end RaceCall

/-- What a racing call issues. -/
def mayRace (id : UploadSessionId) (g : Racer) (e : UploadEffect) : Prop :=
  match g.asks with
  | none => g.lease ≠ some id ∧ allowedFor (fun _ => True) (owns g.lease) e
  | some r =>
    match e with
    | .repository (.getSession k) => k = id
    | .repository (.recordDuplicateDisposition k version disposition now) =>
      k = id ∧ disposition = r.disposition ∧ g.clock = some now ∧
        ∃ session, g.seen = some session ∧ session.version = version ∧
          session.state = .duplicatePending
    | .repository _ => False
    | _ => True

/-- Resolutions of one session at once, with any other calls for other sessions beside them;
nothing fails for the resolutions, and their clock is not behind the session's creation. -/
def UploadServices.racingSystem (S : UploadServices) (id : UploadSessionId) :
    System (RaceCall id) Moment UploadEffect UploadEffect.Answer UploadError UploadWorld Racer
      UploadOutcome where
  exec := S.exec
  note := Racer.note
  permits g m _ w := g.asks.isSome = true → m.Faultless ∧
    ∀ row, w.store.session? id = some row → row.createdAtMs ≤ m.nowMs
  may := mayRace id
  program c := S.program c.call
  memory := RaceCall.racer
  mayStart _ _ := true
  mayCrash := true

section Race
variable {S : UploadServices} {id : UploadSessionId} {row : UploadSessionRow} {g g' : Racer}
  {m : Moment} {e : UploadEffect} {w : UploadWorld}

/-- The raced session has been disposed of this way. -/
def DisposedAs (id : UploadSessionId) (row : UploadSessionRow)
    (disposition : UploadDuplicateDisposition) (w : UploadWorld) : Prop :=
  ∃ now, w.store.session? id = some (disposedRow row disposition now)

/-- The raced session is the pending duplicate of the start, or that one disposed of once. -/
def Raced (id : UploadSessionId) (row : UploadSessionRow) (w : UploadWorld) : Prop :=
  DuplicateDiscipline w.store ∧ (w.store.session? id = some row ∨ ∃ d, DisposedAs id row d w)

/-- What a racing call remembers is so. -/
structure Remembers (id : UploadSessionId) (row : UploadSessionRow) (g : Racer) (w : UploadWorld) :
    Prop where
  seen : g.asks.isSome = true → ∀ session ∈ g.seen,
    session.toUploadSessionRow = row ∨ ∃ d, DisposedAs id row d w
  clock : ∀ now ∈ g.clock, g.asks.isSome = true → row.createdAtMs ≤ now
  disposed : g.asks.isSome = true → g.disposed = true → ∃ d, DisposedAs id row d w
  agreed : g.agreed = true → ∃ r, g.asks = some r ∧ DisposedAs id row r.disposition w

theorem disposedRow_ne {d : UploadDuplicateDisposition} {now : Int} : disposedRow row d now ≠ row := by
  intro h
  have hversion : row.version + 1 = row.version := congrArg UploadSessionRow.version h
  omega

/-- A disposition that commits finds the session pending. -/
theorem Raced.recorded (hw : Raced id row w) {version now : Int} {d : UploadDuplicateDisposition}
    {session : UploadSession} {t : UploadStore}
    (h : (Operation.recordDuplicateDisposition id version d now).perform w.store =
      .ok (session, t)) :
    w.store.session? id = some row ∧ t.session? id = some (disposedRow row d now) := by
  obtain ⟨found, hrow, ⟨hpending, -⟩, hupdated, -⟩ :=
    recordDuplicateDisposition_ok (mapError_eq_ok.mp h)
  have hsame : found = row := by
    obtain horiginal | ⟨d', now', hdisposed⟩ := hw.2
    · rw [hrow] at horiginal
      exact Option.some.inj horiginal
    · rw [hrow] at hdisposed
      rw [Option.some.inj hdisposed] at hpending
      cases d' <;> cases hpending
  subst hsame
  refine ⟨hrow, ?_⟩
  rw [hupdated.session?, if_pos (session?_id hrow)]
  rfl

/-- One call of a race: the raced session is left alone, or disposed of, once. -/
theorem race_step (hw : Raced id row w)
    (hmay : mayRace id g e) :
    (S.exec m e w).2.store.session? id = w.store.session? id ∨
      ∃ version d now, e = .repository (.recordDuplicateDisposition id version d now) ∧
        w.store.session? id = some row ∧
        (S.exec m e w).2.store.session? id = some (disposedRow row d now) := by
  have hfound : ∃ current, w.store.session? id = some current := by
    obtain hrow | ⟨d, now, hrow⟩ := hw.2
    · exact ⟨_, hrow⟩
    · exact ⟨_, hrow⟩
  obtain ⟨current, hcurrent⟩ := hfound
  unfold mayRace at hmay
  split at hmay
  · left
    rw [hcurrent]
    exact exec_others hw.1.load hmay.2 hmay.1 hcurrent
  · obtain hsame | ⟨op, a, t, rfl, hperform, hstore⟩ :=
      exec_store_cases (S := S) (m := m) (w := w) e
    · left
      rw [hsame]
    · cases op with
      | getSession k =>
        left
        rw [hstore, (loadSession_ok (mapError_eq_ok.mp hperform)).1]
      | recordDuplicateDisposition k version d now =>
        obtain ⟨rfl, -⟩ := hmay
        rw [hstore]
        exact Or.inr ⟨version, d, now, rfl, hw.recorded hperform⟩
      | _ => exact hmay.elim

theorem mayRace_allowed (hmay : mayRace id g e) :
    allowedFor (fun _ => True) (fun _ => True) e := by
  unfold mayRace at hmay
  split at hmay
  · have he := hmay.2
    cases e with
    | repository op => exact ⟨he.1, fun _ _ _ => trivial⟩
    | _ => trivial
  · cases e with
    | repository op =>
      cases op with
      | getSession | recordDuplicateDisposition => exact ⟨trivial, fun _ _ _ => trivial⟩
      | _ => exact hmay.elim
    | _ => trivial

theorem Raced.step (hw : Raced id row w)
    (hmay : mayRace id g e) : Raced id row (S.exec m e w).2 := by
  refine ⟨exec_discipline hw.1 (mayRace_allowed hmay), ?_⟩
  obtain hsame | ⟨-, d, now, -, -, hdisposed⟩ := race_step (S := S) (m := m) hw hmay
  · unfold DisposedAs
    rw [hsame]
    exact hw.2
  · exact Or.inr ⟨d, now, hdisposed⟩

theorem DisposedAs.kept {d : UploadDuplicateDisposition}
    (h : DisposedAs id row d w) (hw : Raced id row w) (hmay : mayRace id g e) :
    DisposedAs id row d (S.exec m e w).2 := by
  obtain ⟨now, hrow⟩ := h
  obtain hsame | ⟨-, -, -, -, horiginal, -⟩ := race_step (S := S) (m := m) hw hmay
  · exact ⟨now, by rw [hsame, hrow]⟩
  · rw [hrow] at horiginal
    exact absurd (Option.some.inj horiginal) disposedRow_ne

theorem Remembers.fresh (hseen : g.seen = none) (hclock : g.clock = none)
    (hdisposed : g.disposed = false) (hagreed : g.agreed = false) : Remembers id row g w := by
  refine ⟨fun _ session h => ?_, fun now h => ?_, fun _ h => ?_, fun h => ?_⟩
  · rw [hseen] at h
    cases h
  · rw [hclock] at h
    cases h
  · rw [hdisposed] at h
    cases h
  · rw [hagreed] at h
    cases h

/-- What a caller remembers stays so, whoever calls next. -/
theorem Remembers.kept (hw : Raced id row w)
    (h : Remembers id row g' w) (hmay : mayRace id g e) :
    Remembers id row g' (S.exec m e w).2 where
  seen hasks session hsession :=
    (h.seen hasks session hsession).imp_right fun ⟨d, hd⟩ => ⟨d, hd.kept hw hmay⟩
  clock := h.clock
  disposed hasks hdisposed := by
    obtain ⟨d, hd⟩ := h.disposed hasks hdisposed
    exact ⟨d, hd.kept hw hmay⟩
  agreed hagreed := by
    obtain ⟨r, hr, hd⟩ := h.agreed hagreed
    exact ⟨r, hr, hd.kept hw hmay⟩

/-- The session as one of the race loads it. -/
theorem Raced.loaded {session : UploadSession} (hw : Raced id row w)
    (hsession : w.store.session? id = some session.toUploadSessionRow) :
    session.toUploadSessionRow = row ∨ ∃ d now, session.toUploadSessionRow = disposedRow row d now ∧
      DisposedAs id row d w := by
  obtain horiginal | ⟨d, now, hdisposed⟩ := hw.2
  · rw [horiginal] at hsession
    exact Or.inl (Option.some.inj hsession).symm
  · have hsame := hdisposed
    rw [hsession] at hsame
    exact Or.inr ⟨d, now, Option.some.inj hsame, now, hdisposed⟩

theorem Remembers.loaded {k : UploadSessionId} {found : Option UploadSession} (hv : row.Valid)
    (hs : row.state = .duplicatePending) (hw : Raced id row w) (h : Remembers id row g w)
    (hasks : g.asks.isSome = true → k = id)
    (hfound : ∀ session, found = some session →
      w.store.session? k = some session.toUploadSessionRow) :
    Remembers id row (g.note w (.repository (.getSession k)) (.ok found)) w := by
  have hnone := no_disposition_of_state hv (Or.inr hs)
  cases found with
  | none =>
    refine ⟨fun _ session hsession => (nomatch hsession), h.clock, fun hsome hdisposed => ?_,
      fun hagreed => ?_⟩
    · exact h.disposed hsome (by simpa [Racer.note] using hdisposed)
    · exact h.agreed (by simpa [Racer.note] using hagreed)
  | some session =>
    have hload : g.asks.isSome = true → session.toUploadSessionRow = row ∨
        ∃ d now, session.toUploadSessionRow = disposedRow row d now ∧ DisposedAs id row d w := by
      intro hsome
      have hrow := hfound session rfl
      rw [hasks hsome] at hrow
      exact hw.loaded hrow
    refine ⟨fun hsome loaded hsession => ?_, h.clock, fun hsome hdisposed => ?_,
      fun hagreed => ?_⟩
    · cases hsession
      exact (hload hsome).imp_right fun ⟨d, now, _, hd⟩ => ⟨d, hd⟩
    · obtain hbefore | hrecorded : g.disposed = true ∨ session.duplicateDisposition.isSome = true := by
        simpa [Racer.note] using hdisposed
      · exact h.disposed hsome hbefore
      · obtain hsame | ⟨d, now, -, hd⟩ := hload hsome
        · rw [hsame, hnone] at hrecorded
          cases hrecorded
        · exact ⟨d, hd⟩
    · obtain hbefore | ⟨hsome, hrecorded⟩ : g.agreed = true ∨ g.asks.isSome = true ∧
          session.duplicateDisposition =
            g.asks.map UploadDuplicateResolution.disposition := by
        simpa [Racer.note] using hagreed
      · exact h.agreed hbefore
      · obtain ⟨r, hr⟩ := Option.isSome_iff_exists.mp hsome
        rw [hr] at hrecorded
        obtain hsame | ⟨d, now, hsame, hd⟩ := hload hsome
        · rw [hsame, hnone] at hrecorded
          cases hrecorded
        · rw [hsame] at hrecorded
          cases hrecorded
          exact ⟨r, hr, hd⟩

/-- Without faults, a disposition for the version seen is refused only once another stands. -/
theorem Remembers.refused {r : UploadDuplicateResolution} {version now : Int}
    {d : UploadDuplicateDisposition} {x : UploadError} (hv : row.Valid)
    (hs : row.state = .duplicatePending) (hw : Raced id row w) (h : Remembers id row g w)
    (hasks : g.asks = some r) (hclock : g.clock = some now)
    (hseen : ∃ session, g.seen = some session ∧ session.version = version ∧
      session.state = .duplicatePending) (hm : m.repositoryFault = none)
    (hr : (S.exec m (.repository (.recordDuplicateDisposition id version d now)) w).1 = .error x) :
    ∃ d, DisposedAs id row d w := by
  obtain ⟨session, hsession, rfl, -⟩ := hseen
  have hsome : g.asks.isSome = true := by rw [hasks]; rfl
  obtain hsame | hdisposed := h.seen hsome session hsession
  · obtain horiginal | hdisposed := hw.2
    · obtain ⟨answer, t, hrecord⟩ : ∃ session t,
          UploadStore.recordDuplicateDisposition id row.version d now w.store =
            .ok (session, t) :=
        recordDuplicateDisposition_succeeds horiginal hv hs (h.clock now hclock hsome)
      have hexec : (Operation.recordDuplicateDisposition id row.version d now).exec w.store =
          (.ok answer, t) := transaction_of_ok (mapError_eq_ok.mpr hrecord)
      have hok : (repositoryExec m.repositoryFault
          (.recordDuplicateDisposition id row.version d now) w.store).1 = .ok answer := by
        rw [hm]
        show ((Operation.recordDuplicateDisposition id row.version d now).exec w.store).1.mapError
          UploadError.repository = _
        rw [hexec]
        rfl
      rw [hsame] at hr
      exact nomatch hok.symm.trans hr
    · exact hdisposed
  · exact hdisposed

/-- A caller's own call, once noted: what it then remembers is so. -/
theorem Remembers.own (hv : row.Valid) (hs : row.state = .duplicatePending) (hw : Raced id row w)
    (h : Remembers id row g w) (hmay : mayRace id g e)
    (hp : (S.racingSystem id).permits g m e w) :
    Remembers id row (g.note w e (S.exec m e w).1) (S.exec m e w).2 := by
  have hkept : Remembers id row g (S.exec m e w).2 := h.kept hw hmay
  cases e with
  | repository op =>
    cases op with
    | getSession k =>
      obtain ⟨hworld, hfound⟩ := exec_getSession_same (S := S) (m := m) (w := w) k
      rw [hworld]
      cases hr : (S.exec m (.repository (.getSession k)) w).1 with
      | error x => exact h
      | ok found =>
        refine h.loaded hv hs hw (fun hsome => ?_) fun session hsession => hfound session (by
          rw [hr, hsession])
        unfold mayRace at hmay
        split at hmay
        · simp_all
        · exact hmay
    | recordDuplicateDisposition k version d now =>
      cases hasks : g.asks with
      | none =>
        -- a call elsewhere remembers nothing of the raced session
        have hnone (a : Racer) (ha : a.asks = none) (hagreed : a.agreed = false)
            (v : UploadWorld) : Remembers id row a v :=
          ⟨fun hsome => by simp [ha] at hsome, fun _ _ hsome => by simp [ha] at hsome,
            fun hsome => by simp [ha] at hsome, fun h => by simp [hagreed] at h⟩
        have hagreed : g.agreed = false := by
          by_contra hne
          obtain ⟨r, hr, -⟩ := h.agreed (by simpa using hne)
          rw [hasks] at hr
          cases hr
        cases (S.exec m (.repository (.recordDuplicateDisposition k version d now)) w).1 with
        | ok session =>
          refine hnone { g with disposed := true, agreed := g.asks.isSome } hasks ?_ _
          rw [hasks]
          rfl
        | error x => exact hnone { g with disposed := true } hasks hagreed _
      | some r =>
        have hown := hmay
        simp only [mayRace, hasks] at hown
        obtain ⟨rfl, rfl, hclock, hseen⟩ := hown
        cases hr : (S.exec m (.repository
            (.recordDuplicateDisposition k version r.disposition now)) w).1 with
        | ok session =>
          have hdisposed := (hw.recorded (exec_repository_ok (S := S) hr)).2
          exact ⟨hkept.seen, hkept.clock, fun _ _ => ⟨_, now, hdisposed⟩,
            fun _ => ⟨r, hasks, now, hdisposed⟩⟩
        | error x =>
          have hm : m.repositoryFault = none := (hp (by rw [hasks]; rfl)).1.1
          obtain ⟨d, hd⟩ := h.refused (S := S) hv hs hw hasks hclock hseen hm hr
          exact ⟨hkept.seen, hkept.clock, fun _ _ => ⟨d, hd.kept hw hmay⟩, hkept.agreed⟩
    | _ => exact hkept
  | nowMs =>
    refine ⟨hkept.seen, fun now hnow hsome => ?_, hkept.disposed, hkept.agreed⟩
    obtain ⟨-, hclock⟩ := hp hsome
    cases hnow
    obtain horiginal | ⟨d, time, hdisposed⟩ := hw.2
    · exact hclock row horiginal
    · exact hclock (disposedRow row d time) hdisposed
  | _ => exact hkept

theorem racing_exclusion (hv : row.Valid) (hs : row.state = .duplicatePending) :
    Exclusion (S.racingSystem id) (fun _ => True) (Raced id row) (Remembers id row)
      fun _ _ => True where
  calls _ _ := trivial
  start c _ _ := by
    cases c <;> exact .fresh rfl rfl rfl rfl
  admitted _ _ _ _ _ _ := trivial
  state _ _ _ _ hw _ hmay _ := hw.step hmay
  own _ _ _ _ hw h hmay hp := h.own hv hs hw hmay hp
  other _ _ _ _ _ hw _ h' _ hmay _ := h'.kept hw hmay
  symm _ _ _ := trivial
  apart _ _ _ _ _ _ _ _ _ _ _ := trivial

theorem note_asks (g : Racer) (w : UploadWorld) (e : UploadEffect)
    (r : Except UploadError e.Answer) : (g.note w e r).asks = g.asks ∧
      (g.note w e r).lease = g.lease := by
  unfold Racer.note
  split <;> exact ⟨rfl, rfl⟩

/-- A resolution that has ended knows that the session is disposed of; one that answered, that
it is disposed of its own way. -/
def Answered {α : Type} (g : Racer) (r : Except UploadError α) : Prop :=
  g.asks.isSome = true → g.disposed = true ∧ ∀ a, r = .ok a → g.agreed = true

abbrev UploadServices.racingProtocol (S : UploadServices) (id : UploadSessionId)
    (row : UploadSessionRow) :
    Protocol Moment UploadEffect UploadEffect.Answer UploadError UploadWorld Racer :=
  (S.racingSystem id).toProtocol.within (Raced id row) (Remembers id row)

variable {α : Type} {r : UploadDuplicateResolution}

theorem racing_requireStorage {f : Unit → UploadProgram α} (hg : g.asks = some r)
    (h : Obeys (S.racingProtocol id row) Answered (f ()) g) :
    Obeys (S.racingProtocol id row) Answered (requireStorage >>= f) g := by
  unfold requireStorage
  rw [Program.bind_assoc]
  have hmay : mayRace id g (.quarantine .rootAvailable) := by simp [mayRace, hg]
  refine Obeys.bind (Obeys.perform hmay fun m w hp => ?_)
  obtain ⟨hm, -⟩ := hp.1 (by rw [hg]; rfl)
  have hexec : (S.racingProtocol id row).exec m (.quarantine .rootAvailable) w = (.ok true, w) :=
    exec_rootAvailable (S := S) hm.2
  rw [hexec]
  exact h

/- A call that has loaded the session. -/
def Racer.loaded (r : UploadDuplicateResolution) (session : UploadSession) : Racer :=
  { lease := none, asks := some r, seen := some session, clock := none
    disposed := session.duplicateDisposition.isSome
    agreed := session.duplicateDisposition = some r.disposition }

theorem racing_load {f : UploadSession → UploadProgram α} (hv : row.Valid)
    (h : ∀ session : UploadSession, (session.toUploadSessionRow = row ∨
        ∃ d now, session.toUploadSessionRow = disposedRow row d now) →
      Obeys (S.racingProtocol id row) Answered (f session) (.loaded r session)) :
    Obeys (S.racingProtocol id row) Answered (load id >>= f) (RaceCall.racer (.resolve r : RaceCall id)) := by
  unfold load
  rw [Program.bind_assoc]
  have hmay : mayRace id (RaceCall.racer (.resolve r : RaceCall id)) (.repository (.getSession id)) :=
    (rfl : id = id)
  refine Obeys.bind (Obeys.rescue (Obeys.perform hmay fun m w hp => ?_))
  obtain ⟨hm, -⟩ := hp.1 rfl
  obtain ⟨session, hsession⟩ : ∃ session : UploadSession,
      w.store.session? id = some session.toUploadSessionRow := by
    obtain hrow | ⟨d, now, hrow⟩ := hp.2.1.2
    · exact ⟨⟨row, hv⟩, hrow⟩
    · exact ⟨⟨_, hp.2.1.1.load id _ hrow⟩, hrow⟩
  have hexec : (S.racingProtocol id row).exec m (.repository (.getSession id)) w =
      (.ok (some session), w) := exec_getSession (S := S) hm.1 hsession
  rw [hexec]
  have hnote : (S.racingProtocol id row).note (RaceCall.racer (.resolve r : RaceCall id)) w
      (.repository (.getSession id)) (.ok (some session)) = .loaded r session := by
    show (RaceCall.racer (.resolve r : RaceCall id)).note w (.repository (.getSession id))
      (.ok (some session)) = _
    simp only [Racer.note, RaceCall.racer, Racer.loaded, Racer.mk.injEq, true_and]
    refine ⟨by simp, ?_⟩
    simp only [Bool.false_or, Option.any_some, Option.isSome_some, Bool.true_and]
    exact decide_eq_decide.mpr Iff.rfl
  rw [hnote]
  refine h session ?_
  exact (hp.2.1.loaded hsession).imp_right fun ⟨d, now, hsame, _⟩ => ⟨d, now, hsame⟩

/-- The disposition itself, for the session as it was at the start. -/
theorem racing_record {f : UploadSession → UploadProgram α} {session : UploadSession}
    (hid : session.id = id) (hs : session.state = .duplicatePending)
    (h : ∀ answer (g : Racer), g.asks = some r → g.disposed = true → g.agreed = true →
      Obeys (S.racingProtocol id row) Answered (f answer) g) :
    Obeys (S.racingProtocol id row) Answered
      (recordDuplicateDisposition session r.disposition >>= f) (.loaded r session) := by
  subst hid
  refine Obeys.bind (Obeys.rescue (Obeys.bind (Obeys.perform trivial fun m w hp => ?_)))
  show Obeys _ _ _ { Racer.loaded r session with clock := some m.nowMs }
  refine Obeys.perform ⟨rfl, rfl, rfl, session, rfl, rfl, hs⟩ fun m' w' hp' => ?_
  cases (S.racingProtocol session.id row).exec m' (.repository
      (.recordDuplicateDisposition session.id session.version r.disposition m.nowMs)) w' with
  | mk answer t =>
    cases answer with
    | ok answer => exact h answer _ rfl rfl rfl
    | error x =>
      have herror (x : UploadError) : Answered { Racer.loaded r session with
          clock := some m.nowMs, disposed := true } (.error x : Except UploadError α) :=
        fun _ => ⟨rfl, nofun⟩
      simp only
      split
      · exact herror _
      · exact herror _

theorem answered_error {g : Racer} (hdisposed : g.disposed = true) (x : UploadError) :
    Answered g (.error x : Except UploadError α) :=
  fun _ => ⟨hdisposed, nofun⟩

/-- The removal that follows a discard changes neither the answer nor its memory. -/
theorem racing_remove {f : Unit → UploadProgram α} {session : UploadSession} {g : Racer}
    (hasks : g.asks = some r) (hdisposed : g.disposed = true)
    (h : Obeys (S.racingProtocol id row) Answered (f ()) g) :
    Obeys (S.racingProtocol id row) Answered (removeCancelledFile session >>= f) g := by
  have hmay : mayRace id g (.quarantine (.remove session.storageKey)) := by simp [mayRace, hasks]
  refine Obeys.bind (Obeys.rescue (Obeys.perform hmay fun m w hp => ?_))
  cases (S.racingProtocol id row).exec m (.quarantine (.remove session.storageKey)) w with
  | mk answer t =>
    cases answer with
    | ok u => exact h
    | error x =>
      simp only
      split
      · rename_i x
        cases x <;> exact answered_error hdisposed _
      · exact answered_error hdisposed _

theorem resolve_obeys (hv : row.Valid) (hs : row.state = .duplicatePending)
    (hid : row.id = id) (hmode : row.duplicateResolutionMode = .explicit) :
    Obeys (S.racingProtocol id row) Answered (resolveDuplicate id r)
      (RaceCall.racer (.resolve r : RaceCall id)) := by
  refine racing_requireStorage rfl (racing_load hv fun session hsession => ?_)
  have hexplicit : usesExplicitDuplicateResolution session.duplicateResolutionMode = true := by
    obtain hsame | ⟨d, now, hsame⟩ := hsession
    · rw [hsame, hmode]
      rfl
    · rw [hsame]
      show usesExplicitDuplicateResolution row.duplicateResolutionMode = true
      rw [hmode]
      rfl
  simp only [ensure, demand, hexplicit, if_true, Program.done_bind]
  obtain hsame | ⟨d, now, hsame⟩ := hsession
  · -- still pending: the statement decides
    have hpending : session.state = .duplicatePending := by rw [hsame, hs]
    have hnone : session.duplicateDisposition = none := by
      rw [hsame]
      exact no_disposition_of_state hv (Or.inr hs)
    have hsid : session.id = id := by rw [hsame, hid]
    cases r with
    | keepSeparate =>
      simp only [hnone, hpending, reduceCtorEq, false_and, if_false, Option.isNone_none, decide_true,
        Bool.and_true, if_true, Program.done_bind]
      exact racing_record (r := .keepSeparate) hsid hpending fun answer g _ hdisposed hagreed _ =>
        ⟨hdisposed, fun _ _ => hagreed⟩
    | discard =>
      simp only [hnone, hpending, reduceCtorEq, and_false, if_false, Option.isNone_none, decide_true,
        Bool.and_true, if_true, Program.done_bind]
      exact racing_record (r := .discard) hsid hpending fun answer g hasks hdisposed hagreed =>
        racing_remove hasks hdisposed fun _ => ⟨hdisposed, fun _ _ => hagreed⟩
  · have hdisposition : session.duplicateDisposition = some d := by rw [hsame]; rfl
    have hstate : session.state = dispositionTarget d := by rw [hsame]; rfl
    have hdisposed : (Racer.loaded r session).disposed = true := by
      simp [Racer.loaded, hdisposition]
    have hagreed (h : d = r.disposition) : (Racer.loaded r session).agreed = true := by
      simp [Racer.loaded, hdisposition, h]
    cases r with
    | keepSeparate =>
      cases d with
      | keepSeparate =>
        rw [if_pos ⟨hdisposition, by rw [hstate]; decide⟩]
        exact fun _ => ⟨hdisposed, fun _ _ => hagreed rfl⟩
      | discard =>
        simp only [hdisposition, Option.some.injEq, reduceCtorEq, false_and, if_false,
          Option.isNone_some, Bool.and_false]
        exact answered_error hdisposed _
    | discard =>
      cases d with
      | keepSeparate =>
        simp only [hdisposition, Option.some.injEq, reduceCtorEq, and_false, if_false,
          Option.isNone_some, Bool.and_false]
        exact answered_error hdisposed _
      | discard =>
        have hcancelled : session.state = .cancelled := hstate
        simp only [hcancelled, hdisposition, and_self, if_true]
        exact racing_remove rfl hdisposed fun _ => ⟨hdisposed, fun _ _ => hagreed rfl⟩

theorem racing_obeys (hv : row.Valid) (hs : row.state = .duplicatePending) (hid : row.id = id)
    (hmode : row.duplicateResolutionMode = .explicit) (c : RaceCall id) :
    Obeys (S.racingProtocol id row) Answered (S.program c.call) c.racer := by
  cases c with
  | resolve r =>
    refine Obeys.bind ((resolve_obeys hv hs hid hmode).mono fun g answer h => ?_)
    cases answer with
    | ok a =>
      intro hasks
      exact ⟨(h hasks).1, fun _ _ => (h hasks).2 a rfl⟩
    | error x =>
      intro hasks
      exact ⟨(h hasks).1, fun a ha => by cases ha⟩
  | elsewhere c hc =>
    refine (Issues.obeys (J := fun g : Racer => g.asks = none ∧ g.lease = c.lease) ?_ ?_ ?_
      (issues_program_any c) ⟨rfl, rfl⟩).mono fun g answer h hasks => ?_
    · intro g w e answer hJ
      have hnote := note_asks g w e answer
      exact ⟨hnote.1.trans hJ.1, hnote.2.trans hJ.2⟩
    · rintro g m e w a - ⟨-, hw, -⟩ hr
      exact exec_answers hw.1.load (fun _ _ _ _ => trivial) hr
    · intro g e hJ he
      show mayRace id g e
      simp only [mayRace, hJ.1, hJ.2]
      exact ⟨hc, he⟩
    · rw [h.1.1] at hasks
      cases hasks

end Race
end FrameNest.Uploads
