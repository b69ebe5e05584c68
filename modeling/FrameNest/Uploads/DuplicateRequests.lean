import FrameNest.Uploads.DuplicateRuns

/-! What a further request finds once a duplicate has been disposed of. -/
namespace FrameNest.Uploads
open Relational Concurrent UploadStore

/- The disposition a resolution asks for. -/
def UploadDuplicateResolution.disposition : UploadDuplicateResolution → UploadDuplicateDisposition
  | .keepSeparate => .keepSeparate
  | .discard => .discard

theorem UploadDuplicateResolution.disposition_injective {r r' : UploadDuplicateResolution}
    (h : r.disposition = r'.disposition) : r = r' := by
  cases r <;> cases r' <;> first | rfl | cases h

/- Surroundings in which neither the database nor the quarantine fails. -/
def Moment.Faultless (m : Moment) : Prop := m.repositoryFault = none ∧ m.quarantineFault = none

section Run
variable {S : UploadServices} {m : Moment} {ms : List Moment} {w : UploadWorld} {α : Type}
  {id : UploadSessionId} {row : UploadSessionRow} {session : UploadSession}

theorem exec_getSession (hm : m.repositoryFault = none)
    (hrow : w.store.session? id = some session.toUploadSessionRow) :
    S.exec m (.repository (.getSession id)) w = (.ok (some session), w) := by
  have hload : Operation.loadSession id w.store = .ok (some session, w.store) := by
    unfold Operation.loadSession
    simp only [hrow, sessionFromRow_valid session.valid]
  have hexec : (Operation.getSession id).exec w.store = (.ok (some session), w.store) :=
    transaction_of_ok (mapError_eq_ok.mpr hload)
  show ((repositoryExec m.repositoryFault (.getSession id) w.store).1,
    { w with store := (repositoryExec m.repositoryFault (.getSession id) w.store).2 }) = _
  rw [hm]
  show (((Operation.getSession id).exec w.store).1.mapError UploadError.repository,
    { w with store := ((Operation.getSession id).exec w.store).2 }) = _
  rw [hexec]
  rfl

theorem exec_rootAvailable (hm : m.quarantineFault = none) :
    S.exec m (.quarantine .rootAvailable) w = (.ok true, w) := by
  show ((QuarantineEffect.rootAvailable.exec m.quarantineFault m.freeBytes w.quarantine).1.mapError
    UploadError.quarantine, _) = _
  rw [hm]
  rfl

theorem exec_remove {key : UploadStorageKey} (hm : m.quarantineFault = none) :
    S.exec m (.quarantine (.remove key)) w =
      (.ok (), { w with quarantine := Function.update w.quarantine key none }) := by
  show (((QuarantineEffect.remove key).exec m.quarantineFault m.freeBytes w.quarantine).1.mapError
    UploadError.quarantine, { w with quarantine :=
      ((QuarantineEffect.remove key).exec m.quarantineFault m.freeBytes w.quarantine).2 }) = _
  rw [hm]
  rfl

theorem run_requireStorage {f : Unit → UploadProgram α} (hm : m.quarantineFault = none) :
    Program.run S.exec (m :: ms) (requireStorage >>= f) w = Program.run S.exec ms (f ()) w := by
  unfold requireStorage
  rw [Program.bind_assoc]
  exact Program.run_perform (exec_rootAvailable hm)

theorem run_load {f : UploadSession → UploadProgram α} (hm : m.repositoryFault = none)
    (hrow : w.store.session? id = some session.toUploadSessionRow) :
    Program.run S.exec (m :: ms) (load id >>= f) w = Program.run S.exec ms (f session) w := by
  unfold load
  rw [Program.bind_assoc]
  exact Program.run_perform_rescue (exec_getSession hm hrow)

theorem run_removeCancelledFile {f : Unit → UploadProgram α} (hm : m.quarantineFault = none) :
    ∃ quarantine, Program.run S.exec (m :: ms) (removeCancelledFile session >>= f) w =
      Program.run S.exec ms (f ()) { w with quarantine } :=
  ⟨_, Program.run_perform_rescue (exec_remove hm)⟩

/-- The states in which a session with a standing disposition is found. -/
theorem disposed_state {s : UploadStore} {disposition : UploadDuplicateDisposition}
    (hload : s.AllLoad) (hs : DispositionsStand s) (hrow : s.session? id = some row)
    (hd : row.duplicateDisposition = some disposition) :
    match disposition with
    | .keepSeparate => row.state ∈ [UploadSessionState.publishPending, .published, .cataloged]
    | .discard => row.state = .cancelled := by
  have hallowed := ((hload id row hrow).disposition_state disposition hd).1
  have hfailed := hs id row hrow (by rw [hd]; rfl)
  cases disposition with
  | keepSeparate =>
    simp only [UploadDuplicateDisposition.allowedStates, List.mem_cons] at hallowed
    simp only [List.mem_cons]
    tauto
  | discard => simpa [UploadDuplicateDisposition.allowedStates] using hallowed

/-- The same request again: it answers with the session as it is. -/
theorem identical_request {r : UploadDuplicateResolution} (hload : w.store.AllLoad)
    (hs : DispositionsStand w.store) (hrow : w.store.session? id = some row)
    (hmode : row.duplicateResolutionMode = .explicit)
    (hd : row.duplicateDisposition = some r.disposition) (hms : ∀ m ∈ ms, m.Faultless)
    (hlength : 3 ≤ ms.length) : ∃ quarantine,
      Program.run S.exec ms (resolveDuplicate id r) w =
        (.done (snapshot row), { w with quarantine }) := by
  obtain ⟨m₁, m₂, m₃, rest, rfl⟩ : ∃ m₁ m₂ m₃ rest, ms = m₁ :: m₂ :: m₃ :: rest := by
    match ms, hlength with
    | m₁ :: m₂ :: m₃ :: rest, _ => exact ⟨m₁, m₂, m₃, rest, rfl⟩
  have hm₁ : m₁.Faultless := hms m₁ (by simp)
  have hm₂ : m₂.Faultless := hms m₂ (by simp)
  have hm₃ : m₃.Faultless := hms m₃ (by simp)
  have hvalid := hload id row hrow
  have hstate := disposed_state hload hs hrow hd
  have hexplicit : ensure (usesExplicitDuplicateResolution row.duplicateResolutionMode)
      .stateConflict = .done () := by
    rw [hmode]
    rfl
  unfold resolveDuplicate
  have hsession : w.store.session? id =
      some (⟨row, hvalid⟩ : UploadSession).toUploadSessionRow := hrow
  rw [run_requireStorage hm₁.2, run_load hm₂.1 hsession]
  cases r with
  | keepSeparate =>
    refine ⟨w.quarantine, ?_⟩
    simp only [hexplicit, Program.done_bind]
    rw [if_pos ⟨hd, hstate⟩, Program.run_done]
  | discard =>
    simp only [hexplicit, Program.done_bind]
    rw [if_pos ⟨hstate, hd⟩]
    obtain ⟨quarantine, hrun⟩ : ∃ quarantine, Program.run S.exec (m₃ :: rest)
        (removeCancelledFile ⟨row, hvalid⟩ >>= fun _ => Program.done (snapshot row)) w =
          Program.run S.exec rest (Program.done (snapshot row)) { w with quarantine } :=
      run_removeCancelledFile hm₃.2
    exact ⟨quarantine, by rw [hrun, Program.run_done]⟩

/-- Loading a session changes nothing, and finds what is there. -/
theorem exec_getSession_same (id : UploadSessionId) :
    (S.exec m (.repository (.getSession id)) w).2 = w ∧
    ∀ session : UploadSession, (S.exec m (.repository (.getSession id)) w).1 = .ok (some session) →
      w.store.session? id = some session.toUploadSessionRow := by
  refine ⟨?_, fun session h => (loadSession_ok (mapError_eq_ok.mp (exec_repository_ok h))).2⟩
  obtain hsame | ⟨found, t, hperform, hworld⟩ := (exec_repository_world :
    (S.exec m (.repository (.getSession id)) w).2 = w ∨ _)
  · exact hsame
  · rw [hworld, (loadSession_ok (mapError_eq_ok.mp hperform)).1]

theorem upholds_quarantine {I : UploadWorld → Prop} {e : QuarantineEffect}
    {Q : Except UploadError e.Answer → UploadWorld → Prop}
    (h : ∀ m, I (S.exec m (.quarantine e) w).2 ∧
      Q (S.exec m (.quarantine e) w).1 (S.exec m (.quarantine e) w).2) :
    Upholds S.exec I Q (quarantine e) w :=
  Upholds.perform h

theorem upholds_repository {I : UploadWorld → Prop} {op : Operation}
    {Q : Except UploadError op.Answer → UploadWorld → Prop}
    (h : ∀ m, I (S.exec m (.repository op) w).2 ∧
      Q (S.exec m (.repository op) w).1 (S.exec m (.repository op) w).2) :
    Upholds S.exec I Q (repository op) w :=
  Upholds.perform h

/-- A check that fails, and the same in front of the rest of a program. -/
theorem upholds_ensure {I : UploadWorld → Prop} {Q : Except UploadError α → UploadWorld → Prop}
    {b : Bool} {x : UploadTransportError} {f : Unit → UploadProgram α}
    (herror : b = false → Q (.error (.transport x)) w)
    (h : b = true → Upholds S.exec I Q (f ()) w) : Upholds S.exec I Q (ensure b x >>= f) w := by
  cases b with
  | true => exact h rfl
  | false => exact herror rfl

theorem upholds_requireStorage {Q : Except UploadError α → UploadWorld → Prop}
    {f : Unit → UploadProgram α} (herror : ∀ x, Q (.error x) w)
    (h : Upholds S.exec (· = w) Q (f ()) w) :
    Upholds S.exec (· = w) Q (requireStorage >>= f) w := by
  unfold requireStorage
  rw [Program.bind_assoc]
  refine Upholds.bind (upholds_quarantine fun m => ⟨rfl, ?_⟩)
  exact upholds_ensure (fun _ => herror _) fun _ => h

theorem upholds_load {Q : Except UploadError α → UploadWorld → Prop}
    {f : UploadSession → UploadProgram α} (herror : ∀ x, Q (.error x) w)
    (h : ∀ session : UploadSession, w.store.session? id = some session.toUploadSessionRow →
      Upholds S.exec (· = w) Q (f session) w) :
    Upholds S.exec (· = w) Q (load id >>= f) w := by
  unfold load
  rw [Program.bind_assoc]
  refine Upholds.bind (Upholds.rescue (upholds_repository fun m => ?_))
  obtain ⟨hworld, hfound⟩ := exec_getSession_same (S := S) (m := m) (w := w) id
  refine ⟨hworld, ?_⟩
  rw [hworld]
  cases hr : (S.exec m (.repository (.getSession id)) w).1 with
  | error x =>
    simp only
    split <;> exact herror _
  | ok found =>
    cases found with
    | none => exact herror _
    | some session => exact h session (hfound session hr)

/-- The other request: whatever its surroundings do, it is refused and changes nothing. -/
theorem conflicting_request {r : UploadDuplicateResolution}
    {disposition : UploadDuplicateDisposition} (hrow : w.store.session? id = some row)
    (hd : row.duplicateDisposition = some disposition) (hne : disposition ≠ r.disposition) :
    (Program.run S.exec ms (resolveDuplicate id r) w).2 = w ∧
      ∀ value, (Program.run S.exec ms (resolveDuplicate id r) w).1 ≠ .done value := by
  have h : Upholds S.exec (· = w) (fun answer t => t = w ∧ ∀ a, answer ≠ .ok a)
      (resolveDuplicate id r) w := by
    have hrefused : ∀ x : UploadError, w = w ∧
        ∀ a, (.error x : Except UploadError UploadSessionSnapshot) ≠ .ok a :=
      fun x => ⟨rfl, fun a h => by cases h⟩
    refine upholds_requireStorage hrefused (upholds_load hrefused fun session hsession => ?_)
    rw [hrow] at hsession
    have hdisposed : session.duplicateDisposition = some disposition := by
      rw [← Option.some.inj hsession]
      exact hd
    refine upholds_ensure (fun _ => hrefused _) fun _ => ?_
    cases r with
    | keepSeparate =>
      have hother : ¬ (session.duplicateDisposition = some .keepSeparate ∧ session.state ∈
          [UploadSessionState.publishPending, .published, .cataloged]) := fun h => hne (by
        rw [hdisposed] at h
        exact Option.some.inj h.1)
      simp only [if_neg hother]
      refine upholds_ensure (fun _ => hrefused _) fun hfree => ?_
      simp [hdisposed] at hfree
    | discard =>
      have hother : ¬ (session.state = .cancelled ∧
          session.duplicateDisposition = some .discard) := fun h => hne (by
        rw [hdisposed] at h
        exact Option.some.inj h.2)
      simp only [if_neg hother]
      refine upholds_ensure (fun _ => hrefused _) fun hfree => ?_
      simp [hdisposed] at hfree
  exact ⟨h.run rfl ms, fun value hvalue => ((h.ended ms).1 value hvalue).2 value rfl⟩

end Run
end FrameNest.Uploads
