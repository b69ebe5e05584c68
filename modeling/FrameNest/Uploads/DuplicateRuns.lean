import FrameNest.Concurrent.Leases
import FrameNest.Uploads.CanonicalDuplicates

/-! All upload services over one store: any calls at once, and the same under the leases
that keep the calls for one session in a row. -/
namespace FrameNest.Uploads
open Concurrent UploadStore

section Exec
variable {A : UploadSession → Prop} {F F' : UploadSessionState → Prop} {own : UploadSessionId → Prop} {S : UploadServices}
  {m : Moment} {e : UploadEffect} {w : UploadWorld}

theorem allowedFor_mono (h : ∀ state, F state → F' state) (he : allowedFor F own e) :
    allowedFor F' own e := by
  cases e with
  | repository op =>
    refine ⟨?_, he.2⟩
    have hop := he.1
    cases op with
    | transitionState id expected target version now failureCode =>
      exact ⟨hop.1, fun hfailed => h _ (hop.2.1 hfailed), fun hreceived => h _ (hop.2.2 hreceived)⟩
    | create session => exact hop
    | _ => trivial
  | _ => trivial

/-- What an allowed call does to the store: nothing, or one operation on an own session. -/
theorem exec_service (hload : w.store.AllLoad) (he : allowedFor F own e) :
    (S.exec m e w).2.store = w.store ∨ ∃ op, ServiceChange F op w.store (S.exec m e w).2.store ∧
      ∀ k version, op.guardedBy = some (k, version) → own k := by
  obtain hsame | ⟨op, a, t, rfl, hperform, hstore⟩ := exec_store_cases (S := S) (m := m) (w := w) e
  · exact Or.inl hsame
  · rw [hstore]
    exact Or.inr ⟨op, perform_service he.1 hload hperform, he.2⟩

/-- A session that the caller does not own stays as it is. -/
theorem exec_others {id : UploadSessionId} {row : UploadSessionRow} (hload : w.store.AllLoad)
    (he : allowedFor F own e) (hid : ¬ own id) (hrow : w.store.session? id = some row) :
    (S.exec m e w).2.store.session? id = some row := by
  obtain hsame | ⟨op, hchange, hown⟩ := exec_service (S := S) (m := m) hload he
  · rw [hsame]
    exact hrow
  · obtain ⟨after, hafter, -⟩ := hchange.duplicateStep hload hrow
    obtain hkept | ⟨hnone, -⟩ | ⟨before, -, -, -, -, version, hguarded⟩ := hchange.row_cases hafter
    · rw [hrow] at hkept
      rw [hafter, ← hkept]
    · rw [hrow] at hnone
      cases hnone
    · exact absurd (hown id version hguarded) hid

theorem exec_discipline (hs : DuplicateDiscipline w.store) (he : allowedFor F own e) :
    DuplicateDiscipline (S.exec m e w).2.store := by
  obtain hsame | ⟨op, hchange, -⟩ := exec_service (S := S) (m := m) hs.load he
  · rw [hsame]
    exact hs
  · exact hchange.discipline hs

theorem exec_stands (hF : ¬ F .publishPending) (hload : w.store.AllLoad)
    (hs : DispositionsStand w.store) (he : allowedFor F own e) :
    DispositionsStand (S.exec m e w).2.store := by
  obtain hsame | ⟨op, hchange, -⟩ := exec_service (S := S) (m := m) hload he
  · rw [hsame]
    exact hs
  · exact hchange.stands hF hload hs

/-- Where all rows load, calls answer as the programs assume. -/
theorem exec_answers (hload : w.store.AllLoad)
    (hA : ∀ id (session : UploadSession), e = .repository (.getSession id) →
      w.store.session? id = some session.toUploadSessionRow → A session)
    {a : e.Answer} (h : (S.exec m e w).1 = .ok a) : answersWith A e a := by
  cases e with
  | repository op =>
    refine perform_answers hload (exec_repository_ok h) fun id row hop hrow => hA id row ?_ hrow
    rw [hop]
  | _ => trivial

end Exec

namespace UploadServices
variable (S : UploadServices)

/-- Any number of calls of all services at once. -/
def servicesSystem : System UploadCall Moment UploadEffect UploadEffect.Answer UploadError
    UploadWorld (Option UploadSessionId) UploadOutcome where
  exec := S.exec
  note lease _ _ _ := lease
  permits _ _ _ _ := True
  may lease := allowedFor (fun _ => True) (owns lease)
  program := S.program
  memory := UploadCall.lease
  mayStart _ _ := true
  mayCrash := true

/-- Everything the services keep of duplicates. -/
def Disciplined (w : UploadWorld) : Prop := DuplicateDiscipline w.store

theorem services_exclusion : Exclusion S.servicesSystem (fun _ => True) Disciplined
    (fun _ _ => True) fun _ _ => True where
  calls _ _ := trivial
  start _ _ _ := trivial
  admitted _ _ _ _ _ _ := trivial
  state _ _ _ _ hw _ he _ := exec_discipline hw he
  own _ _ _ _ _ _ _ _ := trivial
  other _ _ _ _ _ _ _ _ _ _ _ := trivial
  symm _ _ _ := trivial
  apart _ _ _ _ _ _ _ _ _ _ _ := trivial

theorem services_obey (c : UploadCall) :
    Obeys (S.servicesSystem.toProtocol.within Disciplined fun _ _ => True) (fun _ _ => True)
      (S.program c) c.lease := by
  refine (Issues.obeys (J := fun lease => lease = c.lease) (fun _ _ _ _ h => h) ?_ ?_
    (issues_program_any c) rfl).mono fun _ _ _ => trivial
  · rintro lease m e w a - ⟨-, hw, -⟩ h
    exact exec_answers hw.load (fun _ _ _ _ => trivial) h
  · rintro lease e rfl he
    exact he

end UploadServices

/-! Under the leases. -/

/-- What a call knows of its own session: whether it holds the lease, whether it receives a
chunk, and whether it has seen the session in a state it may receive one in. -/
structure Caller where
  lease : Option UploadSessionId
  receiving : Bool
  early : Bool

/-- The states a session is in while a chunk is received. -/
def patchStates : List UploadSessionState := [.created, .receiving, .cancelled, .expired, .failed]

namespace Caller

/- The states a call may fail its session in. -/
def failsFrom (g : Caller) (state : UploadSessionState) : Prop :=
  if g.early then state ∈ patchStates else state ≠ .publishPending

def note (g : Caller) (_ : UploadWorld) : (e : UploadEffect) → Except UploadError e.Answer → Caller
  | .repository (.getSession id), .ok found =>
    if g.receiving ∧ g.lease = some id ∧
        (found : Option UploadSession).any (fun session => session.state ∈ patchStates) then
      { g with early := true }
    else g
  | _, _ => g

/-- A chunk is received by a session that stays early. -/
def Early (g : Caller) (w : UploadWorld) : Prop :=
  g.early = true → ∃ id row, g.lease = some id ∧ w.store.session? id = some row ∧
    row.state ∈ patchStates

theorem failsFrom_publishPending (g : Caller) : ¬ g.failsFrom .publishPending := by
  unfold failsFrom
  split <;> simp [patchStates]

@[simp] theorem note_lease (g : Caller) (w : UploadWorld) (e : UploadEffect)
    (r : Except UploadError e.Answer) : (g.note w e r).lease = g.lease := by
  unfold note
  split
  · split <;> rfl
  · rfl

theorem note_receiving (g : Caller) (w : UploadWorld) (e : UploadEffect)
    (r : Except UploadError e.Answer) : (g.note w e r).receiving = g.receiving := by
  unfold note
  split
  · split <;> rfl
  · rfl

theorem note_early {g : Caller} (w : UploadWorld) (e : UploadEffect)
    (r : Except UploadError e.Answer) (h : g.early = true) : (g.note w e r).early = true := by
  unfold note
  split
  · split
    · rfl
    · exact h
  · exact h

end Caller

def UploadCall.caller (c : UploadCall) : Caller := ⟨c.lease, c.isReceive, false⟩

namespace UploadServices
variable (S : UploadServices)

/-- The same calls, those for one session one after another. -/
def leasedSystem : System UploadCall Moment UploadEffect UploadEffect.Answer UploadError
    UploadWorld Caller UploadOutcome where
  exec := S.exec
  note := Caller.note
  permits _ _ _ _ := True
  may g := allowedFor g.failsFrom (owns g.lease)
  program := S.program
  memory := UploadCall.caller
  mayStart threads c := threads.all fun t => t.program.settled || c.lease.isNone ||
    t.memory.lease != c.lease
  mayCrash := true

/- Two calls that may run at once. -/
def Apart (g g' : Caller) : Prop := ∀ id, g.lease = some id → g'.lease ≠ some id

/-- With the leases, dispositions stand as well. -/
def Settled (w : UploadWorld) : Prop := DuplicateDiscipline w.store ∧ DispositionsStand w.store

variable {S} {g g' : Caller} {m : Moment} {e : UploadEffect} {w : UploadWorld}

/-- The early states are closed under what a receiving call may do. -/
theorem patchStates_closed {F : UploadSessionState → Prop} {s : UploadStore}
    {before after : UploadSessionRow} (hF : ∀ state, F state → state ∈ patchStates)
    (h : ServiceMutation F s before after) (hbefore : before.state ∈ patchStates) :
    after.state ∈ patchStates := by
  cases h with
  | edited after hstate hdisposition hsame =>
    rw [hstate]
    exact hbefore
  | moved target time failureCode allowed plain failed received =>
    have hreceived : target ≠ .received := fun h => by
      have hmem := hF _ (received h)
      revert hmem
      decide
    show target ∈ patchStates
    revert allowed hreceived hbefore
    cases before.state <;> cases target <;> decide
  | validated checksumHex kind format identity exists_ time hs free =>
    rw [hs] at hbefore
    exact absurd hbefore (by decide)
  | disposed disposition time hs hn =>
    rw [hs] at hbefore
    exact absurd hbefore (by decide)
  | published time hs =>
    rw [hs] at hbefore
    exact absurd hbefore (by decide)
  | cataloged time hs =>
    rw [hs] at hbefore
    exact absurd hbefore (by decide)

theorem Caller.Early.own (hload : w.store.AllLoad) (h : g.Early w)
    (he : allowedFor g.failsFrom (owns g.lease) e) : g.Early (S.exec m e w).2 := by
  intro hearly
  obtain ⟨id, row, hlease, hrow, hstate⟩ := h hearly
  have hF : ∀ state, g.failsFrom state → state ∈ patchStates := fun state hs => by
    simpa [Caller.failsFrom, hearly] using hs
  obtain hsame | ⟨op, hchange, -⟩ := exec_service (S := S) (m := m) hload he
  · exact ⟨id, row, hlease, by rw [hsame]; exact hrow, hstate⟩
  · obtain ⟨after, hafter, -⟩ := hchange.duplicateStep hload hrow
    refine ⟨id, after, hlease, hafter, ?_⟩
    obtain hkept | ⟨hnone, -⟩ | ⟨before, hbefore, -, hmutation, -⟩ := hchange.row_cases hafter
    · rw [hrow] at hkept
      cases hkept
      exact hstate
    · rw [hrow] at hnone
      cases hnone
    · rw [hrow] at hbefore
      cases hbefore
      exact patchStates_closed hF hmutation hstate

theorem Caller.Early.note (hload : w.store.AllLoad) (h : g.Early w)
    (he : allowedFor g.failsFrom (owns g.lease) e) :
    (g.note w e (S.exec m e w).1).Early (S.exec m e w).2 := by
  have hown := Caller.Early.own (S := S) (m := m) hload h he
  unfold Caller.note
  split
  · rename_i id found hr
    split
    · rename_i hnoted
      obtain ⟨-, hlease, hany⟩ := hnoted
      intro _
      obtain ⟨hkept, hrow⟩ := loadSession_ok (mapError_eq_ok.mp (exec_repository_ok hr))
      cases found with
      | none => simp at hany
      | some session =>
        exact ⟨id, session.toUploadSessionRow, hlease, by rw [hkept]; exact hrow, by simpa using hany⟩
    · exact hown
  · exact hown

theorem leased_exclusion : Exclusion S.leasedSystem (fun p => p.settled = false) Settled
    Caller.Early Apart where
  calls _ _ := rfl
  start c _ _ := fun hearly => by cases hearly
  admitted threads c hc t ht hrunning := by
    have hfree := List.all_eq_true.mp hc t ht
    intro id hlease hsame
    rw [show (S.leasedSystem.memory c).lease = c.lease from rfl] at hlease
    simp [hrunning, hlease, hsame] at hfree
  state g m e w hw _ he _ := ⟨exec_discipline hw.1 he,
    exec_stands g.failsFrom_publishPending hw.1.load hw.2 he⟩
  own g m e w hw hearly he _ := Caller.Early.note hw.1.load hearly he
  other g g' m e w hw _ hearly' hapart he _ := by
    intro hearly
    obtain ⟨id, row, hlease, hrow, hstate⟩ := hearly' hearly
    have hid : ¬ owns g.lease id := fun hown => hapart id hown hlease
    exact ⟨id, row, hlease, exec_others hw.1.load he hid hrow, hstate⟩
  symm g g' h id hlease hlease' := h id hlease' hlease
  apart g g' m e w _ _ _ hapart _ _ := by
    intro id hlease
    rw [show (S.leasedSystem.note g w e (S.leasedSystem.exec m e w).1).lease = g.lease from
      Caller.note_lease g w e _] at hlease
    exact hapart id hlease

/-- The protocol of a call under its lease, where the invariants hold. -/
abbrev leasedProtocol (S : UploadServices) :
    Protocol Moment UploadEffect UploadEffect.Answer UploadError UploadWorld Caller :=
  S.leasedSystem.toProtocol.within Settled Caller.Early

/-- A part of `receive_chunk` that fails no session. -/
theorem receiving_obeys {id : UploadSessionId} {α : Type} {Q : α → Prop} {p : UploadProgram α}
    (h : Issues (answersWith fun _ => True) (allowedFor (fun _ => False) (owns (some id))) Q p)
    (hg : g.lease = some id ∧ g.receiving = true) :
    Obeys S.leasedProtocol
      (fun (g' : Caller) (r : Except UploadError α) => (g'.lease = some id ∧ g'.receiving = true) ∧ ∀ a, r = .ok a → Q a) p g := by
  refine Issues.obeys (J := fun g : Caller => g.lease = some id ∧ g.receiving = true) ?_ ?_ ?_ h hg
  · intro g w e r hJ
    exact ⟨(g.note_lease w e r).trans hJ.1, (g.note_receiving w e r).trans hJ.2⟩
  · rintro g m e w a - ⟨-, hw, -⟩ hr
    exact exec_answers hw.1.load (fun _ _ _ _ => trivial) hr
  · intro g e hJ he
    show allowedFor g.failsFrom (owns g.lease) e
    rw [hJ.1]
    exact allowedFor_mono (fun _ h => h.elim) he

/-- The load under the lease: afterwards the call knows whether its session is early. -/
theorem load_obeys {id : UploadSessionId} {Q : Caller → Except UploadError UploadOutcome → Prop}
    {f : UploadSession → UploadProgram UploadOutcome}
    (hg : g.lease = some id ∧ g.receiving = true) (herror : ∀ g x, Q g (.error x))
    (h : ∀ session g', g'.lease = some id ∧ g'.receiving = true → session.id = id →
      (session.state ∈ patchStates → g'.early = true) → Obeys S.leasedProtocol Q (f session) g') :
    Obeys S.leasedProtocol Q (load id >>= f) g := by
  refine Obeys.bind (Obeys.bind (Obeys.rescue (Obeys.perform ⟨trivial, nofun⟩
    fun m w _ => ?_)))
  have hnote (r : Except UploadError (UploadEffect.repository (.getSession id)).Answer) :
      (g.note w (.repository (.getSession id)) r).lease = some id ∧
        (g.note w (.repository (.getSession id)) r).receiving = true :=
    ⟨(g.note_lease w _ r).trans hg.1, (g.note_receiving w _ r).trans hg.2⟩
  cases hr : (S.leasedProtocol.exec m (.repository (.getSession id)) w).1 with
  | error x =>
    simp only
    split
    · exact herror _ _
    · exact herror _ _
  | ok found =>
    obtain ⟨-, hrow⟩ := loadSession_ok (mapError_eq_ok.mp (exec_repository_ok (S := S) hr))
    cases found with
    | none => exact herror _ _
    | some session =>
      refine h session _ (hnote (.ok (some session))) (session?_id hrow) fun hearly => ?_
      show (g.note w (.repository (.getSession id)) (.ok (some session))).early = true
      simp [Caller.note, hg.1, hg.2, hearly]

theorem receiveLoaded_obeys {id : UploadSessionId} {uploadOffset contentLength : Int}
    {body : List BodyEvent} {session : UploadSession}
    (hg : g.lease = some id ∧ g.receiving = true) (hid : session.id = id)
    (hearly : session.state ∈ patchStates → g.early = true) :
    Obeys S.leasedProtocol (fun _ _ => True)
      (outcome .snapshot (receiveLoaded session uploadOffset contentLength body)) g := by
  by_cases hopen : session.state = .created ∨ session.state = .receiving
  · have hstate : session.state ∈ patchStates := by
      obtain hs | hs := hopen <;> rw [hs] <;> decide
    have hissues : Issues (answersWith fun session => session.id = id → session.state ∈ patchStates)
        (allowedFor (· ∈ patchStates)
        (owns (some id))) (fun _ => True)
        (outcome .snapshot (receiveLoaded session uploadOffset contentLength body)) :=
      issues_leased (issues_receiveLoaded (fun _ hid h => h hid) (by decide) hid)
    refine (Issues.obeys (J := fun g : Caller => g.lease = some id ∧ g.early = true) ?_ ?_ ?_ hissues
      ⟨hg.1, hearly hstate⟩).mono fun _ _ _ => trivial
    · intro g w e r hJ
      exact ⟨(g.note_lease w e r).trans hJ.1, Caller.note_early w e r hJ.2⟩
    · rintro g m e w a hJ ⟨-, hw, hT⟩ hr
      refine exec_answers hw.1.load (fun k found he hrow hk => ?_) hr
      obtain ⟨own, row, hlease, hrow', hstate'⟩ := hT hJ.2
      rw [hJ.1] at hlease
      cases hlease
      rw [← session?_id hrow, hk, hrow'] at hrow
      cases hrow
      exact hstate'
    · intro g e hJ he
      show allowedFor g.failsFrom (owns g.lease) e
      rw [hJ.1]
      refine allowedFor_mono (fun state h => ?_) he
      simpa [Caller.failsFrom, hJ.2] using h
  · have hshut : session.state ≠ .created ∧ session.state ≠ .receiving := not_or.mp hopen
    exact (receiving_obeys (issues_leased (issues_receiveLoaded_shut hid hshut)) hg).mono
      fun _ _ _ => trivial

/-- In front of the load nothing is written. -/
theorem receiving_bind {id : UploadSessionId} {α : Type} {Q : α → Prop} {p : UploadProgram α}
    {f : α → UploadProgram UploadOutcome}
    (hp : Issues (answersWith fun _ => True) (allowedFor (fun _ => False) (owns (some id))) Q p)
    (hg : g.lease = some id ∧ g.receiving = true)
    (hf : ∀ a (g' : Caller), g'.lease = some id ∧ g'.receiving = true →
      Obeys S.leasedProtocol (fun _ _ => True) (f a) g') :
    Obeys S.leasedProtocol (fun _ _ => True) (p >>= f) g := by
  refine Obeys.bind ((receiving_obeys hp hg).mono fun g' r hr => ?_)
  cases r with
  | ok a => exact hf a g' hr.1
  | error x => trivial

theorem receiveChunk_obeys {id : UploadSessionId} {uploadOffset contentLength : Int}
    {body : List BodyEvent} (hg : g.lease = some id ∧ g.receiving = true) :
    Obeys S.leasedProtocol (fun _ _ => True)
      (outcome .snapshot (S.receiveChunk id uploadOffset contentLength body)) g := by
  unfold outcome receiveChunk
  simp only [Program.bind_assoc]
  refine receiving_bind issues_requireStorage hg fun _ _ h₁ =>
    receiving_bind (issues_demand _ _) h₁ fun _ _ h₂ =>
    receiving_bind (issues_demand _ _) h₂ fun _ _ h₃ =>
    receiving_bind (issues_demand _ _) h₃ fun _ _ h₄ =>
    receiving_bind (issues_ensureSpace _) h₄ fun _ _ h₅ => ?_
  exact load_obeys h₅ (fun _ _ => trivial) fun session g' hg' hid hearly =>
    receiveLoaded_obeys hg' hid hearly

theorem leased_obey (c : UploadCall) :
    Obeys S.leasedProtocol (fun _ _ => True) (S.program c) c.caller := by
  cases hc : c.isReceive with
  | true =>
    cases c with
    | receiveChunk id uploadOffset contentLength body => exact receiveChunk_obeys ⟨rfl, rfl⟩
    | _ => cases hc
  | false =>
    refine (Issues.obeys (J := fun g : Caller => g = c.caller) ?_ ?_ ?_
      (issues_program (A := fun _ => True) (F := (· ≠ .publishPending)) c hc (by decide)
        (by decide) (by decide)) rfl).mono fun _ _ _ => trivial
    · rintro g w e r rfl
      have hreceiving : c.caller.receiving = false := hc
      show c.caller.note w e r = c.caller
      unfold Caller.note
      split <;> simp [hreceiving]
    · rintro g m e w a - ⟨-, hw, -⟩ hr
      exact exec_answers hw.1.load (fun _ _ _ _ => trivial) hr
    · rintro g e rfl he
      refine allowedFor_mono (fun state h => ?_) he
      simpa [Caller.failsFrom, UploadCall.caller] using h

end UploadServices
end FrameNest.Uploads
