import FrameNest.Research.Runs

/-! Admissions racing for one client request: one request, one hold, one receipt that
says it is new, and conflicts that are told. -/
namespace FrameNest.Research
open Relational Concurrent Sample

/-- What no later write of a request changes. -/
structure RequestIdentity where
  operationId : String
  ownerLoginKey : String
  clientRequestId : String
  requestFingerprint : String
  kind : ResearchOperationKind
  prompt : String
  configurationVersion : String
deriving DecidableEq

def ResearchRequestRow.identity (row : ResearchRequestRow) : RequestIdentity where
  operationId := row.operationId
  ownerLoginKey := row.ownerLoginKey
  clientRequestId := row.clientRequestId
  requestFingerprint := row.requestFingerprint
  kind := row.record.kind
  prompt := row.record.prompt
  configurationVersion := row.record.profile.configurationVersion

/-- Operation ids are drawn fresh: 128 random bits. -/
def freshIds (_ : Memory) (env : Env) (e : Effect) (s : ResearchState) : Prop :=
  match e with
  | .newOperationId => env.operationId ∉ s.issued
  | _ => True

instance (g : Memory) (env : Env) (e : Effect) (s : ResearchState) :
    Decidable (freshIds g env e s) := by
  unfold freshIds
  split <;> infer_instance

/-- The stored request is of version 2 and was asked for with another kind, prompt or
consent, and SHA-256 tells the two texts apart. -/
def ResearchRuntime.Differs (rt : ResearchRuntime) (row : ResearchRequestRow)
    (kind : ResearchOperationKind) (prompt consent : String) : Prop :=
  row.record.profile.configurationVersion ≠ legacyResearchProfileVersion ∧ ∃ consent₀,
    row.requestFingerprint =
      rt.fingerprint row.ownerLoginKey row.record.kind row.record.prompt consent₀ ∧
    ¬ (kind = row.record.kind ∧ prompt = row.record.prompt ∧ consent = consent₀) ∧
    (rt.fingerprint row.ownerLoginKey row.record.kind row.record.prompt consent₀ =
        rt.fingerprint row.ownerLoginKey kind prompt consent →
      (fingerprintPayload row.ownerLoginKey row.record.kind row.record.prompt consent₀).dumps =
        (fingerprintPayload row.ownerLoginKey kind prompt consent).dumps)

theorem differs_fingerprint {rt : ResearchRuntime} {row : ResearchRequestRow}
    {kind : ResearchOperationKind} {prompt consent : String} (h : rt.Differs row kind prompt consent) :
    row.requestFingerprint ≠ rt.fingerprint row.ownerLoginKey kind prompt consent := by
  obtain ⟨-, consent₀, hfp, hother, hsha⟩ := h
  intro hsame
  obtain ⟨-, hkind, hprompt, hconsent⟩ := fingerprintPayload_injective (hsha (hfp.symm.trans hsame))
  exact hother ⟨hkind.symm, hprompt.symm, hconsent.symm⟩

theorem differs_noReplay {rt : ResearchRuntime} {row : ResearchRequestRow}
    {kind : ResearchOperationKind} {prompt consent : String} (h : rt.Differs row kind prompt consent) :
    rt.replayMatches row row.ownerLoginKey kind prompt consent = false := by
  have hfp := differs_fingerprint h
  have hversion := h.1
  unfold ResearchRuntime.replayMatches
  simp [hversion, hfp]

abbrev Caller := Thread Effect Effect.Result Failure Memory CallResult

/-- An admission of this client request that has returned. -/
def Receives (t : Caller) (ownerLoginKey clientRequestId : String)
    (receipt : ResearchAdmissionReceipt) : Prop :=
  (∃ kind prompt consent,
    t.memory.call = .admitResearch ownerLoginKey clientRequestId kind prompt consent) ∧
    t.program = .done (.receipt receipt)

/- The two effects of an admission that meet the request stored for its client. -/
def Effect.meets : Effect → Bool
  | .findByClient _ _ | .admitRow _ _ => true
  | _ => false

/-- Idempotent admission, in one state of a deployment. -/
structure ResearchRuntime.Idempotent (rt : ResearchRuntime) (mayCrash : Bool) (w : Deployment) :
    Prop where
  one_request : ∀ row ∈ w.state.requests.rows, ∀ row' ∈ w.state.requests.rows,
    row.ownerLoginKey = row'.ownerLoginKey → row.clientRequestId = row'.clientRequestId → row = row'
  one_hold : ∀ row ∈ w.state.requests.rows, ∃ hold ∈ w.state.holds.rows,
    hold.operationId = row.operationId ∧
      ∀ other ∈ w.state.holds.rows, other.operationId = row.operationId → other = hold
  no_other_hold : ∀ hold ∈ w.state.holds.rows, ∃ row ∈ w.state.requests.rows,
    row.operationId = hold.operationId
  same_request : ∀ t ∈ w.threads, ∀ owner client receipt, Receives t owner client receipt →
    ∃ row ∈ w.state.requests.rows, row.ownerLoginKey = owner ∧ row.clientRequestId = client ∧
      receipt.row.identity = row.identity
  one_new : ∀ (m n : Nat) t t' owner client receipt receipt', w.threads[m]? = some t →
    w.threads[n]? = some t' → Receives t owner client receipt → Receives t' owner client receipt' →
    receipt.newlyAdmitted = true → receipt'.newlyAdmitted = true → m = n
  some_new : mayCrash = false → ∀ t ∈ w.threads, ∀ owner client receipt,
    Receives t owner client receipt →
    ∃ t' ∈ w.threads, ∃ receipt', Receives t' owner client receipt' ∧ receipt'.newlyAdmitted = true
  conflict : ∀ t ∈ w.threads, ∀ owner client kind prompt consent,
    t.memory.call = .admitResearch owner client kind prompt consent →
    ∀ row ∈ w.state.requests.rows, row.ownerLoginKey = owner → row.clientRequestId = client →
    rt.Differs row kind prompt consent →
      (∀ receipt, t.program ≠ .done (.receipt receipt)) ∧
      ∀ env e next, t.program = .call e next → e.meets = true → env.fault = false →
        next (rt.exec env e w.state).1 = .fail (.store .idempotencyConflict)
  refused : ∀ t ∈ w.threads, ∀ owner client kind prompt consent,
    t.memory.call = .admitResearch owner client kind prompt consent →
    ∀ env e next, t.program = .call e next → SameTables w.state (rt.exec env e w.state).2 ∨
      ∃ receipt, next (rt.exec env e w.state).1 = .done (.receipt receipt)

section Steps
variable {rt : ResearchRuntime} {g : Memory} {env : Env} {e : Effect} {s s' : ResearchState}

theorem findByClient_some {owner client : String} {row : ResearchRequestRow}
    (h : s.findByClient owner client = some row) : s.request? row.operationId = some row ∧
      row.ownerLoginKey = owner ∧ row.clientRequestId = client := by
  have hkey := List.find?_some h
  rw [Bool.and_eq_true, decide_eq_true_eq, decide_eq_true_eq] at hkey
  exact ⟨Table.mem_find? (List.mem_of_find?_eq_some h), hkey⟩

theorem findByClient_none {owner client : String} (h : s.findByClient owner client = none)
    {row : ResearchRequestRow} (hrow : row ∈ s.requests.rows) (howner : row.ownerLoginKey = owner) :
    row.clientRequestId ≠ client := by
  have hnot := List.find?_eq_none.mp h row hrow
  simpa [howner] using hnot

/-- A stored request keeps its identity. -/
theorem answered_identity {r : Except Failure e.Result} (h : Answered rt.casefold s e r s')
    {op : String} {stored : ResearchRequestRow} (hst : s.request? op = some stored) :
    ∃ row, s'.request? op = some row ∧ row.identity = stored.identity := by
  obtain h | ⟨row, -, -, h⟩ | ⟨nowMs, -, -, h⟩ | ⟨c, recordId, nowMs, -, -, -, h⟩ :=
    answered_request h hst
  · exact ⟨stored, h, rfl⟩
  · exact ⟨_, h, rfl⟩
  · exact ⟨_, h, rfl⟩
  · exact ⟨_, h, rfl⟩

/-- The tables of an admission: a client request is stored once, under the fingerprint of
what was asked, and a hold has its request. -/
structure Registered (rt : ResearchRuntime) (s : ResearchState) : Prop where
  client : ∀ row ∈ s.requests.rows, ∀ row' ∈ s.requests.rows,
    row.ownerLoginKey = row'.ownerLoginKey → row.clientRequestId = row'.clientRequestId → row = row'
  requested : ∀ hold ∈ s.holds.rows, ∃ row, s.request? hold.operationId = some row

theorem registered_step (h : Registered rt s) : Registered rt (rt.exec env e s).2 := by
  have hans := exec_answered rt env e s
  revert hans
  generalize (rt.exec env e s).1 = r
  generalize (rt.exec env e s).2 = s'
  intro hans
  -- a row of the new table keeps the identity of an old one, or no old one has its client
  have hcase : ∀ row ∈ s'.requests.rows,
      (∃ stored ∈ s.requests.rows, stored.identity = row.identity) ∨
      ∃ admitted reservation, e = .admitRow admitted reservation ∧ row = admitted.persisted ∧
        ∀ stored ∈ s.requests.rows, stored.ownerLoginKey = row.ownerLoginKey →
          stored.clientRequestId ≠ row.clientRequestId := by
    intro row hrow
    have hfound := Table.mem_find? hrow
    cases hst : s.request? row.operationId with
    | some stored =>
      obtain ⟨row', hrow', hid⟩ := answered_identity hans hst
      cases hfound.symm.trans hrow'
      exact Or.inl ⟨stored, Table.find?_mem hst, hid.symm⟩
    | none =>
      obtain ⟨admitted, reservation, he, -, heq, hnone⟩ := answered_new hans hst hfound
      refine Or.inr ⟨admitted, reservation, he, heq, fun stored hstored howner => ?_⟩
      rw [heq] at howner ⊢
      exact findByClient_none hnone hstored howner
  refine ⟨fun row hrow row' hrow' howner hclient => ?_, fun hold hhold => ?_⟩
  · obtain ⟨stored, hst, hid⟩ | ⟨admitted, reservation, he, heq, hnew⟩ := hcase row hrow
    · have howner₁ := congrArg RequestIdentity.ownerLoginKey hid
      have hclient₁ := congrArg RequestIdentity.clientRequestId hid
      obtain ⟨stored', hst', hid'⟩ | ⟨admitted', reservation', -, -, hnew'⟩ := hcase row' hrow'
      · have hsame := h.client stored hst stored' hst'
          (howner₁.trans (howner.trans (congrArg RequestIdentity.ownerLoginKey hid').symm))
          (hclient₁.trans (hclient.trans (congrArg RequestIdentity.clientRequestId hid').symm))
        rw [hsame] at hid
        exact Table.eq_of_key hrow hrow' (congrArg RequestIdentity.operationId (hid.symm.trans hid'))
      · exact absurd (hclient₁.trans hclient) (hnew' stored hst (howner₁.trans howner))
    · obtain ⟨stored', hst', hid'⟩ | ⟨admitted', reservation', he', heq', -⟩ := hcase row' hrow'
      · have howner' := (congrArg RequestIdentity.ownerLoginKey hid').trans howner.symm
        have hclient' := (congrArg RequestIdentity.clientRequestId hid').trans hclient.symm
        exact absurd hclient' (hnew stored' hst' howner')
      · cases he.symm.trans he'
        rw [heq, heq']
  · have hkept : (∃ old ∈ s.holds.rows, old.operationId = hold.operationId) →
        ∃ row, s'.request? hold.operationId = some row := by
      rintro ⟨old, hold', hop⟩
      obtain ⟨stored, hst⟩ := h.requested old hold'
      obtain ⟨row, hrow, -⟩ := answered_identity hans hst
      exact ⟨row, hop ▸ hrow⟩
    cases hans with
    | failed e x s' hsame => exact hkept ⟨hold, hsame.holds ▸ hhold, rfl⟩
    | plain e a s' hp hsame => exact hkept ⟨hold, hsame.holds ▸ hhold, rfl⟩
    | admitted row reservation requests holds newHold hf hslot hop hres hi hu hr hh =>
      obtain ⟨dayKey, monthKey, -, -, -, -, hins⟩ := reserveHold_ok hh
      obtain hold | rfl := (Table.mem_insert hins).mp hhold
      · exact hkept ⟨_, hold, rfl⟩
      · refine ⟨row.persisted, ?_⟩
        show requests.find? reservation.operationId = some row.persisted
        rw [hop, request?_insert hr, if_pos rfl]
    | reconciled r nowMs newHold holds hrec =>
      obtain ⟨found, -, ⟨-, rfl⟩ | ⟨-, -, hst, rfl⟩⟩ := reconcileHold_ok hrec
      · exact hkept ⟨hold, hhold, rfl⟩
      · have hhold : hold ∈ (s.holds.update r.operationId (fun row =>
            row.settle r.state hst (r.accounted row.reservedUsdMicros) nowMs) fun _ => rfl).rows :=
          hhold
        obtain ⟨hmem, -⟩ | ⟨old, hmem, -, rfl⟩ := Table.mem_update hhold
        · exact hkept ⟨hold, hmem, rfl⟩
        · exact hkept ⟨old, hmem, rfl⟩
    | _ => exact hkept ⟨hold, hhold, rfl⟩

/-- A row an admission was told of: it stands in the tables, under the client it asks for. -/
structure Known (g : Memory) (s : ResearchState) (row : ResearchRequestRow) : Prop where
  stored : ∃ stored, s.request? row.operationId = some stored ∧ stored.identity = row.identity
  asked : ∃ kind prompt consent,
    g.call = .admitResearch row.ownerLoginKey row.clientRequestId kind prompt consent

structure Admitting (rt : ResearchRuntime) (g : Memory) (s : ResearchState) : Prop where
  drawn : ∀ op, g.drawn = some op → op ∈ s.issued
  found : ∀ existing, g.found = some (some existing) → Known g s existing
  granted : ∀ stored, g.granted = some stored → Known g s stored ∧
    ∀ owner client kind prompt consent, g.call = .admitResearch owner client kind prompt consent →
      stored.requestFingerprint = rt.fingerprint owner kind prompt consent

theorem admissionReservation?_some {record : ResearchRequestRecord}
    {snapshot : ResearchSelectionSnapshot} {reservation : BudgetReservation}
    (h : admissionReservation? record snapshot = some reservation) :
    reservation.operationId = record.operationId ∧
      reservation.reservedUsdMicros = record.profile.budgetReservationUsdMicros := by
  unfold admissionReservation? at h
  split at h
  · cases h
    exact ⟨rfl, rfl⟩
  · cases h

/- No two admissions have drawn one operation id. -/
def Memory.drawnApart (g g' : Memory) : Prop := ∀ op, g.drawn = some op → g'.drawn ≠ some op

theorem Known.step {row : ResearchRequestRow} (h : Known g s row) :
    Known g (rt.exec env e s).2 row := by
  obtain ⟨stored, hst, hid⟩ := h.stored
  obtain ⟨stored', hst', hid'⟩ := answered_identity (exec_answered rt env e s) hst
  exact ⟨⟨stored', hst', hid'.trans hid⟩, h.asked⟩

theorem admitting_step (h : Admitting rt g s) {e : Effect} : Admitting rt g (rt.exec env e s).2 where
  drawn op hop := by
    rw [(exec_logs rt env e s).2]
    exact List.mem_append_left _ (h.drawn op hop)
  found existing hf := (h.found existing hf).step
  granted stored hg := ⟨(h.granted stored hg).1.step, (h.granted stored hg).2⟩

theorem note_drawn {op : String} (h : (g.note s e (rt.exec env e s).1).drawn = some op) :
    g.drawn = some op ∨ (e = .newOperationId ∧ env.operationId = op) := by
  cases e with
  | newOperationId => exact Or.inr ⟨rfl, Option.some.inj h⟩
  | _ =>
    left
    rw [← h]
    unfold Memory.note
    split <;> first | rfl | contradiction

theorem note_found {r : Except Failure e.Result} (h : Answered rt.casefold s e r s')
    {existing : ResearchRequestRow} (hf : (g.note s e r).found = some (some existing)) :
    g.found = some (some existing) ∨ ∃ owner client, e = .findByClient owner client ∧
      s.findByClient owner client = some existing ∧ s' = s := by
  cases h with
  | failed e x s' h => cases e <;> exact Or.inl hf
  | plain e a s' hp h => cases e <;> first | exact Or.inl hf | cases hp
  | blocker =>
    left
    cases hb : s.blocker with
    | none => rw [hb] at hf; exact hf
    | some code => rw [hb] at hf; exact hf
  | byClient owner client => exact Or.inr ⟨owner, client, rfl, Option.some.inj hf, rfl⟩
  | request op =>
    left
    cases hr : s.request? op with
    | none => rw [hr] at hf; exact hf
    | some row => rw [hr] at hf; exact hf
  | _ => exact Or.inl hf

theorem note_granted {r : Except Failure e.Result} (h : Answered rt.casefold s e r s')
    {stored : ResearchRequestRow} (hg : (g.note s e r).granted = some stored) :
    g.granted = some stored ∨ ∃ row reservation, e = .admitRow row reservation ∧
      stored.ownerLoginKey = row.ownerLoginKey ∧ stored.clientRequestId = row.clientRequestId ∧
      stored.requestFingerprint = row.requestFingerprint ∧
      ∃ found, s'.request? stored.operationId = some found ∧ found.identity = stored.identity := by
  cases h with
  | failed e x s' h => cases e <;> exact Or.inl hg
  | plain e a s' hp h => cases e <;> first | exact Or.inl hg | cases hp
  | blocker =>
    left
    cases hb : s.blocker with
    | none => rw [hb] at hg; exact hg
    | some code => rw [hb] at hg; exact hg
  | request op =>
    left
    cases hr : s.request? op with
    | none => rw [hr] at hg; exact hg
    | some row => rw [hr] at hg; exact hg
  | replayed row existing reservation hf hfp =>
    cases hg
    obtain ⟨hst, howner, hclient⟩ := findByClient_some hf
    exact Or.inr ⟨row, reservation, rfl, howner, hclient, hfp, stored, hst, rfl⟩
  | admitted row reservation requests holds hold hf hslot hop hres hi hu hr hh =>
    cases hg
    refine Or.inr ⟨stored, reservation, rfl, rfl, rfl, rfl, stored.persisted, ?_, rfl⟩
    exact (request?_insert hr stored.operationId).trans (if_pos rfl)
  | _ => exact Or.inl hg

theorem admitAllowed_asked {row : ResearchRequestRow} {reservation : BudgetReservation}
    (h : rt.AdmitAllowed g row reservation) : ∃ kind prompt consent,
      g.call = .admitResearch row.ownerLoginKey row.clientRequestId kind prompt consent ∧
      row.requestFingerprint = rt.fingerprint row.ownerLoginKey kind prompt consent := by
  obtain ⟨owner, client, kind, prompt, consent, snapshot, record, nowMs, hcall, -, -, -, -, -, hrow,
    -⟩ := h
  subst hrow
  exact ⟨kind, prompt, consent, hcall, rfl⟩

theorem admitting_own (hm : rt.may g e) (h : Admitting rt g s) :
    Admitting rt (g.note s e (rt.exec env e s).1) (rt.exec env e s).2 := by
  have hans := exec_answered rt env e s
  have hstep : Admitting rt g (rt.exec env e s).2 := admitting_step h
  have hcall : ∀ row, Known g (rt.exec env e s).2 row →
      Known (g.note s e (rt.exec env e s).1) (rt.exec env e s).2 row := fun row hk =>
    ⟨hk.stored, by rw [Memory.note_call]; exact hk.asked⟩
  refine ⟨fun op hop => ?_, fun existing hf => ?_, fun stored hg => ?_⟩
  · obtain hold | ⟨rfl, rfl⟩ := note_drawn hop
    · exact hstep.drawn op hold
    · rw [(exec_logs rt env .newOperationId s).2]
      exact List.mem_append_right _ (List.mem_singleton.mpr rfl)
  · obtain hold | ⟨owner, client, rfl, hfind, hsame⟩ := note_found hans hf
    · exact hcall existing (hstep.found existing hold)
    · obtain ⟨hst, howner, hclient⟩ := findByClient_some hfind
      refine hcall existing ⟨⟨existing, by rw [hsame]; exact hst, rfl⟩, ?_⟩
      rw [howner, hclient]
      exact hm
  · obtain hold | ⟨row, reservation, rfl, howner, hclient, hfp, found, hfound, hid⟩ :=
      note_granted hans hg
    · refine ⟨hcall stored (hstep.granted stored hold).1, fun owner client kind prompt consent hc => ?_⟩
      rw [Memory.note_call] at hc
      exact (hstep.granted stored hold).2 owner client kind prompt consent hc
    · obtain ⟨hadm⟩ := hm
      obtain ⟨kind, prompt, consent, hasked, hprint⟩ := admitAllowed_asked hadm
      refine ⟨hcall stored ⟨⟨found, hfound, hid⟩, kind, prompt, consent, ?_⟩,
        fun owner client kind' prompt' consent' hc => ?_⟩
      · rw [howner, hclient]
        exact hasked
      · rw [Memory.note_call, hasked] at hc
        cases hc
        exact hfp.trans hprint

theorem drawnApart_own {g' : Memory} (hp : freshIds g env e s) (hg' : Admitting rt g' s)
    (h : g.drawnApart g') : (g.note s e (rt.exec env e s).1).drawnApart g' := by
  intro op hop hop'
  obtain hold | ⟨rfl, rfl⟩ := note_drawn hop
  · exact h op hold hop'
  · exact hp (hg'.drawn _ hop')

end Steps

theorem admission_interference (rt : ResearchRuntime) (mayCrash : Bool) :
    Interference ((rt.system freshIds mayCrash).withMay rt.mayStrictly)
      (fun s => Consistent s ∧ Registered rt s) (fun g s => Coherent g s ∧ Admitting rt g s)
      Memory.drawnApart := by
  have hstart : ∀ c s, Admitting rt { call := c } s := fun c s =>
    { drawn := fun _ h => nomatch h
      found := fun _ h => nomatch h
      granted := fun _ h => nomatch h }
  have hbase := ((system_interference rt freshIds mayCrash).and (fun c s _ _ => hstart c s)
    (fun g env e s _ _ hs _ _ _ => registered_step hs)
    (fun g env e s _ _ _ hg hm _ => admitting_own hm hg)
    (fun g g' env e s _ _ _ _ _ hg' _ _ _ => admitting_step hg'))
  refine (hbase.relate (A := Memory.drawnApart) (fun _ _ _ => trivial)
    (fun g g' h op hop hop' => h op hop' hop) (fun c g op hop => nomatch hop) ?_).withMay
    fun g e h => h.1
  exact fun g g' env e s _ _ hg' h _ hp => drawnApart_own hp hg'.2 h

theorem registered_empty (rt : ResearchRuntime) : Registered rt .empty where
  client _ h := nomatch h
  requested _ h := nomatch h

section Worlds
variable {rt : ResearchRuntime} {mayCrash : Bool} {w w' : Deployment}

abbrev Settled (rt : ResearchRuntime) (mayCrash : Bool) : Deployment → Prop :=
  Sound ((rt.system freshIds mayCrash).withMay rt.mayStrictly) rt.outcome
    (fun s => Consistent s ∧ Registered rt s) (fun g s => Coherent g s ∧ Admitting rt g s)
    Memory.drawnApart

theorem admission_sound (h : Reachable (rt.system freshIds mayCrash) .empty w) :
    Settled rt mayCrash w :=
  (h.withMay rt.mayStrictly).sound (admission_interference rt mayCrash)
    (program_obeys_strictly rt freshIds) ⟨consistent_empty, registered_empty rt⟩

/-- An admission that has its answer has ended. -/
theorem admission_ended {permits : Memory → Env → Effect → ResearchState → Prop}
    {p : Coordinator CallResult} {g : Memory} {owner client prompt consent : String}
    {kind : ResearchOperationKind}
    (hO : Obeys ((rt.protocol permits).withMay rt.mayStrictly) rt.outcome p g)
    (hcall : g.call = .admitResearch owner client kind prompt consent)
    (hans : g.granted ≠ none ∨ g.refused ≠ none ∨ ∃ existing, g.found = some (some existing)) :
    (∃ receipt, p = .done (.receipt receipt) ∧
      rt.admitOutcome g owner kind prompt consent (.ok (.receipt receipt))) ∨
    ∃ x, p = .fail x ∧ rt.admitOutcome g owner kind prompt consent (.error x) := by
  cases p with
  | done a =>
    have hout : rt.outcome g (.ok a) := hO
    simp only [ResearchRuntime.outcome, hcall] at hout
    cases a with
    | receipt receipt => exact Or.inl ⟨receipt, rfl, hout⟩
    | _ => exact absurd hout id
  | fail x =>
    have hout : rt.outcome g (.error x) := hO
    simp only [ResearchRuntime.outcome, hcall] at hout
    exact Or.inr ⟨x, rfl, hout⟩
  | call e next =>
    obtain ⟨-, hgranted, hrefused, hfound⟩ := hO.1.2 owner client kind prompt consent hcall
    obtain h | h | ⟨existing, h⟩ := hans
    · exact absurd hgranted h
    · exact absurd hrefused h
    · exact absurd h (hfound existing)

/- What an admission does next, whatever its last call was answered. -/
theorem admission_next (hw : Settled rt mayCrash w) {t : Caller} (ht : t ∈ w.threads) {e : Effect}
    {next : Except Failure e.Result → Coordinator CallResult} (hprogram : t.program = .call e next)
    (env : Env) (hp : freshIds t.memory env e w.state) :
    rt.mayStrictly t.memory e ∧ Obeys ((rt.protocol freshIds).withMay rt.mayStrictly) rt.outcome
      (next (rt.exec env e w.state).1) (t.memory.note w.state e (rt.exec env e w.state).1) := by
  obtain ⟨-, hO⟩ := hw.threads t ht
  rw [hprogram] at hO
  exact ⟨hO.1, hO.2 env w.state hp⟩

/- The admission that stored the request `op`. -/
def Memory.inserted (g : Memory) (op : String) : Prop :=
  g.drawn = some op ∧ ∃ stored, g.granted = some stored ∧ stored.operationId = op

theorem note_inserted {g : Memory} {s s' : ResearchState} {e : Effect} {r : Except Failure e.Result}
    (h : Answered rt.casefold s e r s') (hm : rt.may g e) {op : String} {row : ResearchRequestRow}
    (hnone : s.request? op = none) (hrow : s'.request? op = some row) :
    (g.note s e r).inserted op := by
  obtain ⟨admitted, reservation, rfl, rfl, -, -⟩ := answered_new h hnone hrow
  obtain ⟨hadm⟩ := hm
  have hdrawn : g.drawn = some admitted.operationId := by
    rw [hadm.drawn, congrArg ResearchRequestRow.operationId hadm.row_eq]
    rfl
  cases h with
  | failed e x s' h =>
    rw [h.request?, hnone] at hrow
    cases hrow
  | plain e a s' hp h => cases hp
  | replayed row existing reservation hf hfp =>
    rw [hnone] at hrow
    cases hrow
  | admitted row reservation requests holds hold hf hslot hop hres hi hu hr hh =>
    exact ⟨hdrawn, admitted, rfl, rfl⟩

/- Without crashes every stored request has the admission that stored it. -/
def Held (w : Deployment) : Prop :=
  ∀ op row, w.state.request? op = some row → ∃ t ∈ w.threads, t.memory.inserted op

theorem held_step (hw : Settled rt false w) (h : Step (rt.system freshIds false) w w')
    (hh : Held w) : Held w' := by
  intro op row hrow
  cases h with
  | start c hs =>
    obtain ⟨t, ht, hins⟩ := hh op row hrow
    exact ⟨t, List.mem_append_left _ ht, hins⟩
  | call n env g e next hn hp =>
    obtain ⟨⟨-, hadmitting⟩, hO⟩ := hw.threads _ (List.mem_of_getElem? hn)
    have hplace : n < w.threads.length := (List.getElem?_eq_some_iff.mp hn).1
    cases hst : w.state.request? op with
    | none =>
      refine ⟨_, List.mem_iff_getElem?.mpr ⟨n, List.getElem?_set_self hplace⟩, ?_⟩
      exact note_inserted (exec_answered rt env e w.state) hO.1.1 hst hrow
    | some stored =>
      obtain ⟨t, ht, hins⟩ := hh op stored hst
      obtain ⟨m, hm⟩ := List.mem_iff_getElem?.mp ht
      by_cases hnm : n = m
      · -- the one that stored it has ended, so it is not the caller
        subst hnm
        cases hn.symm.trans hm
        obtain ⟨-, granted, hgranted, -⟩ := hins
        obtain ⟨⟨-, kind, prompt, consent, hcall⟩, -⟩ := hadmitting.granted granted hgranted
        have hnone := (hO.1.2 _ _ _ _ _ hcall).2.1
        rw [hgranted] at hnone
        cases hnone
      · refine ⟨t, List.mem_iff_getElem?.mpr ⟨m, ?_⟩, hins⟩
        rw [List.getElem?_set, if_neg hnm]
        exact hm
  | crash hc => cases hc

theorem held_reachable (h : Reachable (rt.system freshIds false) .empty w) : Held w := by
  induction h with
  | refl => exact fun op row hrow => nomatch hrow
  | tail hsteps hstep ih => exact held_step (admission_sound hsteps) hstep ih

/-- What an admission that has returned was told: the request stored for its client. -/
theorem receives_stored (hw : Settled rt mayCrash w) {t : Caller} (ht : t ∈ w.threads)
    {owner client : String} {receipt : ResearchAdmissionReceipt} (h : Receives t owner client receipt) :
    ∃ row ∈ w.state.requests.rows, row.ownerLoginKey = owner ∧ row.clientRequestId = client ∧
      receipt.row.identity = row.identity ∧
      (receipt.newlyAdmitted = true → t.memory.inserted row.operationId) := by
  obtain ⟨⟨kind, prompt, consent, hcall⟩, hdone⟩ := h
  obtain ⟨⟨-, hadmitting⟩, hO⟩ := hw.threads t ht
  rw [hdone] at hO
  have hout : rt.outcome t.memory (.ok (.receipt receipt)) := hO
  simp only [ResearchRuntime.outcome, hcall] at hout
  have hrow : ∀ told : ResearchRequestRow, Known t.memory w.state told → ∃ row ∈ w.state.requests.rows,
      row.ownerLoginKey = owner ∧ row.clientRequestId = client ∧ told.identity = row.identity := by
    intro told hknown
    obtain ⟨⟨row, hfound, hid⟩, kind', prompt', consent', hcall'⟩ := hknown
    rw [hcall] at hcall'
    cases hcall'
    exact ⟨row, Table.find?_mem hfound, congrArg RequestIdentity.ownerLoginKey hid,
      congrArg RequestIdentity.clientRequestId hid, hid.symm⟩
  obtain ⟨existing, hfound, -, rfl, -⟩ | ⟨stored, operationId, -, hgranted, hdrawn, rfl⟩ := hout
  · obtain ⟨row, hmem, howner, hclient, hid⟩ := hrow existing (hadmitting.found existing hfound)
    exact ⟨row, hmem, howner, hclient, hid, fun h => by cases h⟩
  · obtain ⟨row, hmem, howner, hclient, hid⟩ := hrow stored (hadmitting.granted stored hgranted).1
    refine ⟨row, hmem, howner, hclient, hid, fun hnew => ?_⟩
    have hop : stored.operationId = operationId := by
      simp only [Bool.and_eq_true, decide_eq_true_eq] at hnew
      exact hnew.1
    have hkey : stored.operationId = row.operationId := congrArg RequestIdentity.operationId hid
    exact ⟨by rw [hdrawn, ← hop, hkey], stored, hgranted, hkey⟩

/-- The admission that stored a request has returned, and calls it new. -/
theorem inserted_receives (hw : Settled rt mayCrash w) {t : Caller} (ht : t ∈ w.threads)
    {row : ResearchRequestRow} (hrow : row ∈ w.state.requests.rows)
    (h : t.memory.inserted row.operationId) : ∃ receipt,
      Receives t row.ownerLoginKey row.clientRequestId receipt ∧ receipt.newlyAdmitted = true := by
  obtain ⟨hdrawn, stored, hgranted, hop⟩ := h
  obtain ⟨⟨-, hadmitting⟩, hO⟩ := hw.threads t ht
  obtain ⟨⟨⟨found, hfound, hid⟩, kind, prompt, consent, hcall⟩, hfp⟩ :=
    hadmitting.granted stored hgranted
  rw [hop, show w.state.request? row.operationId = some row from Table.mem_find? hrow] at hfound
  cases hfound
  have howner : row.ownerLoginKey = stored.ownerLoginKey := congrArg RequestIdentity.ownerLoginKey hid
  have hclient : row.clientRequestId = stored.clientRequestId :=
    congrArg RequestIdentity.clientRequestId hid
  rw [← howner, ← hclient] at hcall
  obtain ⟨receipt, hdone, hout⟩ | ⟨x, -, hnone, -⟩ := admission_ended hO hcall (Or.inl (by simp [hgranted]))
  · obtain ⟨existing, -, hnone, -⟩ | ⟨stored', operationId, -, hgranted', hdrawn', rfl⟩ := hout
    · rw [hgranted] at hnone
      cases hnone
    · cases hgranted.symm.trans hgranted'
      cases hdrawn.symm.trans hdrawn'
      refine ⟨_, ⟨⟨kind, prompt, consent, hcall⟩, hdone⟩, ?_⟩
      have hprint := hfp _ _ _ _ _ hcall
      simp [hop, hprint]
  · rw [hgranted] at hnone
    cases hnone

/-- A client's admission that differs from the stored request is told so wherever it
meets it. -/
theorem differing_conflicts (hw : Settled rt mayCrash w) {t : Caller} (ht : t ∈ w.threads)
    {owner client prompt consent : String} {kind : ResearchOperationKind}
    (hcall : t.memory.call = .admitResearch owner client kind prompt consent)
    {row : ResearchRequestRow} (hrow : row ∈ w.state.requests.rows) (howner : row.ownerLoginKey = owner)
    (hclient : row.clientRequestId = client) (hd : rt.Differs row kind prompt consent) {env : Env}
    {e : Effect} {next : Except Failure e.Result → Coordinator CallResult}
    (hprogram : t.program = .call e next) (hmeets : e.meets = true) (hfault : env.fault = false) :
    next (rt.exec env e w.state).1 = .fail (.store .idempotencyConflict) := by
  have hfind : w.state.findByClient owner client = some row := by
    cases hf : w.state.findByClient owner client with
    | none => exact absurd hclient (findByClient_none hf hrow howner)
    | some existing =>
      obtain ⟨hst, howner', hclient'⟩ := findByClient_some hf
      exact congrArg some (hw.state.2.client existing (Table.find?_mem hst) row hrow
        (howner'.trans howner.symm) (hclient'.trans hclient.symm))
  cases e with
  | findByClient owner' client' =>
    obtain ⟨hm, hnext⟩ := admission_next hw ht hprogram env trivial
    obtain ⟨kind', prompt', consent', hcall'⟩ := hm.1
    cases hcall.symm.trans hcall'
    have hanswer : (rt.exec env (.findByClient owner client) w.state).1 = .ok (some row) := by
      show (env.answer (w.state.findByClient owner client) w.state).1 = _
      rw [hfind, answer_eq hfault]
    have hnote : (Memory.note t.memory w.state (.findByClient owner client)
        (rt.exec env (.findByClient owner client) w.state).1).found = some (some row) := by
      rw [hanswer]
      rfl
    obtain ⟨receipt, -, hout⟩ | ⟨x, hfail, -, hx, -⟩ := admission_ended hnext
      (by rw [← hcall]; exact Memory.note_call _ _ _ _) (Or.inr (Or.inr ⟨row, hnote⟩))
    · obtain ⟨existing, hfound, -, -, hmatch⟩ | ⟨stored, operationId, hfound, -⟩ := hout
      · cases hnote.symm.trans hfound
        have hno := differs_noReplay hd
        rw [howner] at hno
        rw [hno] at hmatch
        cases hmatch
      · cases hnote.symm.trans hfound
    · exact hfail.trans (congrArg Program.fail (hx row hnote))
  | admitRow admitted reservation =>
    obtain ⟨hm, hnext⟩ := admission_next hw ht hprogram env trivial
    obtain ⟨hadm⟩ := hm.1
    obtain ⟨kind', prompt', consent', hcall', hfp⟩ := admitAllowed_asked hadm
    have hreservation := admissionReservation?_some hadm.reservation_eq
    cases hcall.symm.trans hcall'
    have hother : row.requestFingerprint ≠ admitted.requestFingerprint := by
      rw [hfp, ← howner]
      exact differs_fingerprint hd
    have hanswer : (rt.exec env (.admitRow admitted reservation) w.state).1 =
        .error (.store .idempotencyConflict) := by
      have htransact : admitRequest admitted reservation w.state =
          .error (.store .idempotencyConflict) := by
        have hop : reservation.operationId = admitted.operationId := by
          rw [hreservation.1, congrArg ResearchRequestRow.operationId hadm.row_eq]
          rfl
        have hres : reservation.reservedUsdMicros =
            admitted.record.profile.budgetReservationUsdMicros := by
          rw [hreservation.2, congrArg ResearchRequestRow.record hadm.row_eq]
          rfl
        simp only [admitRequest, hop, hres, ne_eq, not_true_eq_false, or_self, if_false]
        rw [hfind]
        simp only [hother, if_false]
      show (env.transact (admitRequest admitted reservation) w.state).1 = _
      simp only [Env.transact, hfault, Bool.false_eq_true, if_false, htransact]
    have hnote : (Memory.note t.memory w.state (.admitRow admitted reservation)
        (rt.exec env (.admitRow admitted reservation) w.state).1).refused =
          some (.store .idempotencyConflict) ∧
        (Memory.note t.memory w.state (.admitRow admitted reservation)
          (rt.exec env (.admitRow admitted reservation) w.state).1).granted = none ∧
        (Memory.note t.memory w.state (.admitRow admitted reservation)
          (rt.exec env (.admitRow admitted reservation) w.state).1).found = some none := by
      rw [hanswer]
      exact ⟨rfl, hadm.fresh.1, hadm.found⟩
    obtain ⟨hrefused, hgranted, hfound⟩ := hnote
    obtain ⟨receipt, -, hout⟩ | ⟨x, hfail, -, -, hx⟩ := admission_ended hnext
      (by rw [← hcall]; exact Memory.note_call _ _ _ _) (Or.inr (Or.inl (by rw [hrefused]; simp)))
    · obtain ⟨existing, hfound', -⟩ | ⟨stored, operationId, -, hgranted', -⟩ := hout
      · cases hfound.symm.trans hfound'
      · cases hgranted.symm.trans hgranted'
    · exact hfail.trans (congrArg Program.fail (hx _ hrefused))
  | _ => cases hmeets

theorem replayMatches_identity {row row' : ResearchRequestRow} (h : row.identity = row'.identity)
    (owner : String) (kind : ResearchOperationKind) (prompt consent : String) :
    rt.replayMatches row owner kind prompt consent = rt.replayMatches row' owner kind prompt consent := by
  unfold ResearchRuntime.replayMatches
  rw [show row.ownerLoginKey = row'.ownerLoginKey from congrArg RequestIdentity.ownerLoginKey h,
    show row.record.kind = row'.record.kind from congrArg RequestIdentity.kind h,
    show row.record.prompt = row'.record.prompt from congrArg RequestIdentity.prompt h,
    show row.record.profile.configurationVersion = row'.record.profile.configurationVersion from
      congrArg RequestIdentity.configurationVersion h,
    show row.requestFingerprint = row'.requestFingerprint from
      congrArg RequestIdentity.requestFingerprint h]

/-- And it never gets a receipt. -/
theorem differing_refused (hw : Settled rt mayCrash w) {t : Caller} (ht : t ∈ w.threads)
    {owner client prompt consent : String} {kind : ResearchOperationKind}
    (hcall : t.memory.call = .admitResearch owner client kind prompt consent)
    {row : ResearchRequestRow} (hrow : row ∈ w.state.requests.rows) (howner : row.ownerLoginKey = owner)
    (hclient : row.clientRequestId = client) (hd : rt.Differs row kind prompt consent)
    (receipt : ResearchAdmissionReceipt) : t.program ≠ .done (.receipt receipt) := by
  intro hdone
  obtain ⟨row', hrow', howner', hclient', hid, -⟩ :=
    receives_stored hw ht ⟨⟨kind, prompt, consent, hcall⟩, hdone⟩
  have hsame : row' = row := hw.state.2.client row' hrow' row hrow (howner'.trans howner.symm)
    (hclient'.trans hclient.symm)
  rw [hsame] at hid
  obtain ⟨⟨-, hadmitting⟩, hO⟩ := hw.threads t ht
  rw [hdone] at hO
  have hout : rt.outcome t.memory (.ok (.receipt receipt)) := hO
  simp only [ResearchRuntime.outcome, hcall] at hout
  obtain ⟨existing, -, -, rfl, hmatch⟩ | ⟨stored, operationId, -, hgranted, -, rfl⟩ := hout
  · rw [replayMatches_identity hid, ← howner, differs_noReplay hd] at hmatch
    cases hmatch
  · have hprint := (hadmitting.granted stored hgranted).2 _ _ _ _ _ hcall
    have hkept : stored.requestFingerprint = row.requestFingerprint :=
      congrArg RequestIdentity.requestFingerprint hid
    rw [hkept, ← howner] at hprint
    exact differs_fingerprint hd hprint

/-- A step of an admission leaves every table alone, or ends it with a receipt. -/
theorem refused_unchanged (hw : Settled rt mayCrash w) {t : Caller} (ht : t ∈ w.threads)
    {owner client prompt consent : String} {kind : ResearchOperationKind}
    (hcall : t.memory.call = .admitResearch owner client kind prompt consent) {env : Env} {e : Effect}
    {next : Except Failure e.Result → Coordinator CallResult} (hprogram : t.program = .call e next) :
    SameTables w.state (rt.exec env e w.state).2 ∨
      ∃ receipt, next (rt.exec env e w.state).1 = .done (.receipt receipt) := by
  have hans := exec_answered rt env e w.state
  cases e with
  | admitRow admitted reservation =>
    obtain ⟨-, hnext⟩ := admission_next hw ht hprogram env trivial
    revert hans hnext
    generalize (rt.exec env (.admitRow admitted reservation) w.state).1 = r
    generalize (rt.exec env (.admitRow admitted reservation) w.state).2 = s'
    intro hans hnext
    cases hans with
    | failed e x s' h => exact Or.inl h
    | plain e a s' hp h => exact Or.inl h
    | replayed row existing reservation hf hfp => exact Or.inl (SameTables.refl _)
    | admitted row reservation requests holds hold hf hslot hop hres hi hu hr hh =>
      obtain ⟨receipt, hdone, -⟩ | ⟨x, -, hnone, -⟩ := admission_ended hnext hcall
        (Or.inl (by simp [Memory.note]))
      · exact Or.inr ⟨receipt, hdone⟩
      · cases hnone
  | _ =>
    obtain ⟨-, hO⟩ := hw.threads t ht
    rw [hprogram] at hO
    have hadmission := (hO.1.2 _ _ _ _ _ hcall).1
    left
    first | exact ⟨rfl, rfl, rfl, rfl, rfl⟩ | cases hadmission

end Worlds

/-- Whatever the interleaving and whatever else the coordinator does meanwhile: one
request and one hold for each client request, one new receipt, and every other admission
replays or conflicts. -/
theorem admission_idempotent (rt : ResearchRuntime) (mayCrash : Bool) {w : Deployment}
    (h : Reachable (rt.system freshIds mayCrash) .empty w) : rt.Idempotent mayCrash w := by
  have hw := admission_sound h
  obtain ⟨hconsistent, hregistered⟩ := hw.state
  refine ⟨hregistered.client, fun row hrow => ?_, fun hold hhold => ?_,
    fun t ht owner client receipt hr => ?_,
    fun m n t t' owner client receipt receipt' hm hn hr hr' hnew hnew' => ?_,
    fun hcrash t ht owner client receipt hr => ?_,
    fun t ht owner client kind prompt consent hcall row hrow howner hclient hd => 
      ⟨differing_refused hw ht hcall hrow howner hclient hd, fun env e next hprogram hmeets hfault =>
        differing_conflicts hw ht hcall hrow howner hclient hd hprogram hmeets hfault⟩,
    fun t ht owner client kind prompt consent hcall env e next hprogram =>
      refused_unchanged hw ht hcall hprogram⟩
  · obtain ⟨hold, hfound, -⟩ := hconsistent.held _ row (Table.mem_find? hrow)
    have hmem := Table.find?_mem hfound
    have hkey := Table.find?_key hfound
    exact ⟨hold, hmem, hkey, fun other hother hk => Table.eq_of_key hother hmem (hk.trans hkey.symm)⟩
  · obtain ⟨row, hrow⟩ := hregistered.requested hold hhold
    exact ⟨row, Table.find?_mem hrow, Table.find?_key hrow⟩
  · obtain ⟨row, hrow, howner, hclient, hid, -⟩ := receives_stored hw ht hr
    exact ⟨row, hrow, howner, hclient, hid⟩
  · obtain ⟨row, hrow, howner, hclient, -, hins⟩ := receives_stored hw (List.mem_of_getElem? hm) hr
    obtain ⟨row', hrow', howner', hclient', -, hins'⟩ :=
      receives_stored hw (List.mem_of_getElem? hn) hr'
    have hsame := hregistered.client row hrow row' hrow' (howner.trans howner'.symm)
      (hclient.trans hclient'.symm)
    by_contra hne
    have hdrawn := (hins hnew).1
    rw [hsame] at hdrawn
    exact hw.apart m n t t' hne hm hn _ hdrawn (hins' hnew').1
  · subst hcrash
    obtain ⟨row, hrow, rfl, rfl, -⟩ := receives_stored hw ht hr
    obtain ⟨t', ht', hins⟩ := held_reachable h _ row (Table.mem_find? hrow)
    obtain ⟨receipt', hr', hnew⟩ := inserted_receives hw ht' hrow hins
    exact ⟨t', ht', receipt', hr', hnew⟩

/- A second admission of the same client runs beside the first and is told of its row. -/
def replayed : Script :=
  .start .recover :: calls 0 1 env ++
    .start (.admitResearch "ana" "c1" .search "why" "1") :: calls 1 6 env ++
    .start (.admitResearch "ana" "c1" .search "why" "1") :: calls 2 6 { env with operationId := "op-2" } ++
    calls 1 1 env ++ calls 2 1 env

theorem replay_admitted_once : runtime.Idempotent false
    (replayed.foldl (World.move (runtime.system freshIds false)) ⟨.empty, []⟩) :=
  admission_idempotent runtime false (World.moves_reach replayed _ (by decide +kernel))

/-- The claim that every differing admission is told of a conflict, one call at a time. -/
def ResearchRuntime.AlwaysConflicts (rt : ResearchRuntime) : Prop :=
  ∀ s row kind prompt consent envs x, SeqReachable (rt.system always true) .empty s →
    row ∈ s.requests.rows → rt.Differs row kind prompt consent → (∀ env ∈ envs, env.fault = false) →
    (Program.run rt.exec envs
      (rt.program (.admitResearch row.ownerLoginKey row.clientRequestId kind prompt consent)) s).1 =
      .fail x → x = .store .idempotencyConflict

/- A blank prompt is refused before the stored request is looked up. -/
theorem blank_prompt_invalid : ¬ runtime.AlwaysConflicts := by
  intro h
  have hrows : (runtime.afterCalls [taken]).requests.rows.map (·.identity) =
      [⟨"op-1", "ana", "c1", runtime.fingerprint "ana" .search "why" "1", .search, "why", "4"⟩] := by
    decide +kernel
  obtain ⟨row, hmem, hid⟩ := List.mem_map.mp (hrows ▸ List.mem_singleton.mpr rfl)
  have hasked : row.ownerLoginKey = "ana" ∧ row.requestFingerprint =
      runtime.fingerprint "ana" .search "why" "1" ∧ row.record.kind = .search ∧
      row.record.prompt = "why" ∧ row.record.profile.configurationVersion = "4" :=
    ⟨congrArg RequestIdentity.ownerLoginKey hid, congrArg RequestIdentity.requestFingerprint hid,
      congrArg RequestIdentity.kind hid, congrArg RequestIdentity.prompt hid,
      congrArg RequestIdentity.configurationVersion hid⟩
  obtain ⟨howner, hfp, hkind, hprompt, hversion⟩ := hasked
  have hdiffers : runtime.Differs row .search " " "1" := by
    refine ⟨by rw [hversion]; decide, "1", by rw [howner, hkind, hprompt, hfp], ?_, ?_⟩
    · rw [hprompt]
      exact fun hsame => absurd hsame.2.1 (by decide)
    · rw [howner, hkind, hprompt]
      intro hcollide
      exact absurd hcollide (by decide +kernel)
  have hblank := h _ row .search " " "1" [] (.store .invalidRequest) (runtime.afterCalls_reachable _)
    hmem hdiffers (by simp) rfl
  cases hblank

end FrameNest.Research
