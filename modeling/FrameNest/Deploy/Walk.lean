import FrameNest.Deploy.HostRules

/-! The commands one after the other: what a deployment and a rollback leave at each point, and
what the transport has reported by then. -/
namespace FrameNest.Deploy
open Concurrent

/- The deploy directory's file read back: the first command of an automatic rollback. -/
def Command.isCat : Command → Bool
  | .cat _ => true
  | _ => false

def Effect.isQuiet : Effect → Bool
  | .ssh c => c.isRoutine && !c.isCat
  | _ => true

/- The commands that leave the host as it is. -/
def Command.isReading : Command → Bool
  | .probe _ | .readlinkCurrent => true
  | _ => false

def Effect.isReading : Effect → Bool
  | .ssh c => c.isReading
  | _ => true

/- Since `w`, no file of the deploy directory was read back. -/
def NoCat (w t : Remote) : Prop :=
  ∃ new, t.attempts = w.attempts ++ new ∧ ∀ a ∈ new, a.1.isCat = false

theorem NoCat.refl (w : Remote) : NoCat w w := ⟨[], by simp, fun _ h => by cases h⟩

theorem NoCat.trans {w s t : Remote} (h : NoCat w s) (h' : NoCat s t) : NoCat w t := by
  obtain ⟨new, hs, hnew⟩ := h
  obtain ⟨later, ht, hlater⟩ := h'
  refine ⟨new ++ later, by rw [ht, hs, List.append_assoc], fun a ha => ?_⟩
  rcases List.mem_append.mp ha with ha | ha
  · exact hnew a ha
  · exact hlater a ha

theorem NoCat.attempt {w s : Remote} {h : Host} {c : Command} {b : Bool} (hs : NoCat w s)
    (hc : c.isCat = false) : NoCat w ⟨h, s.attempts ++ [(c, b)]⟩ := by
  refine hs.trans ⟨[(c, b)], rfl, fun a ha => ?_⟩
  rw [List.mem_singleton.mp ha]
  exact hc

abbrev kept : Roles Remote Unit := alone (fun s => WellFormed s.host) fun _ _ => True

section Calls
variable {tool : Tool} {permits : Unit → Moment → Effect → Remote → Prop} {s t : Remote}
  {α β : Type}

abbrev Securing (tool : Tool) (permits : Unit → Moment → Effect → Remote → Prop)
    (Q : Except ReleaseError α → Remote → Prop) (p : Release α) (s : Remote) : Prop :=
  Secures (tool.system permits).toProtocol kept () Q p s

/-- A remote command: all its steps taken and reported, or some of them taken and reported as
failed. -/
theorem ssh_secures {c : Command} {Q : Except ReleaseError String → Remote → Prop}
    (hok : WellFormed s.host → ∀ i h', permits () i (.ssh c) s → i.outcome = .success →
      runSteps (c.steps tool.sha256) s.host = (h', true) → WellFormed h' ∧
        Q (.ok (c.output i.stdout s.host)) ⟨h', s.attempts ++ [(c, true)]⟩)
    (herror : WellFormed s.host → ∀ n,
      WellFormed (runSteps ((c.steps tool.sha256).take n) s.host).1 ∧ ∀ x, Q (.error x)
        ⟨(runSteps ((c.steps tool.sha256).take n) s.host).1, s.attempts ++ [(c, false)]⟩) :
    Securing tool permits Q (ssh c) s := by
  refine Secures.alone_perform fun hw i hp => ?_
  cases hout : i.outcome with
  | stopped n =>
    obtain ⟨hwell, hx⟩ := herror hw n
    simp only [Tool.system, perform, runCommand, hout]
    exact ⟨hwell, trivial, hx _⟩
  | success =>
    cases hrun : runSteps (c.steps tool.sha256) s.host with
    | mk h' done =>
      cases done with
      | true =>
        obtain ⟨hwell, hnext⟩ := hok hw i h' hp hout hrun
        simp only [Tool.system, perform, runCommand, hout, hrun]
        exact ⟨hwell, trivial, hnext⟩
      | false =>
        obtain ⟨hwell, hx⟩ := herror hw (c.steps tool.sha256).length
        rw [List.take_length, hrun] at hwell hx
        simp only [Tool.system, perform, runCommand, hout, hrun]
        exact ⟨hwell, trivial, hx _⟩

theorem ssh_bind {c : Command} {Q : Except ReleaseError β → Remote → Prop} {f : String → Release β}
    (hok : WellFormed s.host → ∀ i h', permits () i (.ssh c) s → i.outcome = .success →
      runSteps (c.steps tool.sha256) s.host = (h', true) → WellFormed h' ∧
        Securing tool permits Q (f (c.output i.stdout s.host)) ⟨h', s.attempts ++ [(c, true)]⟩)
    (herror : WellFormed s.host → ∀ n,
      WellFormed (runSteps ((c.steps tool.sha256).take n) s.host).1 ∧ ∀ x, Q (.error x)
        ⟨(runSteps ((c.steps tool.sha256).take n) s.host).1, s.attempts ++ [(c, false)]⟩) :
    Securing tool permits Q (ssh c >>= f) s :=
  Secures.bind (ssh_secures hok herror)

/-- A quiet command, with what its steps have to find. -/
theorem routine_bind {c : Command} {Q : Except ReleaseError β → Remote → Prop}
    {f : String → Release β} (hroutine : c.isRoutine = true) (hcat : c.isCat = false)
    (hok : ∀ (i : Moment) h', runSteps (c.steps tool.sha256) s.host = (h', true) → Same s.host h' →
      Securing tool permits Q (f (c.output i.stdout s.host)) ⟨h', s.attempts ++ [(c, true)]⟩)
    (herror : ∀ t x, Same s.host t.host → NoCat s t → Q (.error x) t) :
    Securing tool permits Q (ssh c >>= f) s := by
  refine ssh_bind (fun hw i h' _ _ hrun => ?_) fun hw n => ?_
  · have hsame := @routine_same tool.sha256 c hroutine (c.steps tool.sha256).length s.host
    rw [List.take_length, hrun] at hsame
    exact ⟨hw.same hsame, hok i h' hrun hsame⟩
  · have hsame := @routine_same tool.sha256 c hroutine n s.host
    exact ⟨hw.same hsame, fun x => herror _ x hsame ((NoCat.refl s).attempt hcat)⟩

theorem reading_host {sha256 : String → String} {c : Command} (hc : c.isReading = true) (n : Nat)
    (h : Host) : (runSteps ((c.steps sha256).take n) h).1 = h := by
  cases c with
  | probe p => simp [Command.steps, runSteps]
  | readlinkCurrent =>
    rcases runSteps_take_one (h := h) (f := fun h => demandHost h.current.isSome h) n with hn | hn
    · exact hn
    · exact (demandHost_some hn).2
  | _ => cases hc

theorem demand_secures {b : Bool} {message : String} {code : ExitCode} :
    Securing tool permits (fun r t => t = s ∧ (∀ u, r = .ok u → b = true) ∧
      ∀ x, r = .error x → b = false) (demand b message code) s := by
  unfold demand
  cases b with
  | true => exact ⟨rfl, fun _ _ => rfl, fun _ hx => (by cases hx)⟩
  | false => exact ⟨rfl, fun _ hx => (by cases hx), fun _ _ => rfl⟩

theorem mapError_bind {p : Release α} {f : α → Release β} {message : String} {code : ExitCode}
    {Q' : Except ReleaseError α → Remote → Prop} {Q : Except ReleaseError β → Remote → Prop}
    (hp : Securing tool permits Q' p s)
    (hok : ∀ a t, Q' (.ok a) t → Securing tool permits Q (f a) t)
    (herror : ∀ x t, Q' (.error x) t → Q (.error ⟨message, code⟩) t) :
    Securing tool permits Q (mapError p message code >>= f) s := by
  refine Secures.bind (Secures.rescue (Secures.mono (fun r t ht => ?_) hp))
  cases r with
  | ok a => exact hok a t ht
  | error x => exact herror x t ht

theorem perform_quiet {e : Effect} (he : e.isQuiet = true) (i : Moment) :
    Same s.host (perform tool i e s).2.host ∧ NoCat s (perform tool i e s).2 := by
  cases e with
  | ssh c =>
    simp only [Effect.isQuiet, Bool.and_eq_true, Bool.not_eq_true'] at he
    have hlog : ∀ h b, NoCat s ⟨h, s.attempts ++ [(c, b)]⟩ := fun h b =>
      (NoCat.refl s).attempt he.2
    refine ⟨?_, hlog _ _⟩
    cases hout : i.outcome with
    | stopped n => simpa [perform, runCommand, hout] using routine_same he.1 n s.host
    | success =>
      have hsame := @routine_same tool.sha256 c he.1 (c.steps tool.sha256).length s.host
      rw [List.take_length] at hsame
      simpa [perform, runCommand, hout] using hsame
  | _ => exact ⟨Same.refl _, NoCat.refl s⟩

theorem perform_reading {e : Effect} (he : e.isReading = true) (i : Moment) :
    (perform tool i e s).2.host = s.host ∧ NoCat s (perform tool i e s).2 := by
  cases e with
  | ssh c =>
    have hcat : c.isCat = false := by cases c <;> first | rfl | cases he
    refine ⟨?_, (NoCat.refl s).attempt hcat⟩
    cases hout : i.outcome with
    | stopped n => simpa [perform, runCommand, hout] using reading_host he n s.host
    | success =>
      have hall := @reading_host tool.sha256 c he (c.steps tool.sha256).length s.host
      rw [List.take_length] at hall
      simpa [perform, runCommand, hout] using hall
  | _ => exact ⟨rfl, NoCat.refl s⟩

/- The program makes only calls of one kind, whatever it is answered. -/
@[irreducible] def Only (tool : Tool) (kind : Effect → Bool) (p : Release α) : Prop :=
  Obeys ((tool.system fun _ _ _ _ => True).toProtocol.withMay fun _ e => kind e = true)
    (fun _ _ => True) p ()

variable {kind : Effect → Bool}

theorem Only.pure {a : α} : Only tool kind (Pure.pure a) := by
  unfold Only
  trivial

theorem Only.fail {x : ReleaseError} : Only tool kind (.fail x : Release α) := by
  unfold Only
  trivial

theorem Only.seq {p : Release α} {f : α → Release β} (hp : Only tool kind p)
    (hf : ∀ a, Only tool kind (f a)) : Only tool kind (p >>= f) := by
  unfold Only at hp hf ⊢
  refine Obeys.bind (hp.mono fun g r _ => ?_)
  cases r with
  | ok a => exact hf a
  | error x => trivial

theorem Only.call {e : Effect} (he : kind e = true) : Only tool kind (callOf e) := by
  unfold Only
  exact Obeys.perform he fun _ _ _ => trivial

theorem Only.demand {b : Bool} {message : String} {code : ExitCode} :
    Only tool kind (demand b message code) := by
  unfold Deploy.demand
  split
  · exact .pure
  · exact .fail

theorem Only.rescue {p : Release α} {handler : ReleaseError → Release α} (hp : Only tool kind p)
    (hh : ∀ x, Only tool kind (handler x)) : Only tool kind (p.rescue handler) := by
  unfold Only at hp hh ⊢
  refine Obeys.rescue (hp.mono fun g r _ => ?_)
  cases r with
  | ok a => trivial
  | error x => exact hh x

theorem Only.mapError {p : Release α} {message : String} {code : ExitCode}
    (hp : Only tool kind p) : Only tool kind (mapError p message code) :=
  hp.rescue fun _ => .fail

/- It makes no others where fewer answers are possible. -/
theorem Only.permitted {p : Release α} (hp : Only tool kind p) :
    Obeys ((tool.system permits).toProtocol.withMay fun _ e => kind e = true) (fun _ _ => True)
      p () := by
  unfold Only at hp
  induction p with
  | done a => trivial
  | fail x => trivial
  | call e next ih => exact ⟨hp.1, fun i s _ => ih _ (hp.2 i s trivial)⟩

/- What is known of a state and lost by no quiet call. -/
def Lasting (J : Remote → Prop) : Prop := ∀ t t', Same t.host t'.host → NoCat t t' → J t → J t'

theorem Only.quiet {J : Remote → Prop} {p : Release α} (hp : Only tool Effect.isQuiet p)
    (hJ : Lasting J) (hs : J s) : Securing tool permits (fun _ t => J t) p s := by
  have hstep : ∀ e t i, e.isQuiet = true → WellFormed t.host → J t → permits () i e t →
      WellFormed (perform tool i e t).2.host ∧ True ∧ J (perform tool i e t).2 := by
    intro e t i he hw hJt _
    have hquiet : Same t.host _ ∧ NoCat t (perform tool i e t).2 := perform_quiet he i
    exact ⟨hw.same hquiet.1, trivial, hJ _ _ hquiet.1 hquiet.2 hJt⟩
  exact Secures.alone_obeys (fun _ _ _ _ => rfl) hstep hp.permitted hs

theorem Only.reading {J : Remote → Prop} {p : Release α} (hp : Only tool Effect.isReading p)
    (hJ : ∀ t t', t'.host = t.host → NoCat t t' → J t → J t') (hs : J s) :
    Securing tool permits (fun _ t => J t) p s := by
  have hstep : ∀ e t i, e.isReading = true → WellFormed t.host → J t → permits () i e t →
      WellFormed (perform tool i e t).2.host ∧ True ∧ J (perform tool i e t).2 := by
    intro e t i he hw hJt _
    have hread : _ ∧ NoCat t (perform tool i e t).2 := perform_reading he i
    exact ⟨hread.1 ▸ hw, trivial, hJ _ _ hread.1 hread.2 hJt⟩
  exact Secures.alone_obeys (fun _ _ _ _ => rfl) hstep hp.permitted hs

end Calls

end FrameNest.Deploy
