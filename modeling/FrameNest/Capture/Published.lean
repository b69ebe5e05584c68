import FrameNest.Capture.Runs

/-! Memory shows what a commit made durable. A call that commits twice is the exception: after
the first commit its working copy of the service record is the published one, and where the
second commit is refused memory keeps a record no commit has stored. -/
namespace FrameNest.Capture

namespace World

/-- The last durable pair, as a restart finds it. -/
def lastLoaded (w : World) : List Job × Option Service :=
  match w.last with
  | none => ([], none)
  | some p => (p.jobs, some p.service)

/-- A restart publishes the recovery of the last durable pair, as far as its commit goes. -/
def Restarts (w : World) (m : Moment) (o : Outcome) : Prop :=
  match recovery m w.lastLoaded.1 w.lastLoaded.2 with
  | .ok p =>
    (w.start m o).durable = w.durable ++ (if o = .failed then [] else [p]) ∧
      (w.start m o).processes =
        w.processes ++ [if o = .ok then .idle ⟨p.jobs, p.service, false, none⟩ else .gone]
  | .error _ =>
    (w.start m o).durable = w.durable ∧ (w.start m o).processes = w.processes ++ [.gone]

/-- Only committed state is published: between two calls memory is a pair that was made durable, a
call that raises has left memory as it was, and a restart continues from the last durable pair. -/
structure PublishesCommitted (w : World) : Prop where
  memory : ∀ (n : Nat) (mem : Memory), w.processes[n]? = some (.idle mem) → mem.published ∈ w.durable
  raised : ∀ e ∈ w.calls, ∀ error, e.outcome = .error error → e.after.published = e.began.published
  restarts : ∀ m o, w.Restarts m o

/-- A call of which a commit was acknowledged gets its next commits acknowledged too: nothing
stops them, and no other process has taken the journal over meanwhile. -/
def KeepsUp (w : World) : Move → Prop
  | .commit n o =>
    match w.processes[n]? with
    | some (.busy c) =>
      c.published = true → o = .ok ∧ w.journal.epoch = some c.base.service.epoch
    | _ => True
  | _ => True

variable {b : Bridge} {w : World}

theorem Inv.restarts (h : w.Inv) (m : Moment) (o : Outcome) : w.Restarts m o := by
  have hload : w.journal.load = w.lastLoaded := h.load
  unfold Restarts
  rw [← hload]
  cases hp : recovery m w.journal.load.1 w.journal.load.2 with
  | error e => simp [World.start, hp]
  | ok p =>
    obtain ⟨j, hj, -⟩ := start_commit h hp
    cases o <;> simp [World.start, hp, Journal.attempt, made, hj]

/-- What the law says of memory and of the calls that have ended. -/
def Shows (w : World) : Prop :=
  (∀ (n : Nat) (mem : Memory), w.processes[n]? = some (.idle mem) → mem.published ∈ w.durable) ∧
    ∀ e ∈ w.calls, ∀ error, e.outcome = .error error → e.after.published = e.began.published

theorem Shows.become (h : w.Shows) (n : Nat) {p : Process} (hp : ∀ mem : Memory, p ≠ .idle mem) :
    (w.become n p).Shows := by
  refine ⟨fun k mem hk => ?_, h.2⟩
  rcases mem_set hk with hidle | hold
  · exact absurd hidle.symm (hp mem)
  · exact h.1 k mem hold

theorem Shows.finish (h : w.Shows) (n : Nat) (r : Request) (m : Moment) {began after : Memory}
    {outcome : Except BridgeError Reply} (hmem : after.published ∈ w.durable)
    (hraised : ∀ error, outcome = .error error → after.published = began.published) :
    (w.finish n r m began outcome after).Shows := by
  refine ⟨fun k mem hk => ?_, fun e he error herror => ?_⟩
  · rcases mem_set hk with hidle | hold
    · cases hidle
      exact hmem
    · exact h.1 k mem hold
  · rcases List.mem_append.mp he with he | he
    · exact h.2 e he error herror
    · rw [List.mem_singleton.mp he] at herror ⊢
      exact hraised error herror

theorem Shows.publish (h : w.Shows) (j : Journal) (p : Published) : (w.publish j p).Shows :=
  ⟨fun k mem hk => List.mem_append_left _ (h.1 k mem hk), h.2⟩

theorem Shows.append {w' : World} (h : w.Shows) {p : Process}
    (hprocesses : w'.processes = w.processes ++ [p]) (hcalls : w'.calls = w.calls)
    (hsub : ∀ q ∈ w.durable, q ∈ w'.durable)
    (hp : ∀ mem : Memory, p = .idle mem → mem.published ∈ w'.durable) : w'.Shows := by
  refine ⟨fun k mem hk => ?_, fun e he => h.2 e (hcalls ▸ he)⟩
  rw [hprocesses, List.getElem?_append] at hk
  split at hk
  · exact hsub _ (h.1 k mem hk)
  · rw [List.getElem?_singleton] at hk
    split at hk
    · exact hp mem (Option.some.inj hk)
    · cases hk

/-- Memory of a call whose first commit is refused. -/
theorem Waits.held {c : Running} (h : Waits c) (hp : c.published = false) :
    c.base = c.began.published ∧ (⟨c.memory.jobs, c.memory.service⟩ : Published) =
      c.began.published := by
  obtain ⟨hbase, hheld⟩ := h.fresh hp
  refine ⟨hbase, ?_⟩
  rw [h.jobs, h.service]
  exact hheld

theorem Shows.move (hinv : w.Inv) (h : w.Shows) {mv : Move} {w' : World} (hm : Moved b w mv w')
    (hkeeps : KeepsUp w mv) : w'.Shows := by
  have hrefused : ∀ (n : Nat) (o : Outcome) (c : Running), w.processes[n]? = some (.busy c) →
      mv = .commit n o → (o ≠ .ok ∨ w.journal.epoch ≠ some c.base.service.epoch) →
      c.base = c.began.published ∧ (⟨c.memory.jobs, c.memory.service⟩ : Published) =
        c.began.published := by
    intro n o c hn hmv hfails
    refine (hinv.waits n c hn).held ?_
    by_contra hpublished
    rw [hmv] at hkeeps
    simp only [KeepsUp, hn] at hkeeps
    obtain ⟨hok, hepoch⟩ := hkeeps (by simpa using hpublished)
    rcases hfails with hfails | hfails
    · exact hfails hok
    · exact hfails hepoch
  have hknown : ∀ (n : Nat) (c : Running), w.processes[n]? = some (.busy c) → c.base ∈ w.durable :=
    fun n c hn => hinv.known n c.base (by simp [copies, hn, Process.copy])
  cases hm with
  | still mv => exact h
  | answered hn hplan hwrites =>
    have hmem := h.1 _ _ hn
    exact h.finish _ _ _ hmem fun _ herror => (by cases herror)
  | refused hn hplan => exact h.finish _ _ _ (h.1 _ _ hn) fun _ _ => rfl
  | began hn hplan hwrites havailable hwaits => exact h.become _ fun _ hp => (by cases hp)
  | @failed n o c hn hfails =>
    obtain ⟨hbase, hmemory⟩ := hrefused n o c hn rfl hfails
    refine h.finish _ _ _ ?_ fun _ _ => hmemory
    show (⟨c.memory.jobs, c.memory.service⟩ : Published) ∈ w.durable
    rw [hmemory, ← hbase]
    exact hknown n c hn
  | @lost n c j hn hlast hj =>
    obtain ⟨hbase, hmemory⟩ := hrefused n .lost c hn rfl (.inl (by simp))
    refine (h.publish j _).finish _ _ _ ?_ fun _ _ => hmemory
    refine List.mem_append_left _ ?_
    show (⟨c.memory.jobs, c.memory.service⟩ : Published) ∈ w.durable
    rw [hmemory, ← hbase]
    exact hknown n c hn
  | published hn hlast hj hlater =>
    exact (h.publish _ _).become _ fun _ hp => (by cases hp)
  | acknowledged hn hlast hj hlater =>
    refine (h.publish _ _).finish _ _ _ ?_ fun _ herror => (by cases herror)
    exact List.mem_append_right _ List.mem_cons_self
  | crashed n => exact h.become n fun _ hp => (by cases hp)
  | opened hfound hj hfresh =>
    refine h.append rfl rfl (fun q hq => List.mem_append_left _ hq) fun mem hmem => ?_
    cases hmem
    exact List.mem_append_right _ List.mem_cons_self
  | openLost hfound hj hfresh =>
    exact h.append rfl rfl (fun q hq => List.mem_append_left _ hq) fun _ hp => (by cases hp)
  | openFailed m o => exact h.append rfl rfl (fun q hq => hq) fun _ hp => (by cases hp)

end World

/-- In every run in which a call that has published keeps up, only committed state is shown. -/
theorem publishes_committed_state {b : Bridge} {w : World} (h : Reachable b World.KeepsUp w) :
    w.PublishesCommitted := by
  have hshows : w.Shows := by
    refine h.induct ⟨fun n mem hn => ?_, fun e he => (by cases he)⟩ fun hinv hshows hfresh hkeeps =>
      hshows.move hinv (World.move_moved hinv hfresh) hkeeps
    simp [World.empty] at hn
  exact ⟨hshows.1, hshows.2, h.inv.restarts⟩

/-- The journal reads back as the last durable pair, every pair is in order, and a move adds one
at most: a commit the successor of the last pair, a start a pair of a new epoch. -/
structure World.LosesNothing (b : Bridge) (w : World) : Prop where
  stored : w.journal.load = w.lastLoaded
  orderly : ∀ p ∈ w.durable, Orderly p
  extended : ∀ mv : Move, mv.Fresh w → (w.move b mv).durable = w.durable ∨
    ∃ p, (w.move b mv).durable = w.durable ++ [p] ∧
      ((∃ n o m q, mv = .commit n o ∧ w.copies n = some q ∧ w.last = some q ∧ Commits m q p) ∨
        ∃ m o, mv = .start m o ∧ ∀ q ∈ w.durable, q.service.epoch ≠ p.service.epoch)

/-- Whatever commits fail or are lost, and however many processes share the journal. -/
theorem no_update_lost {b : Bridge} {allowed : World → Move → Prop} {w : World}
    (h : Reachable b allowed w) : w.LosesNothing b := by
  refine ⟨h.inv.load, h.inv.orderly, fun mv hfresh => ?_⟩
  have hcommit : ∀ (n : Nat) (o : Outcome) (c : Running), w.processes[n]? = some (.busy c) →
      w.last = some c.base → ∃ n' o' m q, Move.commit n o = .commit n' o' ∧ w.copies n' = some q ∧
        w.last = some q ∧ Commits m q c.write.pair := by
    intro n o c hn hlast
    have hcopy : w.copies n = some c.base := by simp [World.copies, hn, Process.copy]
    exact ⟨n, o, c.moment, c.base, rfl, hcopy, hlast, (h.inv.waits n c hn).chain.2.2.1⟩
  have hmoved := World.move_moved (b := b) h.inv hfresh
  generalize w.move b mv = w' at hmoved
  cases hmoved with
  | lost hn hlast hj => exact .inr ⟨_, rfl, .inl (hcommit _ _ _ hn hlast)⟩
  | published hn hlast hj hlater => exact .inr ⟨_, rfl, .inl (hcommit _ _ _ hn hlast)⟩
  | acknowledged hn hlast hj hlater => exact .inr ⟨_, rfl, .inl (hcommit _ _ _ hn hlast)⟩
  | opened hfound hj hnew => exact .inr ⟨_, rfl, .inr ⟨_, _, rfl, hnew⟩⟩
  | openLost hfound hj hnew => exact .inr ⟨_, rfl, .inr ⟨_, _, rfl, hnew⟩⟩
  | _ => exact .inl rfl

/-! Scripts of moves. -/

instance Move.decidableFresh (w : World) : (mv : Move) → Decidable (mv.Fresh w)
  | .call _ _ _ => inferInstanceAs (Decidable (∀ _ ∈ _, _))
  | .start _ _ => inferInstanceAs (Decidable (∀ _ ∈ _, _))
  | .commit _ _ => inferInstanceAs (Decidable True)
  | .crash _ => inferInstanceAs (Decidable True)

/-- The moves of a script are fresh and allowed where they are made. -/
def Follows (b : Bridge) (allowed : World → Move → Prop) (w : World) : List Move → Prop
  | [] => True
  | mv :: rest => mv.Fresh w ∧ allowed w mv ∧ Follows b allowed (w.move b mv) rest

instance Follows.decidable (b : Bridge) (allowed : World → Move → Prop)
    [∀ w mv, Decidable (allowed w mv)] : ∀ (w : World) (moves : List Move),
      Decidable (Follows b allowed w moves)
  | _, [] => inferInstanceAs (Decidable True)
  | w, mv :: rest =>
    have : Decidable (Follows b allowed (w.move b mv) rest) := decidable b allowed _ rest
    inferInstanceAs (Decidable (_ ∧ _ ∧ _))

theorem Reachable.script {b : Bridge} {allowed : World → Move → Prop} {w : World}
    (h : Reachable b allowed w) {moves : List Move} (hmoves : Follows b allowed w moves) :
    Reachable b allowed (moves.foldl (fun w mv => w.move b mv) w) := by
  induction moves generalizing w with
  | nil => exact h
  | cons mv rest ih => exact ih (h.move hmoves.1 hmoves.2.1) hmoves.2.2

theorem Reachable.after {b : Bridge} {allowed : World → Move → Prop} {moves : List Move}
    (hmoves : Follows b allowed .empty moves) : Reachable b allowed (World.after b moves) :=
  Reachable.empty.script hmoves

/- Nothing is asked of the moves. -/
def anyMove (_ : World) (_ : Move) : Prop := True

instance : ∀ w mv, Decidable (anyMove w mv) := fun _ _ => inferInstanceAs (Decidable True)

instance World.decidableKeepsUp (w : World) : (mv : Move) → Decidable (w.KeepsUp mv)
  | .commit n o =>
    match h : w.processes[n]? with
    | some (.busy c) =>
      decidable_of_iff (c.published = true → o = .ok ∧ w.journal.epoch = some c.base.service.epoch)
        (by simp [World.KeepsUp, h])
    | some (.idle _) => isTrue (by simp [World.KeepsUp, h])
    | some .gone => isTrue (by simp [World.KeepsUp, h])
    | none => isTrue (by simp [World.KeepsUp, h])
  | .call _ _ _ => inferInstanceAs (Decidable True)
  | .start _ _ => inferInstanceAs (Decidable True)
  | .crash _ => inferInstanceAs (Decidable True)

namespace Sample

def uuidChars (last : Fin 16) : List Char :=
  List.replicate 8 '0' ++ '-' :: List.replicate 4 '0' ++ '-' :: '4' :: List.replicate 3 '0' ++
    '-' :: '8' :: List.replicate 3 '0' ++ '-' :: List.replicate 11 '0' ++ [Nat.digitChar last]

theorem uuidChars_identity (last : Fin 16) : identity (String.ofList (uuidChars last)) = true := by
  unfold identity Plain.isUuidText
  rw [String.toList_ofList]
  revert last
  decide +kernel

def uuid (n : Nat) : Uuid := ⟨_, uuidChars_identity (Fin.ofNat 16 n)⟩

/- The settings of `config`; a digest keeps the prompt. -/
def bridge : Bridge where
  stallAfter := 120 * second
  cancelGrace := 10 * second
  connectedWindow := 90 * second
  window_nonneg := by decide
  fingerprint ask := ask.prompt
  digest _ := "digest"

/-- A moment at which both clocks show the same second; its draws are numbered from `k`. -/
def moment (seconds : Int) (k : Nat) : Moment where
  clock _ := seconds * second
  wall _ := seconds * second
  uuid i := uuid (k + i)
  token := (uuid k).text
  project _ := none

def runner : String := (uuid 13).text
def browser : String := (uuid 14).text
def otherBrowser : String := (uuid 15).text

def hello (session : String) (state : String) (resumeId : Field String) : Request :=
  .hello {
    proto := .value 1
    client := .absent
    runnerId := .value runner
    browserSession := .value session
    capabilities := .absent
    readiness := .value ⟨.value state, .absent⟩
    resumeId := resumeId }

def ask (prompt : String) : JobRequest where
  kind := .absent
  mode := .absent
  prompt := .value prompt
  files := .absent
  timeoutS := .absent
  newChat := .absent
  project := .absent
  requestId := .value (uuid 12).text

/- The epoch of the first process, the first offer, and what it is sent under. -/
def epoch : String := (uuid 0).text
def envelope : Envelope := ⟨.value runner, .value (uuid 3).text, .value epoch⟩

/-- A process starts, a runner is ready, a job is asked for and offered. -/
def offered : List Move :=
  [.start (moment 0 0) .ok, .call 0 (hello browser "ready" .absent) (moment 1 0), .commit 0 .ok,
    .call 0 (.createJob (ask "a question")) (moment 2 2), .commit 0 .ok,
    .call 0 (.nextOffer "headless" (.value runner) (.value epoch)) (moment 3 3), .commit 0 .ok]

/-- The runner comes back with another browser; the job it had ends. -/
def browserChanged : List Move :=
  offered ++ [.call 0 (hello otherBrowser "ready" .absent) (moment 4 4), .commit 0 .ok]

end Sample

open Sample in
theorem publishes_committed_state_offered :
    (World.after bridge (browserChanged ++ [.commit 0 .ok])).PublishesCommitted :=
  publishes_committed_state (.after (by decide +kernel))

open Sample in
theorem no_update_lost_browser_changed : (World.after bridge browserChanged).LosesNothing bridge := by
  have h : Reachable bridge anyMove (World.after bridge browserChanged) := .after (by decide +kernel)
  exact no_update_lost h

/- The second commit of the hello stops. -/
open Sample in
theorem uncommitted_state_published : ¬ ∀ (b : Bridge) (w : World),
    Reachable b anyMove w → w.PublishesCommitted := by
  intro h
  have hrun : Follows bridge anyMove .empty (browserChanged ++ [.commit 0 .failed]) ∧
      ((World.after bridge (browserChanged ++ [.commit 0 .failed])).processes[0]?).any (fun p =>
        p.waiting?.any fun mem => mem.published ∉
          (World.after bridge (browserChanged ++ [.commit 0 .failed])).durable) = true := by
    decide +kernel
  have hlaw := h bridge _ (.after hrun.1)
  have hshown := hrun.2
  cases hp : (World.after bridge (browserChanged ++ [.commit 0 .failed])).processes[0]? with
  | none =>
    rw [hp] at hshown
    cases hshown
  | some p =>
    rw [hp] at hshown
    cases p with
    | idle mem => exact of_decide_eq_true hshown (hlaw.memory 0 mem hp)
    | busy c => cases hshown
    | gone => cases hshown

end FrameNest.Capture
