import PhoneKey.Proofs.Session.Clockwork
import PhoneKey.Proofs.Session.Renewal
import PhoneKey.Proofs.Session.Stale
import PhoneKey.Proofs.Session.Timeouts
import PhoneKey.Proofs.Timer

/-! # Silence is noticed

A session looks at the time of the last readable message only when a timer of its own fires, which starts
again at the time of the question. However the ticks are spaced, a session is given up only after the whole
timeout without a readable message, and no tick leaves it connected once twice the timeout has passed.
-/

namespace PhoneKey

def ChannelReport.isReadable : ChannelReport → Bool
  | .messageReceived (.ok _) => true
  | _ => false

namespace Session

variable {defaultMtu now : Nat} {config : Config} {session : Session} {calls : List (Call Session Input)}

/-- Only what the radio received can be read. -/
theorem unread_of_other (settled : Settled defaultMtu session) (lower : Channel.Input)
    (unsent : ∀ message, lower ≠ .send message) (unheard : ∀ result, lower ≠ .receive result) :
    (session.channel.act lower).reports.any ChannelReport.isReadable = false := by
  obtain ⟨_, news⟩ := settled.lower ⟨lower, unsent, rfl⟩
  generalize reports : (session.channel.act lower).reports = told at news ⊢
  generalize session.state = before, (session.channel.act lower).state.state = after at news
  cases news with
  | received sorcId result =>
    obtain ⟨raw, same⟩ := (Channel.act_transition settled.lawful lower).receives reports
    exact absurd same (unheard raw)
  | _ => rfl

/-- Whether a call connects the session. -/
def establishes (call : Call Session Input) : Bool :=
  !call.before.state.isConnected && (call.before.act call.input).state.state.isConnected

/-- Whether a call brings a message that can be read. -/
def reads (call : Call Session Input) : Bool :=
  match call.input.action with
  | .receive result => (call.before.channel.receive result).reports.any ChannelReport.isReadable
  | _ => false

/-- When the latest of the calls of a kind was made. -/
def latest (kind : Call Session Input → Bool) (calls : List (Call Session Input)) : Nat :=
  ((calls.filter kind).getLast?.map fun call => call.input.now).getD 0

/-- The later of the time at which the session became connected and the time of the latest readable
message. -/
def lastSign (calls : List (Call Session Input)) : Nat := max (latest establishes calls) (latest reads calls)

theorem latest_concat (kind : Call Session Input → Bool) (calls : List (Call Session Input))
    (call : Call Session Input) :
    latest kind (calls ++ [call]) = if kind call then call.input.now else latest kind calls := by
  cases found : kind call <;> simp [latest, found]

private theorem latest_le (kind : Call Session Input → Bool) (passed : ∀ call ∈ calls, call.input.now ≤ now) :
    latest kind calls ≤ now := by
  rw [latest]
  cases last : (calls.filter kind).getLast? with
  | none => exact Nat.zero_le now
  | some call => exact passed call (List.mem_filter.mp (List.mem_of_getLast? last)).1

private theorem lastSign_le (passed : ∀ call ∈ calls, call.input.now ≤ now) : lastSign calls ≤ now :=
  max_le (latest_le _ passed) (latest_le _ passed)

/-- A call with a sign of life is the latest one with a sign of life. -/
theorem lastSign_concat (call : Call Session Input)
    (passed : ∀ earlier ∈ calls, earlier.input.now ≤ call.input.now) :
    lastSign (calls ++ [call]) =
      if establishes call || reads call then call.input.now else lastSign calls := by
  have connected := latest_le establishes passed
  have read := latest_le reads passed
  rw [lastSign, latest_concat, latest_concat]
  cases establishes call <;> cases reads call <;> simp [lastSign, connected, read]

/-- A connected session knows when it had the last sign of life, and asks for the time before twice the
timeout has passed since then. -/
def Clockwork.Attentive (timeout since : Nat) (clockwork : Clockwork) : Prop :=
  clockwork.state.isConnected = true →
    clockwork.lastHeard = since ∧
      ∃ deadline, clockwork.checkTimer.deadline? = some deadline ∧ deadline < since + 2 * timeout

/-- What the channel reports keeps a session attentive: if it is a sign of life, since now. -/
theorem Wound.attentive {reports : List ChannelReport} {clockwork : Clockwork} {timeout since : Nat}
    (wound : Wound now session reports clockwork) (attentive : session.clockwork.Attentive timeout since)
    (interval : session.checkTimer.interval = timeout) (positive : 0 < timeout) (passed : since ≤ now) :
    clockwork.Attentive timeout
      (if (!session.state.isConnected && clockwork.state.isConnected) || reports.any ChannelReport.isReadable
        then now else since) := by
  intro connected
  cases wound with
  | closed closed => cases connected.symm.trans closed
  | kept unheard =>
    have before : session.state.isConnected = true := connected
    have unread : reports.any ChannelReport.isReadable = false := by
      rw [List.any_eq_false]
      intro report listed
      cases report with
      | messageReceived result =>
        cases result with
        | ok message => exact absurd listed (unheard message)
        | error cause => exact Bool.false_ne_true
      | _ => exact Bool.false_ne_true
    simp only [before, unread, Bool.not_true, Bool.false_and, Bool.or_false, Bool.false_eq_true, if_false]
    exact attentive connected
  | heard read =>
    have found : reports.any ChannelReport.isReadable = true := List.any_eq_true.mpr ⟨_, read, rfl⟩
    obtain ⟨_, deadline, due, soon⟩ := attentive connected
    simp only [found, Bool.or_true, if_true]
    exact ⟨trivial, deadline, due, by omega⟩
  | established opening =>
    simp only [opening, Bool.not_false, Bool.true_and, connected, Bool.true_or, if_true]
    refine ⟨trivial, now + timeout, ?_, by omega⟩
    rw [← interval]
    rfl

/-- A session that holds on at a tick stays attentive, and twice the timeout has not passed. -/
theorem attentive_polled {timeout since : Nat} (attentive : session.clockwork.Attentive timeout since)
    (connected : session.state.isConnected = true) (held : session.HoldsOn now)
    (interval : session.checkTimer.interval = timeout) (limit : session.heartbeatTimeout = timeout)
    (positive : 0 < timeout) :
    (session.polled now).clockwork.Attentive timeout since ∧ now < since + 2 * timeout := by
  obtain ⟨heard, deadline, due, soon⟩ := attentive connected
  by_cases fires : deadline ≤ now
  · have asked : session.checkTimer.poll now = (true, session.checkTimer.start now) :=
      (Timer.poll_of_deadline due now).trans (if_pos fires)
    have recent : now < since + timeout := by
      rcases held with early | recent
      · cases (congrArg Prod.fst asked).symm.trans early
      · have same : session.lastHeard = since := heard
        omega
    refine ⟨fun _ => ⟨heard, now + timeout, ?_, by omega⟩, by omega⟩
    rw [← interval]
    exact congrArg (fun asked => asked.2.deadline?) asked
  · have asked : session.checkTimer.poll now = (false, session.checkTimer) :=
      (Timer.poll_of_deadline due now).trans (if_neg fires)
    refine ⟨fun _ => ⟨heard, deadline, ?_, soon⟩, by omega⟩
    exact (congrArg (fun asked => asked.2.deadline?) asked).trans due

/-- What a call may make of silence: a connection is given up only by a tick, once nothing was heard for the
whole timeout, and no tick leaves it up once nothing was heard for twice the timeout. -/
structure NoticesSilence (timeout since : Nat) (session : Session) (input : Input) : Prop where
  patient : ∀ effect ∈ (session.act input).effects, effect.isTimeout = true →
    input.action = .tick ∧ since + timeout ≤ input.now
  attentive : input.action = .tick → (session.act input).state.state.isConnected = true →
    input.now < since + 2 * timeout

/-- A call that keeps a session attentive and makes of silence what it may. -/
structure Watches (timeout : Nat) (calls : List (Call Session Input)) (session : Session) (input : Input) :
    Prop where
  attentive : (session.act input).state.clockwork.Attentive timeout (lastSign (calls ++ [⟨session, input⟩]))
  notices : NoticesSilence timeout (lastSign calls) session input

section

variable {timeout : Nat} {input : Input} (settled : Settled defaultMtu session)
  (interval : session.checkTimer.interval = timeout) (limit : session.heartbeatTimeout = timeout)
  (positive : 0 < timeout) (attentive : session.clockwork.Attentive timeout (lastSign calls))
  (passed : ∀ call ∈ calls, call.input.now ≤ input.now)

include attentive passed

/-- A call that neither connects nor brings a message, and leaves the clockwork alone. -/
theorem watches_of_kept (kept : (session.act input).state.clockwork = session.clockwork)
    (unread : reads ⟨session, input⟩ = false)
    (calm : ∀ effect ∈ (session.act input).effects, effect.isTimeout = false) (untimed : input.action ≠ .tick) :
    Watches timeout calls session input where
  attentive := by
    have same : (session.act input).state.state = session.state := congrArg Clockwork.state kept
    rw [lastSign_concat _ passed, unread, establishes, same, kept, Bool.not_and_self, Bool.or_false]
    exact attentive
  notices :=
    { patient := fun effect member timeout => absurd (calm effect member) (by simp [timeout])
      attentive := fun ticks => absurd ticks untimed }

include settled interval positive

/-- A call that takes over what the channel does. -/
theorem watches_of_absorb (lower : Channel.Input) (unsent : ∀ message, lower ≠ .send message)
    (other : lower ≠ .close (.protocol .heartbeatTimedOut)) (untimed : input.action ≠ .tick)
    (same : session.act input = session.absorb input.now (session.channel.act lower))
    (read : reads ⟨session, input⟩ = (session.channel.act lower).reports.any ChannelReport.isReadable) :
    Watches timeout calls session input where
  attentive := by
    have wound : Wound input.now session (session.channel.act lower).reports _ :=
      absorb_wound settled ⟨lower, unsent, rfl⟩
    have kept := wound.attentive attentive interval positive (lastSign_le passed)
    rw [← same, ← read] at kept
    rw [lastSign_concat _ passed]
    exact kept
  notices :=
    { patient := by
        intro effect member timeout
        rw [same] at member
        exact absurd (timedOut_absorb settled lower unsent member timeout) other
      attentive := fun ticks => absurd ticks untimed }

include limit

private theorem watches_tick (ticks : input.action = .tick) : Watches timeout calls session input := by
  obtain ⟨now, action⟩ := input
  cases ticks
  cases connected : session.state.isConnected with
  | false =>
    have idle : session.act ⟨now, .tick⟩ = .idle session := by
      simp only [act, tick, connected, Bool.false_eq_true, if_false]
    refine ⟨?_, ?_, ?_⟩
    · rw [idle]
      intro connects
      cases connected.symm.trans connects
    · rw [idle]
      exact fun effect member => absurd member List.not_mem_nil
    · rw [idle]
      intro _ connects
      cases connected.symm.trans connects
  | true =>
    have since : lastSign (calls ++ [⟨session, now, .tick⟩]) = lastSign calls := by
      rw [lastSign_concat _ passed, establishes, connected]
      rfl
    have ticked : Ticked now session (session.act ⟨now, .tick⟩) := tick_ticked connected now
    have holds : session.HoldsOn now →
        (session.polled now).clockwork.Attentive timeout (lastSign calls) ∧
          now < lastSign calls + 2 * timeout :=
      fun held => attentive_polled attentive connected held interval limit positive
    generalize done : session.act ⟨now, .tick⟩ = turn at ticked
    cases ticked with
    | givesUp due silent =>
      have checked : Settled defaultMtu { session with checkTimer := (session.checkTimer.poll now).2 } :=
        settled.of_connected connected rfl rfl
      have ended := state_close checked now (.protocol .heartbeatTimedOut)
      generalize close { session with checkTimer := _ } now _ = turn at done ended
      have disconnected : turn.state.state.isConnected = false := by rw [ended]; rfl
      refine ⟨?_, ?_, ?_⟩
      · rw [done]
        intro connects
        cases disconnected.symm.trans connects
      · intro effect member timesOut
        have heard : session.lastHeard = lastSign calls := (attentive connected).1
        refine ⟨rfl, ?_⟩
        change lastSign calls + timeout ≤ now
        omega
      · rw [done]
        intro _ connects
        cases disconnected.symm.trans connects
    | waits held early =>
      obtain ⟨kept, soon⟩ := holds held
      refine ⟨?_, ?_, fun _ _ => soon⟩
      · rw [since, done]
        exact kept
      · rw [done]
        exact fun effect member => absurd member List.not_mem_nil
    | beats held due =>
      obtain ⟨kept, soon⟩ := holds held
      refine ⟨?_, ?_, fun _ _ => soon⟩
      · rw [since, done, clockwork_serve, clockwork_queueHeartbeat]
        exact kept
      · rw [done]
        intro effect member timesOut
        cases timesOut.symm.trans (Effect.isTimeout_of_isServing (serving_serve _ effect member))

/-- Every call of an attentive session keeps it attentive and makes of silence what it may. -/
theorem watches_act : Watches timeout calls session input := by
  have absorbs := fun lower =>
    @watches_of_absorb defaultMtu session calls timeout input settled interval positive attentive passed lower
  have unread := @unread_of_other defaultMtu session settled
  have kept := fun kept => @watches_of_kept session calls timeout input attentive passed kept
  obtain ⟨now, action⟩ := input
  cases action with
  | connect credentials =>
    by_cases admitted : Channel.admits session.state credentials.token.sorcId = true
    · refine absorbs (.connect credentials) (by simp) (by simp) (by simp) ?_ (unread _ (by simp) (by simp)).symm
      simp only [act, connect, admitted, if_true]
      rfl
    · have idle : session.act ⟨now, .connect credentials⟩ = .idle session := by
        simp only [act, connect, admitted, Bool.false_eq_true, if_false]
      refine kept (by rw [idle]; rfl) rfl ?_ (by simp)
      rw [idle]
      exact fun effect member => absurd member List.not_mem_nil
  | disconnect =>
    exact absorbs (.close .userRequested) (by simp) (by simp) (by simp) rfl
      (unread _ (by simp) (by simp)).symm
  | requestGrant grant =>
    exact kept (clockwork_requestGrant session grant) rfl (isTimeout_requestGrant grant) (by simp)
  | radioEvent event =>
    exact absorbs (.radioEvent event) (by simp) (by simp) (by simp) rfl (unread _ (by simp) (by simp)).symm
  | confirm result =>
    exact absorbs (.confirm result) (by simp) (by simp) (by simp) rfl (unread _ (by simp) (by simp)).symm
  | receive result => exact absorbs (.receive result) (by simp) (by simp) (by simp) rfl rfl
  | tick => exact watches_tick settled interval limit positive attentive passed rfl

end

/-- The calls of a run are made at the times of its inputs. -/
theorem passed_of_ordered {start : Session} {inputs : List Input} {input : Input}
    (ordered : (inputs ++ [input]).Pairwise fun earlier later => earlier.now ≤ later.now) :
    ∀ call ∈ start.history inputs, call.input.now ≤ input.now := by
  intro call made
  obtain ⟨earlier, later, rfl, _⟩ := Turn.before_of_mem_calls Session.act made
  exact (List.pairwise_append.mp ordered).2.2 call.input (by simp) input List.mem_cons_self

/-- After inputs in the order of time a session knows when it had the last sign of life. -/
theorem attentive_of_run (handset : Handset) (defaultMtu : Nat) {config : Config} {inputs : List Input}
    (positive : 0 < config.heartbeatTimeout.toNat)
    (ordered : inputs.Pairwise fun earlier later => earlier.now ≤ later.now) :
    ((fresh handset defaultMtu config).run inputs).state.clockwork.Attentive config.heartbeatTimeout.toNat
      (lastSign ((fresh handset defaultMtu config).history inputs)) := by
  induction inputs using List.reverseRecOn with
  | nil =>
    intro connected
    cases connected
  | append_singleton inputs input ih =>
    have earlier := (List.pairwise_append.mp ordered).1
    have configured := configured_of_run handset defaultMtu config inputs
    rw [run, history, Turn.calls_concat, Turn.state_forEach_concat]
    exact (watches_act (settled_of_run handset defaultMtu config inputs) configured.checkInterval
      configured.heartbeatTimeout positive (ih earlier) (passed_of_ordered ordered)).attentive

/-- After inputs in the order of time, a session whose timeout is not zero is given up only by a tick that
comes once nothing was heard for the whole timeout, and no tick leaves it connected once nothing was heard for
twice the timeout. -/
theorem noticesSilence_of_run (handset : Handset) (defaultMtu : Nat) (config : Config) (inputs : List Input)
    (input : Input) (positive : 0 < config.heartbeatTimeout.toNat)
    (ordered : (inputs ++ [input]).Pairwise fun earlier later => earlier.now ≤ later.now) :
    NoticesSilence config.heartbeatTimeout.toNat (lastSign ((fresh handset defaultMtu config).history inputs))
      ((fresh handset defaultMtu config).run inputs).state input := by
  have configured := configured_of_run handset defaultMtu config inputs
  have earlier := attentive_of_run handset defaultMtu positive (List.pairwise_append.mp ordered).1
  exact (watches_act (settled_of_run handset defaultMtu config inputs) configured.checkInterval
    configured.heartbeatTimeout positive earlier (passed_of_ordered ordered)).notices

/-- The latest message arrives two seconds after the handshake, and the timer fires six seconds after it. -/
def silentInputs : List Input := strayInputs ++ [⟨6000, .tick⟩]

/-- The timer fires too early to notice the silence, so that the connection is still up almost ten seconds
after the latest message. -/
theorem noticesSilence_late :
    let session := fresh (Channel.zeroHandset 8) 200 .standard
    let last := (session.run silentInputs).state
    NoticesSilence 6000 (lastSign (session.history silentInputs)) last ⟨11999, .tick⟩ ∧
      lastSign (session.history silentInputs) = 2000 ∧
      (last.act ⟨11999, .tick⟩).state.state.isConnected = true := by
  refine ⟨?_, by decide +kernel⟩
  exact noticesSilence_of_run _ _ .standard _ _ (by decide) (by decide +kernel)

end Session

end PhoneKey
