import PhoneKey.Proofs.Config
import PhoneKey.Proofs.Session.Clockwork
import PhoneKey.Proofs.Simulation.Joining
import PhoneKey.Proofs.Timer

/-! # Heartbeats keep a connection alive

A peer that answers heartbeats is never given up as long as the ticks are not too far apart: by the time that
the timeout could have run out, a heartbeat was due at an earlier tick, and its answer was heard at that tick.
-/

namespace PhoneKey

namespace Session

/-- The answer to a heartbeat frees the session, which serves the queue. -/
theorem messageReceived_heartbeat {session : Session} {profile : SorcProfile}
    (waiting : session.outstanding = some .heartbeat) :
    session.messageReceived (profile.answer .heartbeat) = serve { session with outstanding := none } := by
  simp [messageReceived, SorcProfile.answer, Message.empty, waiting]

private theorem configured_polled {config : Config} {session : Session}
    (configured : session.Configured config) (now : Nat) : (session.polled now).Configured config :=
  { configured with
    heartbeatInterval := (Timer.interval_poll _ _).trans configured.heartbeatInterval
    checkInterval := (Timer.interval_poll _ _).trans configured.checkInterval }

end Session

namespace Bench

/-- Lets time pass, after which the session looks at its timers. -/
def elapse (bench : Bench Session) (gap : Nat) : Bench Session := ((bench.wait gap).act Drivable.tick).2

/-- A connection with nothing on its way: the next heartbeat is due one interval after the last sign of life,
and not before. -/
structure Beating (config : Config) (credentials : Credentials) (profile : SorcProfile)
    (bench : Bench Session) : Prop where
  linked : Linked config.defaultMtu.toNat credentials profile bench.layer bench.radio
  configured : bench.layer.Configured config
  free : bench.layer.outstanding = none
  empty : bench.layer.queue.items = []
  deadline : bench.layer.heartbeatTimer.deadline? =
    some (bench.layer.lastHeard + config.heartbeatInterval.toNat)
  recent : bench.clock < bench.layer.lastHeard + config.heartbeatInterval.toNat

/-- Time passes, and the session looks at its timers: it is still connected, and once nothing is on its way any
more it waits for nothing. No observer hears of any of this. -/
structure Outlasts (sorcId : Uuid) (bench : Bench Session) (gap : Nat) (next : Bench Session) : Prop where
  settles : Settles (bench.elapse gap) [] next
  ticked : (bench.elapse gap).layer.state = .connected sorcId
  settled : next.layer.state = .connected sorcId
  idle : ∀ limit, ((bench.elapse gap).settle limit).2.radio.parked = [] →
    ((bench.elapse gap).settle limit).2.layer.outstanding = none
  unheard : next.journal = bench.journal
  clock : next.clock = bench.clock + gap

variable {config : Config} {credentials : Credentials} {profile : SorcProfile} {bench reached : Bench Session}
  {gap : Nat}

private theorem Joined.beating (joined : Joined config credentials profile bench)
    (valid : config.check = .ok ()) : Beating config credentials profile bench := by
  obtain ⟨linked, attends⟩ := joined
  obtain ⟨heard, beat, _⟩ := attends.since (by rw [linked.connected]; rfl)
  refine ⟨linked, attends.configured, attends.free, attends.empty, ?_, ?_⟩
  · rw [beat, attends.configured.heartbeatInterval, heard]
  · have positive := (Config.usable_of_check valid).interval
    omega

/-- By the time that a heartbeat was due at the latest tick, the timeout has not run out at the next one. -/
theorem Beating.tick (beating : Beating config credentials profile bench) (valid : config.check = .ok ())
    (timely : gap ≤ config.heartbeatTimeout.toNat - config.heartbeatInterval.toNat) :
    bench.layer.tick (bench.clock + gap) =
      if bench.layer.lastHeard + config.heartbeatInterval.toNat ≤ bench.clock + gap then
        Session.serve { bench.layer.polled (bench.clock + gap) with
          queue := { bench.layer.queue with items := [.heartbeat] } }
      else .idle (bench.layer.polled (bench.clock + gap)) := by
  have connected : bench.layer.state.isConnected = true := by rw [beating.linked.connected]; rfl
  have ticked := Session.tick_ticked connected (bench.clock + gap)
  have usable := Config.usable_of_check valid
  have polled := Timer.poll_of_deadline beating.deadline (bench.clock + gap)
  generalize bench.layer.tick (bench.clock + gap) = turn at ticked ⊢
  cases ticked with
  | givesUp due silent =>
    have recent := beating.recent
    have longer := usable.timeout
    rw [beating.configured.heartbeatTimeout] at silent
    omega
  | waits held early =>
    rw [polled] at early
    split at early
    · cases early
    · next waiting => rw [if_neg waiting]
  | beats held due =>
    rw [polled] at due
    split at due
    · next reached =>
      have queued := @Session.queueHeartbeat_of_empty (bench.layer.polled (bench.clock + gap)) beating.free
        beating.empty (beating.configured.capacity ▸ usable.queue)
      rw [if_pos reached]
      exact congrArg Session.serve queued
    · cases due

private theorem Outlasts.of_leads
    (ticked : (bench.elapse gap).layer.state = .connected credentials.token.sorcId)
    (leads : Leads (bench.elapse gap) [] fun last =>
      last.journal = bench.journal ∧ last.clock = bench.clock + gap ∧
        Beating config credentials profile last) :
    ∃ next, Outlasts credentials.token.sorcId bench gap next ∧ Beating config credentials profile next := by
  obtain ⟨next, settles, unheard, clock, beating⟩ := leads.stops fun last met => met.2.2.linked.parked
  refine ⟨next, ⟨settles, ticked, beating.linked.connected, fun limit quiet => ?_, unheard, clock⟩, beating⟩
  rw [settles.eq_of_quiet quiet]
  exact beating.free

/-- Nothing is on its way after a tick at which no heartbeat was due. -/
theorem Beating.outlasts_early (beating : Beating config credentials profile bench)
    (valid : config.check = .ok ())
    (timely : gap ≤ config.heartbeatTimeout.toNat - config.heartbeatInterval.toNat)
    (early : ¬ bench.layer.lastHeard + config.heartbeatInterval.toNat ≤ bench.clock + gap) :
    ∃ next, Outlasts credentials.token.sorcId bench gap next ∧ Beating config credentials profile next := by
  have ticked := beating.tick valid timely
  rw [if_neg early] at ticked
  have acted := @act_of_prepared _ _ _ (bench.wait gap) beating.linked.prepared _ Drivable.tick ticked
  have elapsed : bench.elapse gap =
      (bench.wait gap).later (bench.layer.polled (bench.clock + gap)) bench.radio [] :=
    congrArg Prod.snd acted
  have polled := Timer.poll_of_deadline beating.deadline (bench.clock + gap)
  rw [if_neg early] at polled
  have still : (bench.layer.polled (bench.clock + gap)).heartbeatTimer = bench.layer.heartbeatTimer :=
    congrArg Prod.snd polled
  refine Outlasts.of_leads (by rw [elapsed]; exact beating.linked.connected) (.here ?_)
  rw [elapsed]
  refine ⟨rfl, rfl,
    ⟨beating.linked.connected, beating.linked.takes, beating.linked.parked, beating.linked.ends⟩, ?_,
    beating.free, beating.empty, ?_, Nat.not_le.mp early⟩
  · exact Session.configured_polled beating.configured (bench.clock + gap)
  · rw [layer_later, still]
    exact beating.deadline

/-- A heartbeat that is due goes out, and its answer is heard before time goes on. -/
theorem Beating.outlasts_due (beating : Beating config credentials profile bench)
    (valid : config.check = .ok ()) (handles : profile.Handles .heartbeat)
    (timely : gap ≤ config.heartbeatTimeout.toNat - config.heartbeatInterval.toNat)
    (due : bench.layer.lastHeard + config.heartbeatInterval.toNat ≤ bench.clock + gap) :
    ∃ next, Outlasts credentials.token.sorcId bench gap next ∧ Beating config credentials profile next := by
  have ticked := beating.tick valid timely
  rw [if_pos due] at ticked
  have linked : Linked config.defaultMtu.toNat credentials profile
      { bench.layer.polled (bench.clock + gap) with
        queue := { bench.layer.queue with items := [.heartbeat] } } bench.radio :=
    ⟨beating.linked.connected, beating.linked.takes, beating.linked.parked, beating.linked.ends⟩
  obtain ⟨channel, effects, served, unheard, asks⟩ := linked.serve handles.room beating.free rfl
  have acted := @act_of_prepared _ _ _ (bench.wait gap) beating.linked.prepared _ Drivable.tick
    (ticked.trans served)
  have elapsed : bench.elapse gap = (bench.wait gap).later _ (bench.radio.perform effects) effects :=
    congrArg Prod.snd acted
  refine Outlasts.of_leads (by rw [elapsed]; exact asks.connected) ?_
  rw [elapsed]
  obtain ⟨channel, radio, others, quiet, linked, leads⟩ := @Asks.answered
    ((bench.wait gap).later _ (bench.radio.perform effects) effects) _ credentials profile .heartbeat asks
    handles
  refine (leads _ ((Session.messageReceived_heartbeat rfl).trans (Session.serve_of_empty rfl))).imp ?_
  rintro last rfl
  refine ⟨?_, by rw [clock_later, clock_later]; rfl,
    ⟨linked.connected, linked.takes, linked.parked, linked.ends⟩, ?_, rfl, rfl, ?_, ?_⟩
  · rw [later_later, later_of_unheard]
    · rfl
    · simp only [List.all_append, unheard, quiet]
      rfl
  · exact { Session.configured_polled beating.configured (bench.clock + gap) with }
  · have polled := Timer.poll_of_deadline beating.deadline (bench.clock + gap)
    rw [if_pos due] at polled
    have started := congrArg (fun asked => Timer.deadline? asked.2) polled
    refine started.trans ?_
    rw [clock_later, Timer.start, beating.configured.heartbeatInterval]
    rfl
  · have positive := (Config.usable_of_check valid).interval
    simp only [clock_later, layer_later, Turn.idle]
    omega

/-- No tick that comes in time finds a reason to give the connection up. -/
theorem Beating.outlasts (beating : Beating config credentials profile bench) (valid : config.check = .ok ())
    (handles : profile.Handles .heartbeat)
    (timely : gap ≤ config.heartbeatTimeout.toNat - config.heartbeatInterval.toNat) :
    ∃ next, Outlasts credentials.token.sorcId bench gap next ∧ Beating config credentials profile next := by
  by_cases due : bench.layer.lastHeard + config.heartbeatInterval.toNat ≤ bench.clock + gap
  · exact beating.outlasts_due valid handles timely due
  · exact beating.outlasts_early valid timely due

/-- A peer that answers heartbeats is never given up if no two ticks are further apart than the timeout exceeds
the interval. -/
theorem outlasts_of_joins (valid : config.check = .ok ())
    (joins : Joins config credentials profile bench reached) (shares : profile.Shares credentials.token)
    (answers : profile.answersHeartbeats = true) {gaps : Nat → Nat}
    (timely : ∀ index, gaps index ≤ config.heartbeatTimeout.toNat - config.heartbeatInterval.toNat) :
    ∃ benches : Nat → Bench Session, benches 0 = reached ∧
      ∀ index, Outlasts credentials.token.sorcId (benches index) (gaps index) (benches (index + 1)) := by
  obtain ⟨honest, later, remains, joined⟩ := joins.joined shares
  have handles : profile.Handles .heartbeat := by
    refine ⟨honest.room, answers, fun context => (context.length_encrypt _).1.trans ?_⟩
    simp [SorcProfile.answer, Message.empty, Message.toBytes, maxMessageLength]
  have rounds : ∀ (bench : { bench // Beating config credentials later bench }) (index : Nat),
      ∃ next : { bench // Beating config credentials later bench },
        Outlasts credentials.token.sorcId bench.1 (gaps index) next.1 := by
    intro bench index
    obtain ⟨next, outlasts, beating⟩ := bench.2.outlasts valid (remains.handles handles) (timely index)
    exact ⟨⟨next, beating⟩, outlasts⟩
  choose next outlasts using rounds
  let benches : Nat → { bench // Beating config credentials later bench } :=
    Nat.rec ⟨reached, joined.beating valid⟩ fun index bench => next bench index
  exact ⟨fun index => (benches index).1, rfl, fun index => outlasts (benches index) index⟩

/-- A stack as it is set up by default, and a peer that shares the key of the zero token. -/
def standardBench : Bench Session :=
  .new (.fresh (Channel.zeroHandset 0) 20 .standard) (.new (.ofToken Channel.zeroCredentials.token))

theorem outlasts_standard :
    let reached := ((standardBench.dial Channel.zeroCredentials).settle 40).2
    let gaps := fun index => if index % 2 = 0 then 4000 else 1500
    Config.standard.check = .ok () ∧
    Joins .standard Channel.zeroCredentials (.ofToken Channel.zeroCredentials.token) standardBench reached ∧
    (∀ index, gaps index ≤
      Config.standard.heartbeatTimeout.toNat - Config.standard.heartbeatInterval.toNat) ∧
    ∃ benches : Nat → Bench Session, benches 0 = reached ∧
      ∀ index, Outlasts Channel.zeroCredentials.token.sorcId (benches index) (gaps index)
        (benches (index + 1)) := by
  intro reached gaps
  have settled : reached.radio.parked = [] ∧ reached.layer.state.isConnected = true := by decide +kernel
  obtain ⟨quiet, connected⟩ := settled
  have joins : Joins .standard Channel.zeroCredentials (.ofToken Channel.zeroCredentials.token) standardBench
      reached := ⟨⟨Channel.zeroHandset 0, [], rfl⟩, rfl, ⟨rfl, rfl, rfl⟩, ⟨40, rfl⟩, quiet, connected⟩
  have timely : ∀ index, gaps index ≤
      Config.standard.heartbeatTimeout.toNat - Config.standard.heartbeatInterval.toNat := by
    intro index
    dsimp only [gaps]
    split <;> decide
  exact ⟨rfl, joins, timely, outlasts_of_joins rfl joins ⟨rfl, rfl⟩ rfl timely⟩

end Bench

end PhoneKey
