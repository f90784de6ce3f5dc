import PhoneKey.Proofs.Session.Calls
import PhoneKey.Proofs.Simulation.Joining

/-! # Grants over a new connection

Grants are asked for back to back, before anything is taken to the peer. The first one goes out, as many as the
queue has room for wait behind it, and the others are refused. The peer then answers those that were accepted,
one after the other and in order.
-/

namespace PhoneKey

/-- What is published while grants are answered, always the oldest one that is open. -/
def GrantChange.answers (answer : UInt16 → GrantResponse) : List UInt16 → List GrantChange
  | [] => []
  | grant :: rest => ⟨rest, .answered (answer grant)⟩ :: answers answer rest

namespace Bench

/-- Asks for grants one after the other, and tells which of them were accepted. -/
def requestAll (bench : Bench Session) : List UInt16 → List Bool × Bench Session
  | [] => ([], bench)
  | grant :: rest =>
    let (accepted, _) := bench.ready.requestGrant grant
    let (_, next) := bench.act fun session _ => (session.requestGrant grant).2
    let (following, last) := next.requestAll rest
    (accepted :: following, last)

/-- The phone waits for the answer to one grant, and others are queued behind it. -/
structure Pending (defaultMtu capacity : Nat) (credentials : Credentials) (profile : SorcProfile)
    (grant : UInt16) (rest : List UInt16) (session : Session) (radio : Radio) : Prop where
  asks : Asks defaultMtu credentials profile (.grant grant) session radio
  queue : session.queue = ⟨rest.map .grant, capacity⟩
  openGrants : session.openGrants = grant :: rest

variable {bench : Bench Session} {session : Session} {radio : Radio} {defaultMtu capacity : Nat}
  {credentials : Credentials} {profile : SorcProfile} {grant : UInt16} {rest : List UInt16} {config : Config}

/-- A grant is accepted as long as the queue has room for it; it changes nothing but the queue. -/
theorem Pending.request (pending : Pending defaultMtu capacity credentials profile grant rest session radio)
    (asked : UInt16) :
    (session.requestGrant asked).1 = decide (rest.length < capacity) ∧
      radio.perform (session.requestGrant asked).2.effects = radio ∧
      Pending defaultMtu capacity credentials profile grant
        (if rest.length < capacity then rest ++ [asked] else rest) (session.requestGrant asked).2.state
        radio := by
  obtain ⟨asks, queue, openGrants⟩ := pending
  have taken := Session.requestGrant_of_connected asks.connected asked
  -- Whatever becomes of the request, the session goes on to wait for the answer to the first one.
  have waits : ∀ (items : Backlog Request) (listed : OpenGrants) (accepted : Bool),
      (Session.register { session with queue := items } credentials.token.sorcId asked accepted
          listed).andThen Session.serve =
        Session.register { session with queue := items } credentials.token.sorcId asked accepted listed := by
    intro items listed accepted
    exact (Turn.andThen_congr (Session.serve_of_waiting asks.waiting)).trans (Turn.andThen_idle _)
  have asking : ∀ (items : Backlog Request) (listed : OpenGrants),
      Asks defaultMtu credentials profile (.grant grant)
        { session with queue := items, openGrants := listed } radio :=
    fun _ _ => ⟨asks.connected, asks.takes, asks.waiting, asks.ends⟩
  by_cases room : rest.length < capacity
  · have enqueued : session.queue.enqueue (.grant asked) =
        .ok ⟨(rest ++ [asked]).map .grant, capacity⟩ := by
      simp [queue, Backlog.enqueue, room]
    rw [enqueued] at taken
    dsimp only at taken
    rw [taken, waits, if_pos room]
    exact ⟨(decide_eq_true room).symm, rfl, asking _ _, rfl, by rw [openGrants]; rfl⟩
  · have full : session.queue.enqueue (.grant asked) = .error .maximumElementsReached := by
      simp [queue, Backlog.enqueue, Nat.not_lt.mp room]
    rw [full] at taken
    dsimp only at taken
    rw [taken, if_neg room]
    erw [waits session.queue]
    exact ⟨(decide_eq_false room).symm, rfl, asking _ _, queue, openGrants⟩

theorem requestAll_cons (prepared : Prepared bench.layer bench.radio) (grant : UInt16) (rest : List UInt16) :
    bench.requestAll (grant :: rest) =
      let (accepted, turn) := bench.layer.requestGrant grant
      let (following, last) :=
        (bench.later turn.state (bench.radio.perform turn.effects) turn.effects).requestAll rest
      (accepted :: following, last) := by
  have ready : bench.ready = bench.layer := prepared
  have acted := @act_of_prepared _ _ _ bench prepared _ (fun session _ => (session.requestGrant grant).2) rfl
  simp only [requestAll, ready, acted]

/-- Requests that follow the first one are accepted until the queue is full. -/
theorem Pending.requestAll (asked : List UInt16)
    (pending : Pending defaultMtu capacity credentials profile grant rest bench.layer bench.radio) :
    (bench.requestAll asked).1 =
        (List.range asked.length).map (fun index => decide (rest.length + index < capacity)) ∧
      Pending defaultMtu capacity credentials profile grant (rest ++ asked.take (capacity - rest.length))
        (bench.requestAll asked).2.layer (bench.requestAll asked).2.radio := by
  induction asked generalizing bench rest with
  | nil => simpa [Bench.requestAll] using pending
  | cons next following ih =>
    obtain ⟨accepted, quiet, goesOn⟩ := pending.request next
    rw [requestAll_cons pending.asks.prepared]
    dsimp only
    rw [quiet, accepted]
    obtain ⟨flags, held⟩ := @ih (bench.later (bench.layer.requestGrant next).2.state bench.radio
      (bench.layer.requestGrant next).2.effects) _ goesOn
    rw [flags, List.length_cons, List.range_succ_eq_map, List.map_cons, List.map_map]
    refine ⟨congrArg _ (List.map_congr_left fun index _ => ?_), ?_⟩
    · rw [Function.comp_apply, decide_eq_decide]
      split
      · rw [List.length_append, List.length_singleton]
        omega
      · omega
    · convert held using 1
      split
      · next room =>
        obtain ⟨more, same⟩ := Nat.exists_eq_add_of_lt room
        rw [List.length_append, List.length_singleton, List.append_assoc, same]
        congr 1
        have first : rest.length + more + 1 - rest.length = more + 1 := by omega
        have others : rest.length + more + 1 - (rest.length + 1) = more := by omega
        rw [first, others]
        rfl
      · next full =>
        have none : capacity - rest.length = 0 := by omega
        rw [none, List.take_zero, List.take_zero]

/-- The phone waits for no answer, and grants are queued. -/
structure Queued (defaultMtu capacity : Nat) (credentials : Credentials) (profile : SorcProfile)
    (grants : List UInt16) (session : Session) (radio : Radio) : Prop where
  linked : Linked defaultMtu credentials profile session radio
  free : session.outstanding = none
  queue : session.queue = ⟨grants.map .grant, capacity⟩
  openGrants : session.openGrants = grants

/-- The oldest queued grant goes out. -/
theorem Queued.serve
    (queued : Queued defaultMtu capacity credentials profile (grant :: rest) session radio)
    (room : Frame.headerSize < profile.mtu.toNat) :
    grantChanges session.serve.effects = [] ∧
      Pending defaultMtu capacity credentials profile grant rest session.serve.state
        (radio.perform session.serve.effects) := by
  obtain ⟨linked, free, queue, openGrants⟩ := queued
  obtain ⟨channel, effects, served, unheard, asks⟩ := linked.serve room free (by rw [queue]; rfl)
  rw [served]
  exact ⟨grantChanges_of_unheard unheard, asks, by rw [queue], openGrants⟩

private theorem Joined.queued (joined : Joined config credentials profile bench) :
    Queued config.defaultMtu.toNat config.maxEnqueuedMessages.toNat credentials profile [] bench.layer
      bench.radio := by
  obtain ⟨linked, attends⟩ := joined
  refine ⟨linked, attends.free, ?_, attends.unlisted⟩
  rw [← attends.configured.capacity, List.map_nil, ← attends.empty]

/-- The first grant goes out at once. -/
theorem Queued.request (queued : Queued defaultMtu capacity credentials profile [] session radio)
    (room : Frame.headerSize < profile.mtu.toNat) (spacious : 0 < capacity) (asked : UInt16) :
    (session.requestGrant asked).1 = true ∧
      Pending defaultMtu capacity credentials profile asked [] (session.requestGrant asked).2.state
        (radio.perform (session.requestGrant asked).2.effects) := by
  obtain ⟨linked, free, queue, openGrants⟩ := queued
  have taken := Session.requestGrant_of_connected linked.connected asked
  have enqueued : session.queue.enqueue (.grant asked) = .ok ⟨[asked].map .grant, capacity⟩ := by
    simp [queue, Backlog.enqueue, Nat.not_le.mpr spacious]
  -- The session as it is when the request is registered.
  have registered : Queued defaultMtu capacity credentials profile [asked]
      { session with queue := ⟨[asked].map .grant, capacity⟩, openGrants := [asked] } radio :=
    ⟨⟨linked.connected, linked.takes, linked.parked, linked.ends⟩, free, rfl, rfl⟩
  obtain ⟨_, pending⟩ := registered.serve room
  rw [enqueued, openGrants] at taken
  rw [taken]
  exact ⟨rfl, pending⟩

/-- The peer's answer to the oldest grant is published, and then the queue is served. -/
theorem Pending.heard
    (pending : Pending defaultMtu capacity credentials profile grant rest bench.layer bench.radio)
    (handles : profile.Handles (.grant grant)) (same : profile.sorcId = credentials.token.sorcId)
    (ascii : profile.grantText.all (· < 0x80) = true) :
    ∃ session radio effects, Queued defaultMtu capacity credentials profile rest session radio ∧
      grantChanges effects = [⟨rest, .answered (profile.response grant)⟩] ∧
      Leads bench [] (· = bench.later session.serve.state (radio.perform session.serve.effects)
        (effects ++ session.serve.effects)) := by
  obtain ⟨asks, queue, openGrants⟩ := pending
  obtain ⟨channel, radio, effects, unheard, linked, leads⟩ := asks.answered handles
  have told := Session.messageReceived_grant linked.connected same ascii grant
  have settled := @Session.settle_of_waiting { bench.layer with channel, lastHeard := bench.clock } grant
    asks.waiting (profile.response grant)
  rw [settled] at told
  have leads := leads _ told
  refine ⟨{ bench.layer with channel, lastHeard := bench.clock, outstanding := none, openGrants := rest },
    radio, effects ++ [.telemetry (.grantAnswered profile.sorcId grant profile.grantStatus),
      .announce (.grants ⟨rest, .answered (profile.response grant)⟩)],
    ⟨⟨linked.connected, linked.takes, linked.parked, linked.ends⟩, rfl, queue, rfl⟩, ?_, ?_⟩
  · rw [grantChanges_append, grantChanges_of_unheard unheard]
    rfl
  · simp only [openGrants, List.tail_cons] at leads
    rw [List.append_assoc]
    exact leads

/-- The peer answers every grant that waits, and the answers are published one after the other. -/
theorem Pending.answered
    (pending : Pending defaultMtu capacity credentials profile grant rest bench.layer bench.radio)
    (handles : ∀ grant, profile.Handles (.grant grant)) (same : profile.sorcId = credentials.token.sorcId)
    (ascii : profile.grantText.all (· < 0x80) = true) :
    Leads bench [] fun last =>
      Queued defaultMtu capacity credentials profile [] last.layer last.radio ∧
      ∃ effects, grantChanges effects = GrantChange.answers profile.response (grant :: rest) ∧
        last = bench.later last.layer last.radio effects := by
  induction rest generalizing grant bench with
  | nil =>
    obtain ⟨session, radio, effects, queued, news, leads⟩ := pending.heard (handles grant) same ascii
    rw [Session.serve_of_empty (by rw [queued.queue]; rfl)] at leads
    refine leads.imp ?_
    rintro last rfl
    exact ⟨queued, effects ++ [], by rw [List.append_nil, news]; rfl, rfl⟩
  | cons next following ih =>
    obtain ⟨session, radio, effects, queued, news, leads⟩ := pending.heard (handles grant) same ascii
    obtain ⟨silent, pending⟩ := queued.serve (handles next).room
    refine leads.append ?_
    rintro between rfl
    refine (ih pending).imp ?_
    rintro last ⟨satisfied, answers, published, same⟩
    refine ⟨satisfied, effects ++ session.serve.effects ++ answers, ?_, same.trans (later_later _ _)⟩
    rw [grantChanges_append, grantChanges_append, news, silent, published]
    rfl

/-- Of grants that are asked for back to back the first ones are accepted, one more than the queue has room for.
Once nothing is on its way any more, each of them has been answered in order, and nothing waits. -/
structure AnswersAll (capacity : Nat) (credentials : Credentials) (profile : SorcProfile)
    (grants : List UInt16) (bench : Bench Session) : Prop where
  accepted : (bench.requestAll grants).1 =
    (List.range grants.length).map fun index => decide (index < capacity + 1)
  answered : ∃ last, Settles (bench.requestAll grants).2 [] last ∧
    (∀ subscriber, (bench.requestAll grants).2.broadcast.Lists subscriber →
      grantsHeard subscriber last.journal = grantsHeard subscriber (bench.requestAll grants).2.journal ++
        GrantChange.answers profile.response (grants.take (capacity + 1))) ∧
    last.layer.state = .connected credentials.token.sorcId ∧ last.layer.outstanding = none ∧
    last.layer.queue.items = [] ∧ last.layer.openGrants = []

private theorem Queued.answersAll
    (queued : Queued defaultMtu capacity credentials profile [] bench.layer bench.radio)
    (handles : ∀ grant, profile.Handles (.grant grant)) (same : profile.sorcId = credentials.token.sorcId)
    (ascii : profile.grantText.all (· < 0x80) = true) (spacious : 0 < capacity) (grants : List UInt16) :
    AnswersAll capacity credentials profile grants bench := by
  have requested : (bench.requestAll grants).1 =
        (List.range grants.length).map (fun index => decide (index < capacity + 1)) ∧
      Leads (bench.requestAll grants).2 [] fun last =>
        Queued defaultMtu capacity credentials profile [] last.layer last.radio ∧
        ∃ effects, grantChanges effects = GrantChange.answers profile.response (grants.take (capacity + 1)) ∧
          last = (bench.requestAll grants).2.later last.layer last.radio effects := by
    cases grants with
    | nil => exact ⟨rfl, .here ⟨queued, [], rfl, rfl⟩⟩
    | cons grant rest =>
      obtain ⟨accepted, pending⟩ := queued.request (handles grant).room spacious grant
      rw [requestAll_cons queued.linked.prepared]
      dsimp only
      obtain ⟨flags, pending⟩ := @Pending.requestAll
        (bench.later (bench.layer.requestGrant grant).2.state
          (bench.radio.perform (bench.layer.requestGrant grant).2.effects)
          (bench.layer.requestGrant grant).2.effects)
        defaultMtu capacity credentials profile grant [] rest pending
      refine ⟨?_, pending.answered handles same ascii⟩
      rw [accepted, flags, List.length_cons, List.range_succ_eq_map, List.map_cons, List.map_map]
      refine congrArg₂ List.cons (decide_eq_true (Nat.succ_pos capacity)).symm
        (List.map_congr_left fun index _ => ?_)
      rw [Function.comp_apply, decide_eq_decide, List.length_nil]
      omega
  obtain ⟨accepted, leads⟩ := requested
  obtain ⟨last, settles, done, effects, news, same⟩ := leads.stops fun last met => met.1.linked.parked
  refine ⟨accepted, last, settles, fun subscriber listed => ?_, done.linked.connected, done.free, ?_, ?_⟩
  · have heard := (grantsHeard_later _ last.layer last.radio effects listed).2
    rwa [← same, news] at heard
  · rw [done.queue]
    rfl
  · exact done.openGrants

/-- Every peer that answers grants in seven-bit text answers all that the queue has room for. -/
theorem answersAll_of_joins {reached : Bench Session} (joins : Joins config credentials profile bench reached)
    (honest : profile.Honest credentials.token) (answers : profile.answersGrants = true)
    (ascii : profile.grantText.all (· < 0x80) = true)
    (fits : ∀ (context : SealingContext) (grant : UInt16),
      (context.encrypt (profile.answer (.grant grant)).toBytes).1.length ≤ maxMessageLength)
    (spacious : 0 < config.maxEnqueuedMessages.toNat) (grants : List UInt16) :
    AnswersAll config.maxEnqueuedMessages.toNat credentials profile grants reached := by
  obtain ⟨_, later, remains, joined⟩ := joins.joined honest.shares
  have handles : ∀ grant, later.Handles (.grant grant) := fun grant =>
    remains.handles ⟨honest.room, answers, fun context => fits context grant⟩
  have same : later.grantText = profile.grantText := by
    rcases remains with rfl | rfl <;> rfl
  obtain ⟨accepted, answered⟩ := joined.queued.answersAll handles (remains.honest honest).sorcId
    (same ▸ ascii) spacious grants
  rw [remains.response] at answered
  exact ⟨accepted, answered⟩

/-- A stack whose queue has room for one request, a peer that shares the key of the zero token, and somebody
who subscribed to the grants. -/
def narrowBench : Bench Session :=
  subscribe (.new (.fresh (Channel.zeroHandset 0) 20 { Config.standard with maxEnqueuedMessages := 1 })
    (.new (.ofToken Channel.zeroCredentials.token))) .grants

theorem answersAll_narrow :
    let reached := ((narrowBench.dial Channel.zeroCredentials).settle 40).2
    Joins { Config.standard with maxEnqueuedMessages := 1 } Channel.zeroCredentials
      (.ofToken Channel.zeroCredentials.token) narrowBench reached ∧
    reached.broadcast.Lists 0 ∧
    AnswersAll 1 Channel.zeroCredentials (.ofToken Channel.zeroCredentials.token) [7, 9, 7] reached := by
  intro reached
  have settled : reached.radio.parked = [] ∧ reached.layer.state.isConnected = true ∧
      reached.broadcast.grants.audience.members.count 0 = 1 := by decide +kernel
  obtain ⟨quiet, connected, listed⟩ := settled
  have joins : Joins { Config.standard with maxEnqueuedMessages := 1 } Channel.zeroCredentials
      (.ofToken Channel.zeroCredentials.token) narrowBench reached :=
    ⟨⟨Channel.zeroHandset 0, [], rfl⟩, rfl, ⟨rfl, rfl, rfl⟩, ⟨40, rfl⟩, quiet, connected⟩
  refine ⟨joins, listed, ?_⟩
  exact answersAll_of_joins joins ⟨rfl, rfl, by decide, rfl, rfl⟩ rfl (by decide +kernel)
    (fun context grant => SorcProfile.fits_answer _ (by decide +kernel) (.grant grant) context) (by decide)
    [7, 9, 7]

end Bench

end PhoneKey
