import PhoneKey.Proofs.Simulation.Hearing
import PhoneKey.Proofs.Simulation.Messages
import PhoneKey.Proofs.Simulation.Replies

/-! # Requests over a bench

On a bench whose phone and peer hold one session, a request goes out frame by frame, the peer answers it with
its last frame, and the answer settles the request with the last frame of its own. Both ends are then in step
again, so that the next request can follow.
-/

namespace PhoneKey

private theorem Effect.unheard_writes (frames : List Frame) : (writes frames).all isUnheard = true :=
  List.all_eq_true.mpr (List.forall_mem_map.mpr fun _ _ => rfl)

namespace Bench

/-- Phone and peer hold one session, and nothing is on its way between them. -/
structure Linked (defaultMtu : Nat) (credentials : Credentials) (profile : SorcProfile) (session : Session)
    (radio : Radio) : Prop where
  connected : session.state = .connected credentials.token.sorcId
  takes : radio.failsWrites = false
  parked : radio.parked = []
  ends : ∃ (nonces : Nonces) (ours theirs : SealingContext) (received : List Message),
    session.channel =
      .secured (.willing nonces) (.resting defaultMtu profile.mtu.toNat) credentials ours none ∧
    radio.sorc = ⟨profile, none, some theirs, .empty, received⟩ ∧ ours.InStep theirs

/-- The phone has begun to send a request to a peer that holds the session, and the first frame is parked. -/
structure Asks (defaultMtu : Nat) (credentials : Credentials) (profile : SorcProfile) (request : Request)
    (session : Session) (radio : Radio) : Prop where
  connected : session.state = .connected credentials.token.sorcId
  takes : radio.failsWrites = false
  waiting : session.outstanding = some request
  ends : ∃ (nonces : Nonces) (ours theirs : SealingContext) (received : List Message) (opening : List Frame)
      (last : Frame),
    Frame.Whole (ours.encrypt request.message.toBytes).1 opening last ∧
    session.channel =
      .secured (.willing nonces)
        ((Line.resting defaultMtu profile.mtu.toNat).carrying (ours.encrypt request.message.toBytes).1
          (opening ++ [last]))
        credentials (ours.encrypt request.message.toBytes).2 (some request.message) ∧
    radio.sorc = ⟨profile, none, some theirs, .empty, received⟩ ∧
    radio.parked = [(opening.headD last).toBytes] ∧ ours.InStep theirs

variable {bench : Bench Session} {session : Session} {radio : Radio} {nonces : Nonces} {defaultMtu : Nat}
  {credentials : Credentials} {profile : SorcProfile} {request : Request}

private theorem prepared_of_willing_channel (willing : session.channel.link.handset = .willing nonces)
    (takes : radio.failsWrites = false) : Prepared session radio :=
  congrArg (fun channel => ({ session with channel } : Session)) (prepared_of_willing willing takes)

theorem Linked.prepared (linked : Linked defaultMtu credentials profile session radio) :
    Prepared session radio := by
  obtain ⟨nonces, _, _, _, channel, _⟩ := linked.ends
  exact prepared_of_willing_channel (by rw [channel]; rfl) linked.takes

theorem Asks.prepared (asks : Asks defaultMtu credentials profile request session radio) :
    Prepared session radio := by
  obtain ⟨nonces, _, _, _, _, _, _, channel, _⟩ := asks.ends
  exact prepared_of_willing_channel (by rw [channel]; rfl) asks.takes

/-- The oldest queued request goes out if nothing is outstanding. -/
theorem Linked.serve {rest : List Request} (linked : Linked defaultMtu credentials profile session radio)
    (room : Frame.headerSize < profile.mtu.toNat) (free : session.outstanding = none)
    (queued : session.queue.items = request :: rest) :
    ∃ channel effects,
      session.serve =
        ⟨{ session with
            queue := { session.queue with items := rest }
            outstanding := some request
            channel }, [], effects⟩ ∧
      effects.all Effect.isUnheard = true ∧
      Asks defaultMtu credentials profile request
        { session with
          queue := { session.queue with items := rest }
          outstanding := some request
          channel } (radio.perform effects) := by
  obtain ⟨connected, takes, parked, nonces, ours, theirs, received, channel, sorc, inStep⟩ := linked
  have size : 0 < Frame.sizeForMtu profile.mtu.toNat := Nat.sub_pos_of_lt room
  have fits : (ours.encrypt request.message.toBytes).1.length ≤ maxMessageLength := by
    have bound := (ours.length_encrypt request.message.toBytes).1
    have short := request.length_message
    simp only [maxMessageLength]
    omega
  obtain ⟨opening, last, cut, whole⟩ := Frame.split_whole size fits
  have up : session.state.isConnected = true := by rw [connected]; rfl
  have served := Session.serve_willing up free queued channel rfl cut
  refine ⟨_, _, served, rfl, connected, takes, rfl, nonces, ours, theirs, received, opening, last, whole, rfl,
    sorc, ?_, inStep⟩
  simp [Radio.perform, Radio.apply, parked]

/-- The last frame of a sealed request completes it for the peer, which seals its answer. -/
theorem receive_request {ours heard : SealingContext} {theirs : SealingContext} {received : List Message}
    {opening beginning : List Frame} {last ending : Frame} (handles : profile.Handles request)
    (whole : Frame.Whole (ours.encrypt request.message.toBytes).1 opening last)
    (opened : theirs.decrypt (ours.encrypt request.message.toBytes).1 = .ok (request.message.toBytes, heard))
    (cut : Frame.split (heard.encrypt (profile.answer request).toBytes).1
      (Frame.sizeForMtu profile.mtu.toNat) = .ok (beginning ++ [ending])) :
    Sorc.receive ⟨profile, none, some theirs, .gather .empty opening, received⟩ nonces last.toBytes =
      ((beginning ++ [ending]).map Frame.toBytes,
        ⟨profile, none, some (heard.encrypt (profile.answer request).toBytes).2, .empty,
          received ++ [request.message]⟩, nonces) := by
  have opens : Sorc.open? ⟨profile, none, some theirs, .empty, received⟩
      (ours.encrypt request.message.toBytes).1 =
        some (request.message, ⟨profile, none, some heard, .empty, received⟩) := by
    simp only [Sorc.open?, opened, Message.ofBytes_toBytes]
  have responded := @Sorc.respond_request
    ⟨profile, none, some heard, .empty, received ++ [request.message]⟩ request handles.answers nonces
  have taken := @Sorc.receive_closing ⟨profile, none, some theirs, .gather .empty opening, received⟩ nonces
    last opening request.message _ _ _ _ _ whole rfl opens responded
  simpa only [Sorc.sayAny, Sorc.say, Sorc.frame, cut] using taken

/-- The answer to a request is heard with its last frame. -/
theorem notify_answer {context final : SealingContext} {data : Bytes} {answer : Message} {opening : List Frame}
    {last : Frame} {turn : SessionTurn} (whole : Frame.Whole data opening last) (valid : answer.isValid = true)
    (opens : context.decrypt data = .ok (answer.toBytes, final)) (takes : bench.radio.failsWrites = false)
    (secured : bench.layer =
      { session with
        channel :=
          .secured (.willing nonces) (.resting defaultMtu profile.mtu.toNat) credentials context none })
    (heard : Session.messageReceived
      { session with
        channel := .secured (.willing nonces) (.resting defaultMtu profile.mtu.toNat) credentials final none
        lastHeard := bench.clock } answer = turn) :
    bench.notifyPhone ((opening ++ [last]).map Frame.toBytes) =
      (turn.reports, bench.later turn.state (bench.radio.perform turn.effects) turn.effects) := by
  have received := @Line.receive_last
    { Line.resting defaultMtu profile.mtu.toNat with receiving := .gather .empty opening } data last opening
    whole rfl
  have told := Channel.receive_secured_message (.willing nonces) credentials none received opens valid
  refine @notify_collected _ _ _ bench last opening
    (fun receiving => { session with
      channel := Channel.onLine
        (.secured (.willing nonces) (.resting defaultMtu profile.mtu.toNat) credentials context none) nonces
        { Line.resting defaultMtu profile.mtu.toNat with receiving } })
    .empty turn (fun now receiving frame => Session.receive_leaves rfl (.inr rfl))
    (fun _ => prepared_of_willing_channel rfl takes) whole.leaves
    (fun frame member => whole.plain frame (List.mem_append_left _ member)) ?_ secured
  rw [← heard]
  exact (congrArg (Session.absorb _ bench.clock) told).trans (Session.absorb_heard _ _ _ _)

private theorem confirm_secured_last {line : Line} {data : Bytes} {last : Frame} {context : SealingContext}
    {inFlight : Option Message} (now : Nat) :
    Session.confirm
        { session with
          channel := .secured (.willing nonces) (line.carrying data [last]) credentials context inFlight }
        now (.ok ()) =
      .idle { session with
        channel := .secured (.willing nonces) { line with sending := none } credentials context none } := by
  rw [Session.confirm, Channel.confirm_secured_last, Session.absorb_sent]

/-- The peer takes the last frame of a request and answers it. -/
theorem leads_answered {ours theirs : SealingContext} {data sealed : Bytes} {sorc next : Sorc}
    {answer : Message} {last ending : Frame} {beginning : List Frame} {inFlight : Option Message}
    {turn : SessionTurn}
    (takes : radio.failsWrites = false) (complete : Frame.Whole sealed beginning ending)
    (valid : answer.isValid = true) (opens : ours.decrypt sealed = .ok (answer.toBytes, theirs))
    (taken : sorc.receive nonces last.toBytes = ((beginning ++ [ending]).map Frame.toBytes, next, nonces))
    (carrying : bench.layer =
      { session with
        channel := .secured (.willing nonces)
          ((Line.resting defaultMtu profile.mtu.toNat).carrying data [last]) credentials ours inFlight })
    (waiting : bench.radio = { radio with sorc, parked := [last.toBytes] })
    (heard : Session.messageReceived
      { session with
        channel := .secured (.willing nonces) (.resting defaultMtu profile.mtu.toNat) credentials theirs none
        lastHeard := bench.clock } answer = turn) :
    Leads bench []
      (· = bench.later turn.state (Radio.perform { radio with sorc := next, parked := [] } turn.effects)
        turn.effects) := by
  have silent : turn.reports = [] := List.eq_nil_iff_forall_not_mem.mpr fun report => report.elim
  refine @leads_exchange _ _ _ bench { radio with sorc } last.toBytes []
    ((beginning ++ [ending]).map Frame.toBytes) next nonces
    (.idle { session with
      channel := .secured (.willing nonces) (.resting defaultMtu profile.mtu.toNat) credentials ours none })
    [] bench.layer _ waiting (by rw [carrying]; exact taken) (by rw [carrying]; rfl)
    (by rw [carrying]; exact prepared_of_willing_channel rfl takes)
    (by rw [carrying]; exact confirm_secured_last _) ?_
  rintro between rfl
  have told := @notify_answer
    (bench.later
      { session with
        channel := .secured (.willing nonces) (.resting defaultMtu profile.mtu.toNat) credentials ours none }
      { radio with sorc := next, parked := [] } [])
    session nonces defaultMtu credentials profile ours theirs sealed answer beginning ending turn complete valid
    opens takes rfl heard
  rw [silent, later_later, List.nil_append] at told
  exact ⟨congrArg Prod.fst told, congrArg Prod.snd told⟩

/-- The peer takes the request, and its answer reaches the session, which hears it at the time of the
bench. -/
theorem Asks.answered (asks : Asks defaultMtu credentials profile request bench.layer bench.radio)
    (handles : profile.Handles request) :
    ∃ channel radio effects, effects.all Effect.isUnheard = true ∧
      Linked defaultMtu credentials profile { bench.layer with channel, lastHeard := bench.clock } radio ∧
      ∀ turn,
        Session.messageReceived { bench.layer with channel, lastHeard := bench.clock }
          (profile.answer request) = turn →
        Leads bench []
          (· = bench.later turn.state (radio.perform turn.effects) (effects ++ turn.effects)) := by
  obtain ⟨connected, takes, waiting, nonces, ours, theirs, received, opening, last, whole, channel, sorc,
    parked, inStep⟩ := asks
  obtain ⟨heard, opened, agreed⟩ := inStep.encrypt request.message.toBytes
  obtain ⟨final, answered, inStep'⟩ := agreed.symm.encrypt (profile.answer request).toBytes
  have size : 0 < Frame.sizeForMtu profile.mtu.toNat := Nat.sub_pos_of_lt handles.room
  obtain ⟨beginning, ending, cut, complete⟩ := Frame.split_whole size (handles.fits heard)
  have valid : (profile.answer request).isValid = true := by cases request <;> rfl
  have taken := @receive_request nonces profile request ours heard theirs received opening beginning last ending
    handles whole opened cut
  refine ⟨.secured (.willing nonces) (.resting defaultMtu profile.mtu.toNat) credentials final none,
    { bench.radio with
      sorc := ⟨profile, none, some (heard.encrypt (profile.answer request).toBytes).2, .empty,
        received ++ [request.message]⟩
      parked := [] },
    Effect.writes (opening ++ [last]).tail, Effect.unheard_writes _,
    ⟨connected, takes, rfl, nonces, final, _, _, rfl, rfl, inStep'.symm⟩, fun turn told => ?_⟩
  -- The session goes on with the context that sealed the request while the frames of it go out.
  have collected := @leads_collected _ _ _ bench bench.radio ⟨profile, none, some theirs, .empty, received⟩
    last opening
    (fun frames => { bench.layer with
      channel := Channel.onLine
        (.secured (.willing nonces) (.resting defaultMtu profile.mtu.toNat) credentials
          (ours.encrypt request.message.toBytes).2 (some request.message)) nonces
        ((Line.resting defaultMtu profile.mtu.toNat).carrying (ours.encrypt request.message.toBytes).1
          frames) })
    (fun now frame opening => Session.confirm_next rfl) (fun _ => rfl)
    (fun _ _ => prepared_of_willing_channel rfl) takes whole.leaves
    (fun frame member => whole.plain frame (List.mem_append_left _ member)) .empty
    (congrArg (fun channel => ({ bench.layer with channel } : Session)) channel) (by rw [← sorc, ← parked])
  refine collected.append ?_
  rintro next rfl
  have rest := @leads_answered
    (bench.later _ _ (Effect.writes (opening ++ [last]).tail)) bench.layer bench.radio nonces defaultMtu
    credentials profile _ _ (ours.encrypt request.message.toBytes).1 _ _ _ _ last ending beginning
    (some request.message) turn takes complete valid answered taken rfl rfl (by rw [clock_later]; exact told)
  refine rest.imp ?_
  rintro next rfl
  rw [later_later]

end Bench

end PhoneKey
