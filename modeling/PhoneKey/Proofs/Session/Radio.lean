import PhoneKey.Proofs.Session.Course
import PhoneKey.Proofs.Watch

/-! # The radio under a session

A frame is written only while the link is open: its limit is being settled, or it is connected. The radio is
told to hang up exactly once for each end that the phone brings about itself, and never for one that the
radio reported.
-/

namespace PhoneKey

/-- Whether frames may be written in a state of the link. -/
def LinkState.isOpen : LinkState → Bool
  | .connecting _ .requestingMtu => true
  | .connected _ => true
  | _ => false

/-- Whether the radio reports that the peer is gone or was never there. -/
def RadioEvent.isLoss : RadioEvent → Bool
  | .connected _ => false
  | _ => true

/-- The cause that the published end of a connection tells. -/
def SessionReason.cause? : SessionReason → Option EndCause
  | .disconnect => some .userRequested
  | .connectingFailed _ failure => some (.ofConnectFailure failure)
  | .connectionLost loss => some (.ofConnectionLoss loss)
  | _ => none

/-- The causes of the ends among changes of a connection. -/
def endCauses (changes : List SessionChange) : List EndCause :=
  changes.filterMap fun change => SessionReason.cause? change.reason

/-- How often the radio is told to hang up. -/
def hangUps (effects : List Effect) : Nat := effects.count (.radio .disconnect)

/-- Whether an effect fits a state of the link: a frame is written only while the link is open. -/
def Effect.FitsLink (state : LinkState) : Effect → Prop
  | .radio (.write _ _) => state.isOpen = true
  | _ => True

/-- Whether an effect writes a frame, hangs up or tells of the link. -/
def Effect.isOfLink : Effect → Bool
  | .radio (.write _ _) => true
  | .radio .disconnect => true
  | .announce (.link _) => true
  | _ => false

/-- How the ends that are published in a call go together with how often the radio is told to hang up, given
whether the call is the radio's own report of a loss. -/
inductive Parting (reported : Prop) : List EndCause → Nat → Prop
  | lasts : Parting reported [] 0
  /-- The phone ends the connection. -/
  | leaves {cause : EndCause} (unreported : ¬ reported) (own : ∀ failure, cause ≠ .radio failure) :
      Parting reported [cause] 1
  /-- The radio has lost the peer already. -/
  | loses (failure : RadioFailure) (lost : reported) : Parting reported [.radio failure] 0

private theorem SessionReason.cause?_reason (cause : EndCause) (sorcId : Uuid) :
    SessionReason.cause? (cause.reason sorcId) = some cause := by
  cases cause with
  | userRequested => rfl
  | radio failure => cases failure <;> rfl
  | protocol failure => cases failure <;> rfl

private theorem endCauses_of_advance {before after : SessionState} {reason : SessionReason}
    (advance : Channel.Advance before after reason) : endCauses [⟨after, reason⟩] = [] := by
  cases advance <;> rfl

private theorem endCauses_end (cause : EndCause) (sorcId : Uuid) :
    endCauses [⟨.disconnected, cause.reason sorcId⟩] = [cause] := by
  simp [endCauses, SessionReason.cause?_reason]

theorem hangUps_append (first second : List Effect) :
    hangUps (first ++ second) = hangUps first + hangUps second := List.count_append

theorem hangUps_of_beside {effects : List Effect} (beside : ∀ effect ∈ effects, effect.isOfLink = false) :
    hangUps effects = 0 := by
  refine List.count_eq_zero.mpr fun member => ?_
  cases beside _ member

/-- The state of a link after some effects, as its stream announces it. -/
def Link.shown (state : LinkState) : List Effect → LinkState
  | [] => state
  | .announce (.link change) :: rest => shown change.state rest
  | _ :: rest => shown state rest

theorem Link.shown_append (state : LinkState) (first second : List Effect) :
    shown state (first ++ second) = shown (shown state first) second := by
  fun_induction shown state first with
  | case1 state => rfl
  | case2 state change rest ih => exact ih
  | case3 state effect rest other ih =>
    rw [List.cons_append, shown, ih]
    exact other

/-- Effects that lead the link from one state to another and write only while it is open. -/
structure Tended (before : LinkState) (effects : List Effect) (after : LinkState) : Prop where
  shown : Link.shown before effects = after
  writes : Watched Link.shown Effect.FitsLink before effects

namespace Tended

variable {before between after : LinkState} {first second : List Effect}

theorem append (early : Tended before first between) (late : Tended between second after) :
    Tended before (first ++ second) after where
  shown := by rw [Link.shown_append, early.shown, late.shown]
  writes := early.writes.append Link.shown_append (early.shown ▸ late.writes)

theorem of_beside (state : LinkState) {effects : List Effect}
    (beside : ∀ effect ∈ effects, effect.isOfLink = false) : Tended state effects state where
  shown := by
    fun_induction Link.shown state effects with
    | case1 state => rfl
    | case2 state change rest ih => cases beside _ List.mem_cons_self
    | case3 state effect rest other ih => exact ih fun later member => beside later (List.mem_cons_of_mem _ member)
  writes := by
    refine .of_forall fun effect member state => ?_
    have kind := beside effect member
    cases effect with
    | radio call => cases call <;> trivial
    | _ => trivial

theorem nil (state : LinkState) : Tended state [] state := of_beside state (by simp)

private theorem write (opened : before.isOpen = true) (frame : Bytes) (accepted : Bool) :
    Tended before [.radio (.write frame accepted)] before := ⟨rfl, .single opened⟩

private theorem beside {effect : Effect} (beside : effect.isOfLink = false)
    (rest : Tended before second after) : Tended before (effect :: second) after := by
  have passes : Tended before [effect] before := of_beside before (by simpa using beside)
  exact passes.append rest

private theorem hangsUp (rest : Tended before second after) :
    Tended before (.radio .disconnect :: second) after := by
  have drops : Tended before [.radio .disconnect] before := ⟨rfl, .single trivial⟩
  exact drops.append rest

private theorem tells {reason : LinkReason} (rest : Tended between second after) :
    Tended before (.announce (.link ⟨between, reason⟩) :: second) after := by
  have changes : Tended before [.announce (.link ⟨between, reason⟩)] between := ⟨rfl, .single trivial⟩
  exact changes.append rest

private theorem start {link : Link} {offered : Link.Offer} {message : Bytes}
    (opened : link.state.isOpen = true)
    (spoken : offered = link.start message) : Tended link.state offered.effects link.state := by
  rw [spoken]
  rcases Link.effects_start link message with silent | ⟨frame, accepted, same, _⟩
  · rw [silent]
    exact nil _
  · rw [same]
    exact write opened frame accepted

end Tended

private theorem hangUps_announce (news : Announcement) (effects : List Effect) :
    hangUps (.announce news :: effects) = hangUps effects := by simp [hangUps]

private theorem Link.hangUps_start {link : Link} {offered : Link.Offer} {message : Bytes}
    (spoken : offered = link.start message) : hangUps offered.effects = 0 := by
  rw [spoken]
  rcases effects_start link message with silent | ⟨frame, accepted, same, _⟩
  · rw [silent]
    rfl
  · rw [same]
    rfl

/-- A message is written over an open link or not at all. -/
theorem Link.tended_offer (link : Link) (message : Bytes) :
    Tended link.state (link.offer message).effects (link.offer message).link.state := by
  rw [offer]
  split
  · next connected =>
    rw [state_start]
    refine .start ?_ rfl
    cases state : link.state with
    | connected sorcId => rfl
    | disconnected => rw [state] at connected; cases connected
    | connecting sorcId stage => rw [state] at connected; cases connected
  · exact .nil _

private theorem Link.hangUps_offer (link : Link) (message : Bytes) :
    hangUps (link.offer message).effects = 0 := by
  rw [offer]
  split
  · exact hangUps_start rfl
  · rfl

namespace Channel

variable {defaultMtu : Nat} {channel : Channel} {input : Input} {turn : Turn Channel ChannelReport} {sorcId : Uuid}
  {cause : EndCause} {lower : List Effect}

/-- A package is under way only over an open link. -/
theorem Lawful.open_of_next {frame : Bytes} {line : Line} (lawful : Lawful defaultMtu channel)
    (confirmed : channel.link.line.confirm = (.next frame, line)) : channel.link.state.isOpen = true := by
  cases lawful with
  | atRest handset => cases confirmed
  | dialling handset credentials => cases confirmed
  | _ => rfl

private theorem Grounds.tended (grounds : Grounds channel input sorcId cause lower) (before : LinkState) :
    Tended before lower .disconnected := by
  cases grounds with
  | radio engaged phase => exact .tells (.nil _)
  | _ => exact .hangsUp (.tells (.nil _))

private theorem tended_ended (grounds : Grounds channel input sorcId cause lower) (handset : Handset)
    (before : LinkState) : Tended before (ended handset defaultMtu sorcId cause lower).effects .disconnected :=
  (grounds.tended before).append (.beside rfl (.nil _))

/-- What a channel asks of the radio and what its link announces fit together. -/
theorem Transition.tended (transition : Transition defaultMtu channel input turn)
    (lawful : Lawful defaultMtu channel) :
    Tended channel.link.state turn.effects turn.state.link.state := by
  have spoken {handset : Handset} {line : Line} {state : LinkState} {offered : Link.Offer} {message : Bytes}
      (opened : state.isOpen = true) (said : offered = Link.start ⟨handset, line, state⟩ message) :
      Tended state offered.effects state := @Tended.start ⟨handset, line, state⟩ offered message opened said
  have told (state : LinkState) (change : SessionChange) : Tended state [.announce (.channel change)] state :=
    .beside rfl (.nil _)
  cases transition with
  | dials handset credentials => exact .append (told _ _) (.tells (.beside rfl (.nil _)))
  | redials handset same =>
    simp only [dialling, same]
    exact .beside rfl (.nil _)
  | asks asked taken => exact .tells ((spoken rfl asked).append (told _ _))
  | asksInVain asked refused =>
    refine Tended.append ?_ ((told .disconnected _).append (told .disconnected _))
    exact Tended.append (.tells (spoken rfl asked)) (.hangsUp (.tells (.nil _)))
  | ends grounds => exact tended_ended grounds _ _
  | proceeds confirmed => exact .write (lawful.open_of_next confirmed) _ _
  | breaksOff confirmed closed grounds =>
    exact (Tended.write (lawful.open_of_next confirmed) _ _).append (tended_ended grounds _ _)
  | opens received kind read limit said taken => exact .append (.tells (told _ _)) (spoken rfl said)
  | opensInVain received said refused =>
    refine Tended.append ?_ (told .disconnected _)
    exact Tended.append (.append (.tells (told _ _)) (spoken rfl said)) (.hangsUp (.tells (.nil _)))
  | replies received reply said taken => exact spoken rfl said
  | givesUp received kind said =>
    exact (spoken rfl said).append (Tended.append (.hangsUp (.tells (.nil _))) (told _ _))
  | establishes confirmed => exact told _ _
  | seals said taken => exact spoken rfl said
  | refuses said refused => exact spoken rfl said
  | declines confirmed => exact .write rfl _ _
  | _ => exact .nil _

/-- An end that is neither reported by the radio nor said to be is the phone's own. -/
theorem Grounds.parting (grounds : Grounds channel input sorcId cause lower)
    (deaf : ∀ event, input ≠ .radioEvent event) (unforced : ∀ failure, input ≠ .close (.radio failure)) :
    (∀ failure, cause ≠ .radio failure) ∧ hangUps lower = 1 := by
  cases grounds with
  | asked cause engaged => exact ⟨fun failure same => unforced failure (congrArg _ same), rfl⟩
  | radio engaged phase => exact absurd rfl (deaf _)
  | _ => exact ⟨nofun, rfl⟩

/-- How often a channel hangs up: not at all if nothing ends, and otherwise as its grounds say. -/
theorem Transition.hangUps (transition : Transition defaultMtu channel input turn) :
    endCauses (reportedChanges turn.reports) = [] ∧ hangUps turn.effects = 0 ∨
      ∃ cause, endCauses (reportedChanges turn.reports) = [cause] ∧
        ((∀ failure, cause ≠ .radio failure) ∧ hangUps turn.effects = 1 ∨
          ∃ sorcId lower, Grounds channel input sorcId cause lower ∧ hangUps turn.effects = hangUps lower) := by
  cases transition with
  | asks asked taken =>
    refine .inl ⟨rfl, ?_⟩
    rw [hangUps_append, hangUps_announce, Link.hangUps_start asked]
    rfl
  | asksInVain asked refused =>
    refine .inr ⟨.protocol .invalidMtuResponse, rfl, .inl ⟨nofun, ?_⟩⟩
    rw [hangUps_append, hangUps_append, hangUps_announce, Link.hangUps_start asked]
    rfl
  | @ends _ _ sorcId cause lower grounds =>
    exact .inr ⟨cause, endCauses_end cause sorcId, .inr ⟨sorcId, lower, grounds, hangUps_append _ _⟩⟩
  | @breaksOff _ frame line sorcId cause lower confirmed closed grounds =>
    refine .inr ⟨cause, endCauses_end cause sorcId, .inr ⟨sorcId, lower, grounds, ?_⟩⟩
    exact (hangUps_append [_] _).trans ((Nat.zero_add _).trans (hangUps_append _ _))
  | opens received kind read limit said taken =>
    refine .inl ⟨rfl, ?_⟩
    rw [hangUps_append, Link.hangUps_start said]
    rfl
  | opensInVain received said refused =>
    refine .inr ⟨.protocol (.handshakeFailed none), rfl, .inl ⟨nofun, ?_⟩⟩
    simp only [hangUps_append, Link.hangUps_start said]
    rfl
  | replies received reply said taken => exact .inl ⟨rfl, Link.hangUps_start said⟩
  | givesUp received kind said =>
    refine .inr ⟨_, endCauses_end _ _, .inl ⟨nofun, ?_⟩⟩
    simp only [Turn.after, ended, hangUps_append, Link.hangUps_start said]
    rfl
  | seals said taken => exact .inl ⟨rfl, Link.hangUps_start said⟩
  | refuses said refused => exact .inl ⟨rfl, Link.hangUps_start said⟩
  | _ => exact .inl ⟨rfl, rfl⟩

/-- Whether an input is neither a message to be sent nor about something that the radio did. -/
def Input.sparesRadio : Input → Bool
  | .send _ | .radioEvent _ | .close (.radio _) => false
  | _ => true

/-- But for what the radio reports, a channel hangs up once with each end. -/
theorem Transition.parting {reported : Prop} (transition : Transition defaultMtu channel input turn)
    (unreported : ¬ reported) (deaf : ∀ event, input ≠ .radioEvent event)
    (unforced : ∀ failure, input ≠ .close (.radio failure)) :
    Parting reported (endCauses (reportedChanges turn.reports)) (PhoneKey.hangUps turn.effects) := by
  obtain ⟨none, never⟩ | ⟨cause, only, ⟨own, once⟩ | ⟨sorcId, lower, grounds, same⟩⟩ := transition.hangUps
  · rw [none, never]
    exact .lasts
  · rw [only, once]
    exact .leaves unreported own
  · obtain ⟨own, once⟩ := grounds.parting deaf unforced
    rw [only, same, once]
    exact .leaves unreported own

/-- A peer that was reached is asked for its limit, or the phone gives up and hangs up. -/
theorem parting_reached (lawful : Lawful defaultMtu channel) {reported : Prop} (unreported : ¬ reported)
    (sorcId : Uuid) :
    Parting reported (endCauses (reportedChanges (channel.radioEvent (.connected sorcId)).reports))
      (hangUps (channel.radioEvent (.connected sorcId)).effects) := by
  by_cases reached : channel.link.state = .connecting sorcId .physical
  · cases lawful with
    | dialling handset credentials =>
      cases reached
      obtain ⟨offered, asked⟩ : ∃ offered, offered = Link.start ⟨handset, .new defaultMtu,
        .connecting credentials.token.sorcId .requestingMtu⟩ limitRequest.toBytes := ⟨_, rfl⟩
      cases outcome : offered.refusal with
      | none =>
        rw [radioEvent_of_asked asked outcome, hangUps_append, hangUps_announce, Link.hangUps_start asked]
        exact .lasts
      | some cause =>
        rw [radioEvent_of_unasked asked outcome, hangUps_append, hangUps_append, hangUps_announce,
          Link.hangUps_start asked]
        exact .leaves unreported nofun
    | atRest handset => cases reached
    | settling handset credentials _ _ => cases reached
    | proving handset credentials _ _ _ _ => cases reached
    | secured handset credentials _ _ _ => cases reached
  · rw [radioEvent, Link.radioEvent_of_stale reached]
    exact .lasts

/-- What the radio reports to be lost ends without hanging up. -/
theorem parting_lost (lawful : Lawful defaultMtu channel) {event : RadioEvent} {reported : Prop}
    (lost : reported) (loss : event.isLoss = true) :
    Parting reported (endCauses (reportedChanges (channel.radioEvent event).reports))
      (hangUps (channel.radioEvent event).effects) := by
  have gone : ∀ sorcId, event ≠ .connected sorcId := by
    rintro sorcId rfl
    cases loss
  by_cases served : channel.link.state.sorcId? = some event.sorcId
  · rw [radioEvent_of_lost lawful gone served rfl]
    have causes := endCauses_end
      (.radio (if channel.link.state.isConnected then .connectionLost else .connectingFailed)) event.sorcId
    have quiet : Parting reported (endCauses [⟨.disconnected, EndCause.reason
      (.radio (if channel.link.state.isConnected then .connectionLost else .connectingFailed)) event.sorcId⟩]) 0 :=
      causes ▸ .loses _ lost
    exact quiet
  · have lower : channel.link.radioEvent event = .idle channel.link := if_neg served
    rw [radioEvent, lower]
    exact .lasts

end Channel

namespace Session

variable {defaultMtu now : Nat} {answer : Option GrantResponse} {session : Session} {turn : SessionTurn}

theorem beside_publish (session : Session) (state : SessionState) (reason : SessionReason) :
    ∀ effect ∈ (session.publish state reason).effects, effect.isOfLink = false := by
  intro effect member
  have told := isConnection_publish session state reason effect member
  cases effect with
  | announce news => cases news <;> trivial
  | radio call => cases told
  | _ => rfl

theorem beside_finish (session : Session) (reason : SessionReason) :
    ∀ effect ∈ (session.finish reason).effects, effect.isOfLink = false := by
  intro effect member
  rcases List.mem_append.mp member with forgotten | told
  · cases List.mem_singleton.mp forgotten
    rfl
  · exact beside_publish _ _ _ effect told

private theorem beside_surrender (session : Session) (failure : RequestFailure) :
    ∀ effect ∈ (session.surrender failure).effects, effect.isOfLink = false := by
  simp [surrender, publishGrants, tell, Turn.andThen, Effect.isOfLink]

private theorem tended_forward (session : Session) (request : Request) (rest : List Request) :
    Tended session.channel.link.state (session.forward request rest).2.effects
      (session.forward request rest).2.state.channel.link.state :=
  .beside rfl (Link.tended_offer session.channel.link (session.channel.protection.protect request.message).1)

private theorem hangUps_forward (session : Session) (request : Request) (rest : List Request) :
    hangUps (session.forward request rest).2.effects = 0 := by
  have written := Link.hangUps_offer session.channel.link (session.channel.protection.protect request.message).1
  have noted : hangUps (session.forward request rest).2.effects =
      hangUps (session.channel.link.offer (session.channel.protection.protect request.message).1).effects := by
    simp [hangUps, forward, dispatch, Channel.offer]
  rw [noted, written]

private theorem Lower.tended {lower : Turn Channel ChannelReport} (served : session.Lower lower)
    (settled : Settled defaultMtu session) :
    Tended session.channel.link.state lower.effects lower.state.link.state := by
  obtain ⟨input, _, rfl⟩ := served
  exact (Channel.act_transition settled.lawful input).tended settled.lawful

private theorem Move.tended (move : Move now answer session turn) (settled : Settled defaultMtu session) :
    Tended session.channel.link.state turn.effects turn.state.channel.link.state := by
  cases move with
  | passes served news => exact served.tended settled
  | hears served news => exact served.tended settled
  | advances served news advance reached =>
    exact (served.tended settled).append (.of_beside _ (beside_publish _ _ _))
  | establishes served news opening reached =>
    exact (served.tended settled).append (.of_beside _ (beside_publish _ _ _))
  | ends served news engaged reached =>
    exact (served.tended settled).append (.of_beside _ (beside_finish _ _))
  | recoils served news advance engaged reached =>
    exact ((served.tended settled).append (.of_beside _ (beside_publish _ _ _))).append
      (.of_beside _ (beside_finish _ _))
  | answers brought connected => exact .beside rfl (.beside rfl (.nil _))
  | abandons failure waiting => exact .of_beside _ (beside_surrender _ _)
  | sends connected free waiting taken => exact tended_forward session _ _
  | drops connected free waiting refused => exact tended_forward session _ _
  | breaks connected free waiting refused =>
    exact (tended_forward session _ _).append (.of_beside _ (beside_surrender _ _))
  | accepts connected room => exact .beside rfl (.beside rfl (.nil _))
  | declines connected full => exact .beside rfl (.beside rfl (.nil _))
  | _ => exact .nil _

theorem Moves.tended (moves : Moves now answer session turn) (settled : Settled defaultMtu session) :
    Tended session.channel.link.state turn.effects turn.state.channel.link.state := by
  induction moves with
  | nil session => exact .nil _
  | cons first rest ih => exact (first.tended settled).append (ih (first.settled settled))

/-- A channel that reports no end does not hang up. -/
theorem Lower.hangUps {lower : Turn Channel ChannelReport} (served : session.Lower lower)
    (settled : Settled defaultMtu session) (lasts : endCauses (reportedChanges lower.reports) = []) :
    hangUps lower.effects = 0 := by
  obtain ⟨input, _, rfl⟩ := served
  obtain ⟨-, never⟩ | ⟨cause, only, -⟩ := (Channel.act_transition settled.lawful input).hangUps
  · exact never
  · cases lasts.symm.trans only

/-- A move that publishes no end does not hang up. -/
theorem Move.hangUps (move : Move now answer session turn) (settled : Settled defaultMtu session)
    (lasts : endCauses (connectionChanges turn.effects) = []) : hangUps turn.effects = 0 := by
  have beside {first second : List Effect} (early : PhoneKey.hangUps first = 0)
      (late : ∀ effect ∈ second, effect.isOfLink = false) : PhoneKey.hangUps (first ++ second) = 0 := by
    rw [hangUps_append, early, hangUps_of_beside late]
  have ends {effects : List Effect} {session : Session} {reason : SessionReason} {cause : EndCause}
      (told : SessionReason.cause? reason = some cause) :
      endCauses (connectionChanges (effects ++ (session.finish reason).effects)) ≠ [] := by
    rw [connectionChanges_append, connectionChanges_finish]
    simp [endCauses, told]
  cases move with
  | passes served news =>
    refine served.hangUps settled ?_
    rcases news with none | ⟨result, sent⟩ | ⟨cause, received⟩
    · rw [none]; rfl
    · rw [sent]; rfl
    · rw [received]; rfl
  | hears served news => exact served.hangUps settled (by rw [news]; rfl)
  | advances served news advance reached =>
    exact beside (served.hangUps settled (by rw [news]; exact endCauses_of_advance advance)) (beside_publish _ _ _)
  | establishes served news opening reached =>
    exact beside (served.hangUps settled (by rw [news]; rfl)) (beside_publish _ _ _)
  | ends served news engaged reached => exact absurd lasts (ends (SessionReason.cause?_reason _ _))
  | recoils served news advance engaged reached => exact absurd lasts (ends rfl)
  | answers brought connected => rfl
  | abandons failure waiting => exact hangUps_of_beside (beside_surrender _ _)
  | sends connected free waiting taken => exact hangUps_forward session _ _
  | drops connected free waiting refused => exact hangUps_forward session _ _
  | breaks connected free waiting refused => exact beside (hangUps_forward session _ _) (beside_surrender _ _)
  | _ => rfl

private theorem Moves.hangUps (moves : Moves now answer session turn) (settled : Settled defaultMtu session)
    (lasts : endCauses (connectionChanges turn.effects) = []) : hangUps turn.effects = 0 := by
  induction moves with
  | nil session => rfl
  | cons first rest ih =>
    rw [Turn.andThen, connectionChanges_append, endCauses, List.filterMap_append, List.append_eq_nil_iff] at lasts
    rw [Turn.andThen, hangUps_append, first.hangUps settled lasts.1, ih (first.settled settled) lasts.2]

/-- A turn that says nothing about the connection does not hang up. -/
theorem Quiet.parting (quiet : Quiet turn) (moves : Moves now answer session turn)
    (settled : Settled defaultMtu session) {reported : Prop} :
    Parting reported (endCauses (connectionChanges turn.effects)) (hangUps turn.effects) := by
  have lasts : endCauses (connectionChanges turn.effects) = [] := by
    rw [connectionChanges_of_quiet quiet]
    rfl
  rw [lasts, moves.hangUps settled lasts]
  exact .lasts

/-- Taking over what the channel does, the session does not hang up by itself. -/
theorem hangUps_absorb (settled : Settled defaultMtu session) {lower : Turn Channel ChannelReport}
    (served : session.Lower lower) : hangUps (session.absorb now lower).effects = hangUps lower.effects := by
  have moves : Moves now _ session (session.absorb now lower) := absorb_moves settled served rfl
  have changes : connectionChanges (session.absorb now lower).effects = reportedChanges lower.reports :=
    connectionChanges_absorb settled served
  have lasting (lasts : endCauses (reportedChanges lower.reports) = []) :
      hangUps (session.absorb now lower).effects = hangUps lower.effects := by
    rw [served.hangUps settled lasts, moves.hangUps settled (changes ▸ lasts)]
  have beside {second : List Effect} (late : ∀ effect ∈ second, effect.isOfLink = false) :
      hangUps (lower.effects ++ second) = hangUps lower.effects := by
    rw [hangUps_append, hangUps_of_beside late, Nat.add_zero]
  have outcome : Absorbed now session lower (session.absorb now lower) := absorbed settled served
  generalize session.absorb now lower = turn at outcome lasting ⊢
  cases outcome with
  | advances reports advance reached => exact beside (beside_publish _ _ _)
  | establishes reports opening reached => exact beside (beside_publish _ _ _)
  | ends reports engaged reached => exact beside (beside_finish _ _)
  | recoils reports advance engaged reached =>
    rw [Turn.andThen, hangUps_append, hangUps_of_beside (beside_finish _ _)]
    exact beside (beside_publish _ _ _)
  | fails reports => exact lasting (by rw [reports]; rfl)
  | hears reports => exact lasting (by rw [reports]; rfl)
  | mishears reports => exact lasting (by rw [reports]; rfl)
  | _ => rfl

private theorem parting_absorb (settled : Settled defaultMtu session) {reported : Prop}
    (input : Channel.Input) (unsent : ∀ message, input ≠ .send message)
    (parting : Parting reported (endCauses (reportedChanges (session.channel.act input).reports))
      (hangUps (session.channel.act input).effects)) :
    Parting reported (endCauses (connectionChanges (session.absorb now (session.channel.act input)).effects))
      (hangUps (session.absorb now (session.channel.act input)).effects) := by
  have served : session.Lower (session.channel.act input) := ⟨input, unsent, rfl⟩
  rw [connectionChanges_absorb settled served, hangUps_absorb settled served]
  exact parting

/-- What the radio reports has no part in a call of any other kind. -/
theorem parting_other (settled : Settled defaultMtu session) {reported : Prop} (unreported : ¬ reported)
    (input : Channel.Input) (aside : input.sparesRadio = true) :
    Parting reported (endCauses (connectionChanges (session.absorb now (session.channel.act input)).effects))
      (hangUps (session.absorb now (session.channel.act input)).effects) := by
  have parting := (Channel.act_transition settled.lawful input).parting unreported
    (by rintro event rfl; cases aside) (by rintro failure rfl; cases aside)
  exact parting_absorb settled input (by rintro message rfl; cases aside) parting

/-- Whether a call is the radio's report that the peer is gone or was never there. -/
def Input.ReportsLoss (input : Input) : Prop := ∃ event, input.action = .radioEvent event ∧ event.isLoss = true

theorem parting_act (settled : Settled defaultMtu session) (input : Input) :
    Parting input.ReportsLoss (endCauses (connectionChanges (session.act input).effects))
      (hangUps (session.act input).effects) := by
  have moves := act_moves settled input
  obtain ⟨now, action⟩ := input
  cases action with
  | connect credentials =>
    simp only [act, connect]
    split
    · exact parting_other settled (by simp [Input.ReportsLoss]) (.connect credentials) rfl
    · exact .lasts
  | disconnect =>
    exact parting_other settled (by simp [Input.ReportsLoss]) (.close .userRequested) rfl
  | requestGrant grant => exact (quiet_requestGrant session grant).parting moves settled
  | radioEvent event =>
    refine parting_absorb settled (.radioEvent event) (by simp) ?_
    cases event with
    | connected sorcId =>
      exact Channel.parting_reached settled.lawful (by simp [Input.ReportsLoss, RadioEvent.isLoss]) sorcId
    | _ => exact Channel.parting_lost settled.lawful ⟨_, rfl, rfl⟩ rfl
  | confirm result => exact parting_other settled (by simp [Input.ReportsLoss]) (.confirm result) rfl
  | receive result => exact parting_other settled (by simp [Input.ReportsLoss]) (.receive result) rfl
  | tick =>
    cases connected : session.state.isConnected with
    | false =>
      simp only [act, tick, connected]
      exact .lasts
    | true =>
      simp only [act, tick, connected, if_true] at moves ⊢
      cases silent : (session.checkTimer.poll now).1 && decide (session.heartbeatTimeout ≤ now - session.lastHeard) with
      | true =>
        simp only [if_true]
        have checked : Settled defaultMtu { session with checkTimer := (session.checkTimer.poll now).2 } :=
          settled.of_connected connected rfl rfl
        exact parting_other checked (by simp [Input.ReportsLoss]) (.close (.protocol .heartbeatTimedOut)) rfl
      | false =>
        simp only [silent, Bool.false_eq_true, if_false] at moves ⊢
        refine Quiet.parting ?_ moves settled
        split
        · exact (serving_serve _).quiet
        · exact quiet_idle _

/-- After any inputs the stream of the link shows its state, and frames were written only while it was open. -/
theorem tended_of_run (handset : Handset) (defaultMtu : Nat) (config : Config) (inputs : List Input) :
    Tended .disconnected ((fresh handset defaultMtu config).run inputs).effects
      ((fresh handset defaultMtu config).run inputs).state.channel.link.state := by
  induction inputs using List.reverseRecOn with
  | nil => exact .nil _
  | append_singleton inputs input ih =>
    have settled := settled_of_run handset defaultMtu config inputs
    rw [run, Turn.effects_forEach_concat, Turn.state_forEach_concat]
    exact ih.append ((act_moves settled input).tended settled)

end Session

end PhoneKey
