import PhoneKey.Proofs.Channel.Progress
import PhoneKey.Proofs.Session.Grants

/-! # Progress of a session

What a session does while nothing goes wrong. A smooth turn keeps the connection, tells of no failure and
writes what it has to say: frames of the message under way come first, then those of a message that is
launched.
-/

namespace PhoneKey

/-- The frames of the package under way that have not been written yet. -/
def Line.unwritten (line : Line) : List Bytes :=
  match line.sending with
  | none => []
  | some package => package.pending.tail.map Frame.toBytes

namespace Effect

/-- The frame of an accepted write. -/
def written? : Effect → Option Bytes
  | .radio (.write frame true) => some frame
  | _ => none

/-- Whether an effect tells that an attempt to connect failed, or requests. -/
def isFailure : Effect → Bool
  | .announce (.link ⟨_, .connectingFailed _ _⟩) => true
  | .announce (.channel ⟨_, .connectingFailed _ _⟩) => true
  | .announce (.connection ⟨_, .connectingFailed _ _⟩) => true
  | .announce (.grants ⟨_, .failed _⟩) => true
  | .telemetry (.connectingFailed _ _) => true
  | .telemetry (.grantFailed _ _) => true
  | _ => false

end Effect

/-- What became of the grants of a connection. -/
structure Account where
  /-- The grants that were accepted, oldest first. -/
  accepted : List UInt16
  /-- The answers, oldest first. -/
  answered : List GrantResponse

namespace Account

def empty : Account := ⟨[], []⟩

/-- The end of a connection takes its grants with it. -/
def note (account : Account) : Effect → Account
  | .announce (.grants ⟨_, .requested grant true⟩) =>
    { account with accepted := account.accepted ++ [grant] }
  | .announce (.grants ⟨_, .answered response⟩) =>
    { account with answered := account.answered ++ [response] }
  | .announce (.grants ⟨_, .reset⟩) => empty
  | _ => account

def after (account : Account) (effects : List Effect) : Account := effects.foldl note account

end Account

namespace Effect

/-- Whether an effect keeps the connection, tells of no failure and does not concern the grants. -/
def isHarmless : Effect → Bool
  | .radio .disconnect => false
  | .announce (.grants _) => false
  | effect => !effect.isFailure

variable {effect : Effect}

private theorem unfailing_of_harmless (harmless : effect.isHarmless = true) : effect.isFailure = false := by
  unfold isHarmless at harmless
  split at harmless
  · rfl
  · cases harmless
  · simpa using harmless

private theorem note_of_harmless (harmless : effect.isHarmless = true) (account : Account) :
    account.note effect = account := by
  unfold Account.note
  split
  · cases harmless
  · cases harmless
  · cases harmless
  · rfl

end Effect

namespace Account

theorem after_append (account : Account) (first second : List Effect) :
    account.after (first ++ second) = (account.after first).after second := List.foldl_append

private theorem after_of_harmless (account : Account) {effects : List Effect}
    (harmless : effects.all Effect.isHarmless = true) : account.after effects = account := by
  induction effects with
  | nil => rfl
  | cons effect rest ih =>
    rw [List.all_cons, Bool.and_eq_true] at harmless
    rw [after, List.foldl_cons, Effect.note_of_harmless harmless.1]
    exact ih harmless.2

/-- The effects accept no grant and forget none. -/
def Keeps (effects : List Effect) : Prop :=
  ∀ account : Account, (account.after effects).accepted = account.accepted

theorem Keeps.of_harmless {effects : List Effect} (harmless : effects.all Effect.isHarmless = true) :
    Keeps effects := fun account => congrArg accepted (account.after_of_harmless harmless)

theorem Keeps.append {first second : List Effect} (early : Keeps first) (late : Keeps second) :
    Keeps (first ++ second) := by
  intro account
  rw [after_append, late, early]

/-- The oldest grants were answered as they should, and the others are open. -/
structure Fits (account : Account) (answer : UInt16 → GrantResponse) (openGrants : OpenGrants) : Prop where
  accepted : account.accepted = account.answered.map GrantResponse.grant ++ openGrants
  answered : ∀ response ∈ account.answered, response = answer response.grant

end Account

namespace Session

variable {answer : UInt16 → GrantResponse} {session : Session} {turn : SessionTurn}
  {launched : List Bytes} {now : Nat}

/-- A turn that keeps the connection, after which the given frames follow those that were to be written. -/
structure Smooth (answer : UInt16 → GrantResponse) (session : Session) (turn : SessionTurn)
    (launched : List Bytes) : Prop where
  stays : .radio .disconnect ∉ turn.effects
  unfailing : ∀ effect ∈ turn.effects, effect.isFailure = false
  writes : turn.effects.filterMap Effect.written? ++ turn.state.channel.link.line.unwritten =
    session.channel.link.line.unwritten ++ launched
  /-- Who waits for a confirmation has written something, or waited before. -/
  waits : turn.state.channel.link.line.sending.isSome = true →
    turn.effects.filterMap Effect.written? ≠ [] ∨ session.channel.link.line.sending.isSome = true
  accounts : ∀ account : Account, account.Fits answer session.openGrants →
    (account.after turn.effects).Fits answer turn.state.openGrants

namespace Smooth

theorem idle (session : Session) : Smooth answer session (.idle session) [] where
  stays := by simp [Turn.idle]
  unfailing := by simp [Turn.idle]
  writes := by simp [Turn.idle]
  waits := .inr
  accounts _ fits := fits

theorem andThen {next : Session → SessionTurn} {following : List Bytes}
    (first : Smooth answer session turn launched)
    (second : Smooth answer turn.state (next turn.state) following) :
    Smooth answer session (turn.andThen next) (launched ++ following) where
  stays := by
    simp only [Turn.andThen, List.mem_append, not_or]
    exact ⟨first.stays, second.stays⟩
  unfailing := by
    simp only [Turn.andThen, List.forall_mem_append]
    exact ⟨first.unfailing, second.unfailing⟩
  writes := by
    simp only [Turn.andThen, List.filterMap_append]
    rw [List.append_assoc, second.writes, ← List.append_assoc, first.writes, List.append_assoc]
  waits := by
    intro waiting
    simp only [Turn.andThen, List.filterMap_append, ne_eq, List.append_eq_nil_iff, not_and_or]
    rcases second.waits waiting with written | before
    · exact .inl (.inr written)
    · rcases first.waits before with written | earlier
      · exact .inl (.inl written)
      · exact .inr earlier
  accounts := by
    intro account fits
    simp only [Turn.andThen, Account.after_append]
    exact second.accounts _ (first.accounts account fits)

/-- Of a session only its open grants and the package under way matter. -/
theorem of_same {other : Session} (smooth : Smooth answer other turn launched)
    (sending : other.channel.link.line.sending = session.channel.link.line.sending)
    (openGrants : other.openGrants = session.openGrants) : Smooth answer session turn launched where
  stays := smooth.stays
  unfailing := smooth.unfailing
  writes := by
    have same : other.channel.link.line.unwritten = session.channel.link.line.unwritten := by
      simp only [Line.unwritten, sending]
    rw [← same, smooth.writes]
  waits := by
    rw [← sending]
    exact smooth.waits
  accounts := by
    rw [← openGrants]
    exact smooth.accounts

/-- A turn of which only the writes are to be looked at. -/
theorem of_harmless {next : Session} {effects : List Effect}
    (harmless : effects.all Effect.isHarmless = true) (openGrants : next.openGrants = session.openGrants)
    (writes : effects.filterMap Effect.written? ++ next.channel.link.line.unwritten =
      session.channel.link.line.unwritten ++ launched)
    (waits : next.channel.link.line.sending.isSome = true →
      effects.filterMap Effect.written? ≠ [] ∨ session.channel.link.line.sending.isSome = true) :
    Smooth answer session ⟨next, [], effects⟩ launched where
  stays stopped := Bool.noConfusion (List.all_eq_true.mp harmless _ stopped)
  unfailing effect member := Effect.unfailing_of_harmless (List.all_eq_true.mp harmless effect member)
  writes := writes
  waits := waits
  accounts := by
    intro account fits
    rw [Account.after_of_harmless account harmless, openGrants]
    exact fits

/-- The channel goes on with as much to write as before. -/
theorem quiet {next : Session} {effects : List Effect}
    (harmless : effects.all Effect.isHarmless = true) (silent : effects.filterMap Effect.written? = [])
    (unwritten : next.channel.link.line.unwritten = session.channel.link.line.unwritten)
    (sending : next.channel.link.line.sending = none ∨
      next.channel.link.line.sending = session.channel.link.line.sending)
    (openGrants : next.openGrants = session.openGrants) :
    Smooth answer session ⟨next, [], effects⟩ [] := by
  refine of_harmless harmless openGrants ?_ ?_
  · rw [silent, unwritten, List.nil_append, List.append_nil]
  · intro waiting
    rcases sending with free | same
    · simp [free] at waiting
    · exact .inr (same ▸ waiting)

/-- A message is launched over a line on which nothing is left to write. -/
theorem launches {next : Session} {effects : List Effect} {data : Bytes} {opening : List Frame}
    {last : Frame} (harmless : effects.all Effect.isHarmless = true)
    (openGrants : next.openGrants = session.openGrants)
    (silent : session.channel.link.line.unwritten = [])
    (sending : next.channel.link.line.sending = some ⟨data, opening ++ [last]⟩)
    (written : effects.filterMap Effect.written? = [(opening.headD last).toBytes]) :
    Smooth answer session ⟨next, [], effects⟩ ((opening ++ [last]).map Frame.toBytes) := by
  refine of_harmless harmless openGrants ?_ ?_
  · rw [written, silent, Line.unwritten, sending]
    cases opening <;> rfl
  · intro _
    rw [written]
    exact .inl (List.cons_ne_nil _ _)

end Smooth

theorem settle_of_waiting {grant : UInt16} (waiting : session.outstanding = some (.grant grant))
    (response : GrantResponse) :
    session.settle response =
      ⟨{ session with outstanding := none, openGrants := session.openGrants.tail }, [],
        [.telemetry (.grantAnswered response.sorcId response.grant response.status),
          .announce (.grants ⟨session.openGrants.tail, .answered response⟩)]⟩ := by
  simp only [settle, waiting]
  rfl

/-- The oldest open grant is answered as it should. -/
theorem Smooth.settles {grant : UInt16} {rest : OpenGrants} (named : (answer grant).grant = grant)
    (waiting : session.outstanding = some (.grant grant)) (listed : session.openGrants = grant :: rest) :
    Smooth answer session (session.settle (answer grant)) [] := by
  rw [settle_of_waiting waiting]
  refine ⟨by simp, by simp [Effect.isFailure], by simp [Effect.written?], .inr, ?_⟩
  intro account fits
  have noted : account.after
      [.telemetry (.grantAnswered (answer grant).sorcId (answer grant).grant (answer grant).status),
        .announce (.grants ⟨session.openGrants.tail, .answered (answer grant)⟩)] =
      { account with answered := account.answered ++ [answer grant] } := rfl
  rw [noted]
  refine ⟨?_, ?_⟩
  · rw [fits.accepted, listed, List.map_append, List.map_singleton, named, List.append_assoc]
    rfl
  · intro response member
    rcases List.mem_append.mp member with earlier | new
    · exact fits.answered response earlier
    · rw [List.mem_singleton.mp new, named]

/-- The channel has nothing to tell. -/
theorem absorb_silent (session : Session) (now : Nat) (channel : Channel) (effects : List Effect) :
    session.absorb now ⟨channel, [], effects⟩ = ⟨{ session with channel }, [], effects⟩ := by
  simp [absorb, Turn.idle, Turn.after]

/-- A channel that does nothing leaves the session as it was. -/
theorem absorb_idle (session : Session) (now : Nat) :
    session.absorb now (.idle session.channel) = .idle session := rfl

/-- That a message was sent changes nothing for the session. -/
theorem absorb_sent (session : Session) (now : Nat) (channel : Channel) (sent : Option Message) :
    session.absorb now ⟨channel, (sent.map fun message => .messageSent (.ok message)).toList, []⟩ =
      .idle { session with channel } := by
  cases sent <;> rfl

theorem absorb_heard (session : Session) (now : Nat) (channel : Channel) (message : Message) :
    session.absorb now ⟨channel, [.messageReceived (.ok message)], []⟩ =
      messageReceived { session with channel, lastHeard := now } message := by
  simp only [absorb, Turn.forEach_singleton, Turn.after_nil]
  rfl

theorem absorb_advanced (session : Session) (now : Nat) (channel : Channel) (sorcId : Uuid)
    (stage : SessionStage) (effects : List Effect) :
    session.absorb now
        ⟨channel, [.connectionChanged ⟨.connecting sorcId stage, .entered sorcId stage⟩], effects⟩ =
      ⟨{ session with channel, state := .connecting sorcId stage }, [],
        effects ++ [.telemetry (.connectionChanged session.state (.connecting sorcId stage)),
          .announce (.connection ⟨.connecting sorcId stage, .entered sorcId stage⟩)]⟩ := by
  simp only [absorb, Turn.forEach_singleton]
  rfl

theorem absorb_established (session : Session) (now : Nat) (channel : Channel) (sorcId : Uuid)
    (effects : List Effect) :
    session.absorb now
        ⟨channel, [.connectionChanged ⟨.connected sorcId, .established sorcId⟩], effects⟩ =
      ⟨{ session with
          channel
          state := .connected sorcId
          lastHeard := now
          heartbeatTimer := session.heartbeatTimer.start now
          checkTimer := session.checkTimer.start now }, [],
        effects ++ [.telemetry (.connectionChanged session.state (.connected sorcId)),
          .announce (.connection ⟨.connected sorcId, .established sorcId⟩)]⟩ := by
  simp only [absorb, Turn.forEach_singleton]
  rfl

/-- The oldest queued request goes out over a free line. -/
theorem serve_willing {line : Line} {nonces : Nonces} {credentials : Credentials} {context : SealingContext}
    {inFlight : Option Message} {request : Request} {rest : List Request} {opening : List Frame}
    {last : Frame} (connected : session.state.isConnected = true)
    (free : session.outstanding = none) (waiting : session.queue.items = request :: rest)
    (channel : session.channel = .secured (.willing nonces) line credentials context inFlight)
    (idle : line.isBusy = false)
    (cut : Frame.split (context.encrypt request.message.toBytes).1 (Frame.sizeForMtu line.mtu) =
      .ok (opening ++ [last])) :
    session.serve =
      ⟨{ session with
          queue := { session.queue with items := rest }
          outstanding := some request
          channel := .secured (.willing nonces)
            (line.carrying (context.encrypt request.message.toBytes).1 (opening ++ [last])) credentials
            (context.encrypt request.message.toBytes).2 (some request.message) }, [],
        [.attempt request session.state none, .radio (.write (opening.headD last).toBytes true)]⟩ := by
  have offered := Channel.offer_willing nonces credentials inFlight idle cut
  have taken : session.forward request rest = (true,
      ⟨{ session with
          queue := { session.queue with items := rest }
          outstanding := some request
          channel := .secured (.willing nonces)
            (line.carrying (context.encrypt request.message.toBytes).1 (opening ++ [last])) credentials
            (context.encrypt request.message.toBytes).2 (some request.message) }, [],
        [.attempt request session.state none, .radio (.write (opening.headD last).toBytes true)]⟩) := by
    simp only [forward, dispatch, channel, offered, Option.isNone_none, if_true, free]
  rw [serve_of_ready connected free, waiting, drain_cons, taken]
  rfl

end Session

end PhoneKey
