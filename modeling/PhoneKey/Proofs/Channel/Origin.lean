import PhoneKey.Proofs.Channel.Writes

/-! # Where the package under way comes from

The history of a run tells which call made the package under way. While the handshake runs that was a
call which itself found the channel in clear, and in a session it was a command of that session, whose
message is the one in flight.
-/

namespace PhoneKey.Channel

variable {defaultMtu : Nat} {channel : Channel} {input : Input} {turn : Turn Channel ChannelReport}

/-- The package that a call leaves under way was there before, or the call has made it. -/
theorem Transition.sending {package : Package} (lawful : Lawful defaultMtu channel)
    (transition : Transition defaultMtu channel input turn)
    (sending : turn.state.link.line.sending = some package) :
    turn.state.state.isConnected = channel.state.isConnected ∧
      ((∃ earlier, channel.link.line.sending = some earlier ∧ earlier.message = package.message ∧
        turn.state.inFlight = channel.inFlight) ∨
      ∃ message, Launch channel turn.effects input message package.message ∧
        (turn.state.state.isConnected = true → turn.state.inFlight = some message)) := by
  have launched : ∀ {link message}, (Link.start link message).refusal = none →
      (Link.start link message).link.line.sending = some package →
      (∀ effect ∈ (Link.start link message).effects, effect ∈ turn.effects) →
      package.message = message ∧ Begins turn.effects message := by
    intro link message taken held kept
    obtain ⟨other, begun, carried, _⟩ := Link.underway_of_taken taken
    obtain ⟨frame, line, launch, _, same⟩ := Link.start_taken taken
    cases held.symm.trans begun
    refine ⟨carried, frame, true, kept _ ?_, Line.opens_of_launch launch⟩
    simp [same]
  cases transition with
  | idle => exact ⟨rfl, .inl ⟨package, sending, rfl, rfl⟩⟩
  | unconnected message closed => exact ⟨rfl, .inl ⟨package, sending, rfl, rfl⟩⟩
  | dials handset credentials => cases sending
  | redials handset same => cases sending
  | asks asked taken =>
    subst asked
    obtain ⟨carried, begins⟩ := launched taken sending fun effect member => by simp [member]
    refine ⟨rfl, .inr ⟨limitRequest, ?_, nofun⟩⟩
    rw [carried]
    exact .clear rfl nofun limitRequest_spoken begins
  | asksInVain asked refused => cases sending
  | ends grounds => cases sending
  | proceeds confirmed =>
    obtain ⟨earlier, _, held, _, _, rfl⟩ := Line.confirm_eq_next confirmed
    cases sending
    exact ⟨rfl, .inl ⟨earlier, held, rfl, rfl⟩⟩
  | breaksOff confirmed closed grounds => cases sending
  | collects listening received quiet =>
    obtain ⟨receiving, rfl⟩ := Line.receive_frame received
    exact ⟨rfl, .inl ⟨package, sending, rfl, rfl⟩⟩
  | waits confirmed closed keyless =>
    obtain ⟨_, _, _, rfl⟩ := Line.confirm_eq_complete confirmed
    cases sending
  | @opens handset line next credentials raw data mtu offered received kind told limit spoken taken =>
    subst spoken
    obtain ⟨carried, begins⟩ := launched taken sending fun effect member => by simp [member]
    refine ⟨rfl, .inr ⟨(opening handset credentials).1, ?_, nofun⟩⟩
    rw [carried]
    exact .clear rfl nofun (opening_spoken handset credentials) begins
  | opensInVain received spoken refused => cases sending
  | @replies _ _ _ _ _ _ _ _ _ _ _ _ message offered received reply spoken taken =>
    subst spoken
    obtain ⟨carried, begins⟩ := launched taken sending fun effect member => member
    refine ⟨rfl, .inr ⟨message, ?_, nofun⟩⟩
    rw [carried]
    exact .clear rfl nofun (List.mem_cons_of_mem _ reply.kind) begins
  | givesUp received kind spoken => cases sending
  | establishes confirmed =>
    obtain ⟨_, _, _, rfl⟩ := Line.confirm_eq_complete confirmed
    cases sending
  | @seals _ _ _ _ _ message offered spoken taken =>
    subst spoken
    obtain ⟨carried, begins⟩ := launched taken sending fun effect member => member
    refine ⟨rfl, .inr ⟨message, ?_, fun _ => rfl⟩⟩
    rw [carried]
    exact .sealed _ rfl rfl begins
  | refuses spoken refused =>
    subst spoken
    have busy := Link.refusal_of_sending refused sending
    refine ⟨rfl, .inl ⟨package, sending, rfl, ?_⟩⟩
    exact if_pos busy
  | delivers confirmed =>
    obtain ⟨_, _, _, rfl⟩ := Line.confirm_eq_complete confirmed
    cases sending
  | loses cause held => cases sending
  | declines confirmed => cases sending
  | hears received unprotected =>
    obtain ⟨receiving, rfl⟩ := Line.receive_frame received
    exact ⟨rfl, .inl ⟨package, sending, rfl, rfl⟩⟩
  | mishears cause result kept =>
    rw [kept] at sending
    exact ⟨rfl, .inl ⟨package, sending, rfl, rfl⟩⟩

/-- Whoever is connected after a call was so before, in the same session, or has just become so. -/
theorem Transition.connected (lawful : Lawful defaultMtu channel)
    (transition : Transition defaultMtu channel input turn)
    (connected : turn.state.state.isConnected = true) :
    (channel.state.isConnected = false ∧ turn.state.link.line.sending = none ∧
      ∃ key, turn.state.protection = .sealed (.new key .toSorc)) ∨
    (channel.state.isConnected = true ∧ ∃ context following, channel.protection = .sealed context ∧
      turn.state.protection = .sealed following ∧ context.SameSession following) := by
  have kept : ∀ {other : Channel}, other.state = channel.state →
      other.protection = channel.protection → other.state.isConnected = true →
      (channel.state.isConnected = true ∧ ∃ context following, channel.protection = .sealed context ∧
        other.protection = .sealed following ∧ context.SameSession following) := by
    intro other same guarded connected
    rw [same] at connected
    rw [guarded]
    refine ⟨connected, ?_⟩
    cases lawful with
    | secured => exact ⟨_, _, rfl, rfl, .refl _⟩
    | _ => cases connected
  cases transition with
  | idle => exact .inr (kept rfl rfl connected)
  | unconnected message closed => exact .inr (kept rfl rfl connected)
  | dials handset credentials => cases connected
  | redials handset same => cases connected
  | asks asked taken => cases connected
  | asksInVain asked refused => cases connected
  | ends grounds => cases connected
  | proceeds confirmed => exact .inr (kept rfl rfl connected)
  | breaksOff confirmed closed grounds => cases connected
  | collects listening received quiet => exact .inr (kept rfl rfl connected)
  | waits confirmed closed keyless => exact .inr (kept rfl rfl connected)
  | opens received kind told limit spoken taken => cases connected
  | opensInVain received spoken refused => cases connected
  | replies received reply spoken taken => cases connected
  | givesUp received kind spoken => cases connected
  | establishes confirmed =>
    obtain ⟨_, _, _, rfl⟩ := Line.confirm_eq_complete confirmed
    exact .inl ⟨rfl, rfl, _, rfl⟩
  | seals spoken taken => exact .inr ⟨rfl, _, _, rfl, rfl, .refl _⟩
  | refuses spoken refused => exact .inr ⟨rfl, _, _, rfl, rfl, .refl _⟩
  | delivers confirmed => exact .inr ⟨rfl, _, _, rfl, rfl, .refl _⟩
  | loses cause sending => exact .inr ⟨rfl, _, _, rfl, rfl, .refl _⟩
  | declines confirmed => exact .inr ⟨rfl, _, _, rfl, rfl, .refl _⟩
  | hears received unprotected => exact .inr ⟨rfl, _, _, rfl, rfl, unprotected.sameSession⟩
  | mishears cause result kept => exact .inr ⟨rfl, _, _, rfl, rfl, .refl _⟩

/-- The calls of a run since it opened the session with a key. -/
structure SessionSince (calls since : List (Call Channel Input)) (key : Block) : Prop where
  opened : ∃ earlier opening, calls = earlier ++ opening :: since ∧
    opening.before.state.isConnected = false ∧
    (opening.before.act opening.input).state.protection = .sealed (.new key .toSorc)
  unbroken : ∀ call ∈ since, call.before.state.isConnected = true ∧
    ∃ context, call.before.protection = .sealed context ∧
      (SealingContext.new key .toSorc).SameSession context

/-- What the calls of a run tell about the package under way. -/
inductive Traced (calls : List (Call Channel Input)) (channel : Channel) : Prop
  | clear (closed : channel.state.isConnected = false)
      (made : ∀ package, channel.link.line.sending = some package → ∃ call ∈ calls, ∃ message,
        call.before.state.isConnected = false ∧
          Launch call.before (call.before.act call.input).effects call.input message package.message)
  | sealed {since : List (Call Channel Input)} {key : Block} {context : SealingContext}
      (connected : channel.state.isConnected = true) (session : SessionSince calls since key)
      (keyed : channel.protection = .sealed context)
      (same : (SealingContext.new key .toSorc).SameSession context)
      (made : ∀ package, channel.link.line.sending = some package → ∃ call ∈ since, ∃ message,
        channel.inFlight = some message ∧
          Launch call.before (call.before.act call.input).effects call.input message package.message)

theorem SessionSince.concat {calls since : List (Call Channel Input)} {key : Block}
    {context : SealingContext} (session : SessionSince calls since key)
    (connected : channel.state.isConnected = true) (keyed : channel.protection = .sealed context)
    (same : (SealingContext.new key .toSorc).SameSession context) (input : Input) :
    SessionSince (calls ++ [⟨channel, input⟩]) (since ++ [⟨channel, input⟩]) key := by
  obtain ⟨earlier, opening, split, closed, fresh⟩ := session.opened
  refine ⟨⟨earlier, opening, by simp [split], closed, fresh⟩, ?_⟩
  intro call member
  rcases List.mem_append.mp member with member | member
  · exact session.unbroken call member
  · cases List.mem_singleton.mp member
    exact ⟨connected, context, keyed, same⟩

/-- One more call keeps track of the package under way. -/
theorem Traced.act {calls : List (Call Channel Input)} (traced : Traced calls channel)
    (lawful : Lawful defaultMtu channel) (input : Input) :
    Traced (calls ++ [⟨channel, input⟩]) (channel.act input).state := by
  have transition := act_transition lawful input
  generalize turned : channel.act input = turn at transition ⊢
  cases connected : turn.state.state.isConnected with
  | false =>
    refine .clear connected ?_
    intro package sending
    obtain ⟨steady, origin⟩ := transition.sending lawful sending
    have closed : channel.state.isConnected = false := steady.symm.trans connected
    rcases origin with ⟨earlier, held, carried, _⟩ | ⟨message, launch, _⟩
    · cases traced with
      | clear _ made =>
        obtain ⟨call, member, message, before, launch⟩ := made earlier held
        exact ⟨call, List.mem_append_left _ member, message, before, carried ▸ launch⟩
      | sealed secure => cases closed.symm.trans secure
    · exact ⟨⟨channel, input⟩, by simp, message, closed, turned ▸ launch⟩
  | true =>
    rcases transition.connected lawful connected with
      ⟨closed, silent, key, fresh⟩ | ⟨secure, context, following, keyed, keyedAfter, same⟩
    · have begun : (channel.act input).state.protection = .sealed (.new key .toSorc) := by
        rw [turned]
        exact fresh
      have session : SessionSince (calls ++ [⟨channel, input⟩]) [] key :=
        ⟨⟨calls, ⟨channel, input⟩, rfl, closed, begun⟩, by simp⟩
      refine .sealed connected session fresh (.refl _) ?_
      intro package sending
      cases silent.symm.trans sending
    · cases traced with
      | clear closed _ => cases closed.symm.trans secure
      | @sealed since key current _ session held sameAfter made =>
        cases keyed.symm.trans held
        refine .sealed connected (session.concat secure keyed sameAfter input) keyedAfter
          (sameAfter.trans same) ?_
        intro package sending
        obtain ⟨_, origin⟩ := transition.sending lawful sending
        rcases origin with ⟨earlier, held, carried, still⟩ | ⟨message, launch, flying⟩
        · obtain ⟨call, member, message, flies, launch⟩ := made earlier held
          exact ⟨call, List.mem_append_left _ member, message, still.trans flies, carried ▸ launch⟩
        · exact ⟨⟨channel, input⟩, by simp, message, flying connected, turned ▸ launch⟩

/-- Any run keeps track of the package under way. -/
theorem traced_of_run (handset : Handset) (defaultMtu : Nat) (inputs : List Input) :
    Traced ((atRest handset defaultMtu).history inputs) ((atRest handset defaultMtu).run inputs).state := by
  apply lawful_run_induction (motive := Traced)
  · exact .clear rfl nofun
  · intro calls channel input lawful traced
    exact traced.act lawful input

end PhoneKey.Channel
