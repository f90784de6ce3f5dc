import PhoneKey.Phone
import PhoneKey.Proofs.Discovery.Actions
import PhoneKey.Proofs.Session.Publications

/-! # Runs of a phone

In each call a phone lets its session take the turn that the call is about, if it is about the session at all,
and adds effects that are no matter of the session. What a session keeps in its calls it keeps in a phone.
-/

namespace PhoneKey

/-- Whether an effect is no matter of a session in a state: scanning, news of Bluetooth, and news of discovery
that do not lose the peer that the session is in touch with. -/
def Effect.IsAside (state : SessionState) : Effect → Prop
  | .radio (.scan _) => True
  | .announce (.bluetooth _) => True
  | .announce (.discovery ⟨_, .lost sorcIds⟩) => ∀ sorcId, state.sorcId? = some sorcId → sorcId ∉ sorcIds
  | .announce (.discovery _) => True
  | _ => False

theorem Discovery.isAside_act (discovery : Discovery) (input : Discovery.Input) {state : SessionState}
    (touch : ∀ now inTouch, input = .sweep now inTouch ∨ input = .tick now inTouch → inTouch = state.sorcId?) :
    ∀ effect ∈ (discovery.act input).effects, effect.IsAside state := by
  have step := discovery.act_step input
  generalize discovery.act input = turn at step ⊢
  cases step with
  | @accepts sorcId rssi now on => cases discovery.state.contains sorcId <;> simp [publish, Effect.IsAside]
  | loses sweeps kept nonempty known spared =>
    have same := touch _ _ sweeps
    subst same
    simpa [publish, Effect.IsAside] using fun sorcId engaged member => spared sorcId member engaged
  | @forgets sorcId requested known => cases requested <;> simp [publish, Effect.IsAside]
  | _ => simp [publish, reset, Turn.idle, Effect.IsAside]

namespace Phone

/-- A command, a report of the radio, or the passing of time. -/
inductive Action where
  | beginDiscovery
  | endDiscovery
  | connect (credentials : Credentials)
  | disconnect
  | requestGrant (grant : UInt16)
  | bluetoothChanged (on : Bool)
  | sighted (sorcId : Uuid) (rssi : Int16)
  | advertised (data : Bytes) (rssi : Int16)
  | radioEvent (event : RadioEvent)
  | confirm (result : Except LinkError Unit)
  | receive (result : Except LinkError Bytes)
  | tick

structure Input where
  now : Nat
  action : Action

def act (phone : Phone) (input : Input) : PhoneTurn :=
  match input.action with
  | .beginDiscovery => phone.beginDiscovery input.now
  | .endDiscovery => phone.endDiscovery
  | .connect credentials => phone.connect input.now credentials
  | .disconnect => phone.disconnect input.now
  | .requestGrant grant => (phone.requestGrant grant).2
  | .bluetoothChanged on => phone.bluetoothChanged on
  | .sighted sorcId rssi => phone.sighted sorcId rssi input.now
  | .advertised data rssi => phone.advertised data rssi input.now
  | .radioEvent event => phone.radioEvent input.now event
  | .confirm result => phone.confirm input.now result
  | .receive result => phone.receive input.now result
  | .tick => phone.tick input.now

/-- What a phone does with inputs that come one after the other. -/
def run (phone : Phone) (inputs : List Input) : PhoneTurn := Turn.forEach act phone inputs

/-- The calls of a run. -/
def history (phone : Phone) (inputs : List Input) : List (Call Phone Input) := Turn.calls act phone inputs

/-- A phone that was just built, whether or not its configuration is usable. -/
def fresh (handset : Handset) (config : Config) : Phone where
  session := .fresh handset config.defaultMtu.toNat config
  discovery := .new config
  bluetooth := false
  config := config

/-- What is built with a usable configuration is a fresh phone. -/
theorem make_eq (handset : Handset) (config : Config) :
    make handset config = config.check.map fun _ => fresh handset config := rfl

/-- What an action is about for the session, if anything. -/
def Action.session? : Action → Option Session.Action
  | .connect credentials => some (.connect credentials)
  | .disconnect => some .disconnect
  | .requestGrant grant => some (.requestGrant grant)
  | .radioEvent event => some (.radioEvent event)
  | .confirm result => some (.confirm result)
  | .receive result => some (.receive result)
  | .tick => some .tick
  | _ => none

/-- What the session does in a call of the phone. -/
def below (phone : Phone) (input : Input) : SessionTurn :=
  match input.action.session? with
  | some action => phone.session.act ⟨input.now, action⟩
  | none => .idle phone.session

variable {phone : Phone} {turn : PhoneTurn} {next : Phone → PhoneTurn}

/-- A turn that is no matter of the session. -/
structure Aside (phone : Phone) (turn : PhoneTurn) : Prop where
  session : turn.state.session = phone.session
  effects : ∀ effect ∈ turn.effects, effect.IsAside phone.state

private theorem aside_idle (phone : Phone) : Aside phone (.idle phone) := ⟨rfl, by simp [Turn.idle]⟩

private theorem aside_scan (phone : Phone) (on : Bool) : Aside phone (phone.scan on) :=
  ⟨rfl, by simp [scan, Effect.IsAside]⟩

private theorem aside_inDiscovery (phone : Phone) (discovery : Discovery) (input : Discovery.Input)
    (touch : ∀ now inTouch, input = .sweep now inTouch ∨ input = .tick now inTouch →
      inTouch = phone.state.sorcId?) :
    Aside phone (phone.inDiscovery (discovery.act input)) := ⟨rfl, discovery.isAside_act input touch⟩

theorem Aside.andThen (early : Aside phone turn) (late : Aside turn.state (next turn.state)) :
    Aside phone (turn.andThen next) where
  session := late.session.trans early.session
  effects effect member := by
    have same : turn.state.state = phone.state := congrArg Session.state early.session
    rcases List.mem_append.mp member with first | second
    · exact early.effects effect first
    · exact same ▸ late.effects effect second

private theorem aside_forgetEnded (before : SessionState) (requested : Bool) (phone : Phone) :
    Aside phone (forgetEnded before requested phone) := by
  unfold forgetEnded
  split
  · split
    · exact aside_inDiscovery phone phone.discovery (.forget _ requested) (by simp)
    · exact aside_idle phone
  · exact aside_idle phone

private theorem aside_beginDiscovery (phone : Phone) (now : Nat) :
    Aside phone (phone.beginDiscovery now) := by
  unfold beginDiscovery
  refine (aside_inDiscovery phone phone.discovery (.start now) (by simp)).andThen ?_
  split
  · exact aside_scan _ _
  · exact aside_idle _

private theorem aside_endDiscovery (phone : Phone) : Aside phone phone.endDiscovery := by
  unfold endDiscovery
  exact (aside_scan phone false).andThen (aside_inDiscovery _ _ .stop (by simp))

private theorem aside_bluetoothChanged (phone : Phone) (on : Bool) :
    Aside phone (phone.bluetoothChanged on) := by
  have announced : Aside phone ⟨{ phone with bluetooth := on }, [], [.announce (.bluetooth on)]⟩ :=
    ⟨rfl, by simp [Effect.IsAside]⟩
  unfold bluetoothChanged
  refine announced.andThen ?_
  split
  · split
    · exact aside_scan _ _
    · exact aside_idle _
  · exact aside_inDiscovery _ _ .reset (by simp)

private theorem aside_sighted (phone : Phone) (sorcId : Uuid) (rssi : Int16) (now : Nat) :
    Aside phone (phone.sighted sorcId rssi now) :=
  aside_inDiscovery phone phone.discovery (.sighted sorcId rssi now) (by simp)

private theorem aside_advertised (phone : Phone) (data : Bytes) (rssi : Int16) (now : Nat) :
    Aside phone (phone.advertised data rssi now) := by
  unfold advertised
  split
  · exact aside_sighted phone _ rssi now
  · exact aside_idle phone

/-- A turn that carries one of the session and adds what is no matter of the session. -/
structure Carries (below : SessionTurn) (turn : PhoneTurn) : Prop where
  session : turn.state.session = below.state
  effects : ∃ aside, turn.effects = below.effects ++ aside ∧ ∀ effect ∈ aside, effect.IsAside below.state.state

private theorem Aside.carries (aside : Aside phone turn) : Carries (.idle phone.session) turn :=
  ⟨aside.session, turn.effects, rfl, aside.effects⟩

private theorem carries_inSession (phone : Phone) (below : SessionTurn) :
    Carries below (phone.inSession below) :=
  ⟨rfl, [], (List.append_nil _).symm, by simp⟩

theorem Carries.andThen {below : SessionTurn} (carries : Carries below turn)
    (aside : Aside turn.state (next turn.state)) : Carries below (turn.andThen next) := by
  obtain ⟨early, same, among⟩ := carries.effects
  have state : turn.state.state = below.state.state := congrArg Session.state carries.session
  refine ⟨aside.session.trans carries.session, early ++ (next turn.state).effects, ?_, fun effect member => ?_⟩
  · rw [Turn.andThen, same, List.append_assoc]
  · rcases List.mem_append.mp member with first | second
    · exact among effect first
    · exact state ▸ aside.effects effect second

theorem carries_connectionTurn (phone : Phone) (requested : Bool) (below : SessionTurn) :
    Carries below (phone.connectionTurn requested below) :=
  (carries_inSession phone below).andThen (aside_forgetEnded _ _ _)

theorem carries_tick (phone : Phone) (now : Nat) : Carries (phone.session.tick now) (phone.tick now) := by
  unfold tick
  exact (carries_connectionTurn phone false _).andThen (aside_inDiscovery _ _ (.tick now _) (by simp))

/-- Every call carries the turn of the session that it is about. -/
theorem carries_act (phone : Phone) (input : Input) : Carries (phone.below input) (phone.act input) := by
  obtain ⟨now, action⟩ := input
  cases action with
  | beginDiscovery => exact (aside_beginDiscovery phone now).carries
  | endDiscovery => exact (aside_endDiscovery phone).carries
  | bluetoothChanged on => exact (aside_bluetoothChanged phone on).carries
  | sighted sorcId rssi => exact (aside_sighted phone sorcId rssi now).carries
  | advertised data rssi => exact (aside_advertised phone data rssi now).carries
  | requestGrant grant => exact carries_inSession phone _
  | tick => exact carries_tick phone now
  | _ => exact carries_connectionTurn phone _ _

private theorem below_settled {defaultMtu : Nat} (settled : Session.Settled defaultMtu phone.session)
    (input : Input) : Session.Settled defaultMtu (phone.below input).state := by
  unfold below
  split
  · exact settled.act _
  · exact settled

/-- After any inputs the session of a phone is settled. -/
theorem settled_of_run (handset : Handset) (config : Config) (inputs : List Input) :
    Session.Settled config.defaultMtu.toNat ((fresh handset config).run inputs).state.session := by
  apply Turn.run_induction act (motive := fun _ phone => Session.Settled config.defaultMtu.toNat phone.session)
  · exact Session.settled_fresh handset config.defaultMtu.toNat config
  · intro calls phone input settled
    rw [(carries_act phone input).session]
    exact below_settled settled input

theorem settled_of_mem_history {handset : Handset} {config : Config} {inputs : List Input}
    {call : Call Phone Input} (made : call ∈ (fresh handset config).history inputs) :
    Session.Settled config.defaultMtu.toNat call.before.session := by
  obtain ⟨earlier, _, _, found⟩ := Turn.before_of_mem_calls act made
  rw [found]
  exact settled_of_run handset config earlier

end Phone

end PhoneKey
