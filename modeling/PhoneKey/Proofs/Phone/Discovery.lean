import PhoneKey.Proofs.Phone.Run
import PhoneKey.Proofs.Watch

/-! # Discovery follows the connection

A peer whose connection ends leaves discovery in the same call, whichever call that is, and is published as left
on request exactly if it was. While the phone is in touch with a peer discovery does not lose it.
-/

namespace PhoneKey

/-- Whether the reason of a change names a peer. -/
def DiscoveryReason.names (sorcId : Uuid) : DiscoveryReason → Bool
  | .discovered other | .rediscovered other | .disconnect other | .disconnected other => other = sorcId
  | .lost sorcIds => sorcId ∈ sorcIds
  | _ => false

/-- An effect does not lose the peer that a connection is about. -/
def Effect.Spares (state : SessionState) : Effect → Prop
  | .announce (.discovery ⟨_, .lost sorcIds⟩) => ∀ sorcId, state.sorcId? = some sorcId → sorcId ∉ sorcIds
  | _ => True

private theorem Effect.spares_of_isAside {state : SessionState} {effect : Effect}
    (aside : effect.IsAside state) : effect.Spares state := by
  cases effect with
  | announce news =>
    cases news with
    | discovery change =>
      obtain ⟨after, reason⟩ := change
      cases reason with
      | lost sorcIds => exact aside
      | _ => trivial
    | _ => trivial
  | _ => trivial

private theorem Effect.isConnection_of_isAside {state : SessionState} {effect : Effect}
    (aside : effect.IsAside state) : effect.isConnection = false := by
  cases effect with
  | announce news => cases news <;> trivial
  | telemetry event => cases aside
  | _ => rfl

private theorem Effect.spares_of_undiscovered {state : SessionState} {effect : Effect}
    (silent : effect.discovery? = none) : effect.Spares state := by
  cases effect with
  | announce news =>
    cases news with
    | discovery change => cases silent
    | _ => trivial
  | _ => trivial

namespace Session

variable {defaultMtu : Nat} {session : Session}

private theorem discovery?_of_isServing {effect : Effect} (serving : effect.isServing = true) :
    effect.discovery? = none := by
  cases effect with
  | announce news => cases news <;> trivial
  | _ => rfl

private theorem discovery?_of_isConnection {effect : Effect} (connection : effect.isConnection = true) :
    effect.discovery? = none := by
  cases effect with
  | announce news => cases news <;> trivial
  | _ => rfl

private theorem discovery?_of_isLower {effect : Effect} (lower : effect.isLower = true) :
    effect.discovery? = none := by
  cases effect with
  | announce news => cases news <;> trivial
  | _ => rfl

private theorem discovery?_requestGrant (session : Session) (grant : UInt16) :
    ∀ effect ∈ (session.requestGrant grant).2.effects, effect.discovery? = none := by
  rw [requestGrant]
  split
  · simp [Turn.idle]
  · intro effect member
    rcases List.mem_append.mp member with told | served
    · simp only [publishGrants, Turn.andThen, List.mem_append, List.mem_singleton] at told
      rcases told with rfl | rfl <;> rfl
    · exact discovery?_of_isServing (serving_serve _ effect served)

/-- A session has no news of discovery. -/
theorem discovery?_act (settled : Settled defaultMtu session) (input : Input) :
    ∀ effect ∈ (session.act input).effects, effect.discovery? = none := by
  intro effect member
  have outcome : Outcome defaultMtu session input (session.act input) := act_outcome settled input
  generalize session.act input = turn at outcome member
  cases outcome with
  | @asks grant asked => exact discovery?_requestGrant session grant effect member
  | serves serving other => exact discovery?_of_isServing (serving effect member)
  | @absorbs checked lower settled unsent closes other =>
    have served : checked.Lower (checked.channel.act lower) := ⟨lower, unsent, rfl⟩
    rcases mem_absorb settled served member with below | serving | connection | rfl
    · exact discovery?_of_isLower (served.effects settled effect below)
    · exact discovery?_of_isServing serving
    · exact discovery?_of_isConnection connection
    · rfl

end Session

namespace Discovery

variable {discovery : Discovery} {sorcId : Uuid}

/-- A peer that is forgotten is gone, and named once if it was known. -/
theorem forget_gone (discovery : Discovery) (sorcId : Uuid) (requested : Bool) :
    (discovery.forget sorcId requested).state.state.contains sorcId = false ∧
      changes (discovery.forget sorcId requested).effects =
        if discovery.state.contains sorcId then
          [⟨discovery.state.erase sorcId, if requested then .disconnect sorcId else .disconnected sorcId⟩]
        else [] := by
  unfold forget
  cases known : discovery.state.contains sorcId with
  | true => simp [publish, changes, Effect.discovery?, DiscoveryState.contains, DiscoveryState.find?_erase]
  | false => simp [known, Turn.idle, changes]

/-- A tick neither brings back a peer that is gone nor names it. -/
theorem tick_gone (gone : discovery.state.contains sorcId = false) (now : Nat) (inTouch : Option Uuid) :
    (discovery.tick now inTouch).state.state.contains sorcId = false ∧
      ∀ change ∈ changes (discovery.tick now inTouch).effects, change.reason.names sorcId = false := by
  have step := discovery.tick_step now inTouch
  generalize discovery.tick now inTouch = turn at step ⊢
  cases step with
  | @loses _ _ _ _ lost sweeps kept nonempty known spared =>
    have unlisted : sorcId ∉ lost := fun listed => Bool.false_ne_true (gone.symm.trans (known sorcId listed))
    have absent := DiscoveryState.contains_eq_false_iff.mp gone
    constructor
    · rw [DiscoveryState.contains_eq_false_iff, publish, DiscoveryState.find?_eraseAll, absent, ite_self]
    · simp [publish, changes, Effect.discovery?, DiscoveryReason.names, unlisted]
  | passes unreported kept => exact ⟨gone, by simp [Turn.idle, changes]⟩

end Discovery

namespace Phone

variable {defaultMtu : Nat} {phone : Phone} {turn : PhoneTurn} {below : SessionTurn} {sorcId : Uuid}

/-- Whether an action asks for the end of the connection. -/
def Action.asksToEnd : Action → Bool
  | .disconnect => true
  | _ => false

/-- Whether an action asks for a grant, or is one of discovery or of Bluetooth. -/
def Action.sparesConnection : Action → Bool
  | .requestGrant _ | .beginDiscovery | .endDiscovery | .bluetoothChanged _ | .sighted _ _ | .advertised _ _ => true
  | _ => false

/-- A connection that has ended is forgotten in discovery. -/
theorem connectionTurn_of_ended (requested : Bool) (engaged : phone.state.sorcId? = some sorcId)
    (ended : below.state.state.isDisconnected = true) :
    phone.connectionTurn requested below =
      ⟨{ phone with session := below.state, discovery := (phone.discovery.forget sorcId requested).state }, [],
        below.effects ++ (phone.discovery.forget sorcId requested).effects⟩ := by
  have before : phone.session.state.sorcId? = some sorcId := engaged
  simp [connectionTurn, forgetEnded, inSession, inDiscovery, Turn.andThen, state, before, ended]

/-- What discovery publishes of a peer whose connection has ended. -/
def farewell (phone : Phone) (sorcId : Uuid) (requested : Bool) : List DiscoveryChange :=
  if phone.discovery.state.contains sorcId then
    [⟨phone.discovery.state.erase sorcId, if requested then .disconnect sorcId else .disconnected sorcId⟩]
  else []

private theorem connectionTurn_forgets (requested : Bool)
    (silent : ∀ effect ∈ below.effects, effect.discovery? = none)
    (engaged : phone.state.sorcId? = some sorcId) (ended : below.state.state.isDisconnected = true) :
    (phone.connectionTurn requested below).state.discovery.state.contains sorcId = false ∧
      Discovery.changes (phone.connectionTurn requested below).effects = phone.farewell sorcId requested := by
  obtain ⟨gone, told⟩ := phone.discovery.forget_gone sorcId requested
  have quiet : Discovery.changes below.effects = [] := List.filterMap_eq_nil_iff.mpr silent
  rw [connectionTurn_of_ended requested engaged ended]
  exact ⟨gone, by rw [Discovery.changes_append, quiet, told]; rfl⟩

private theorem named_farewell (phone : Phone) (sorcId : Uuid) (requested : Bool) :
    (phone.farewell sorcId requested).filter (·.reason.names sorcId) = phone.farewell sorcId requested := by
  unfold farewell
  split
  · cases requested <;> simp [DiscoveryReason.names]
  · rfl

/-- What a call makes of discovery as the connection goes. -/
structure Follows (phone : Phone) (input : Input) (turn : PhoneTurn) : Prop where
  /-- A peer whose connection ends is known no longer, and is named exactly once if it was known. -/
  forgets : ∀ sorcId, phone.state.sorcId? = some sorcId → turn.state.state.isDisconnected = true →
    turn.state.discovery.state.contains sorcId = false ∧
      (Discovery.changes turn.effects).filter (·.reason.names sorcId) =
        phone.farewell sorcId input.action.asksToEnd
  steady : input.action.sparesConnection = true → turn.state.state = phone.state

private theorem follows_connectionTurn (input : Input)
    (silent : ∀ effect ∈ below.effects, effect.discovery? = none)
    (may : input.action.sparesConnection = false) :
    Follows phone input (phone.connectionTurn input.action.asksToEnd below) where
  forgets sorcId engaged ended := by
    have session := (carries_connectionTurn phone input.action.asksToEnd below).session
    have finished : below.state.state.isDisconnected = true := session ▸ ended
    obtain ⟨gone, told⟩ := connectionTurn_forgets input.action.asksToEnd silent engaged finished
    exact ⟨gone, by rw [told, named_farewell]⟩
  steady spares := by cases may.symm.trans spares

private theorem follows_tick (now : Nat)
    (silent : ∀ effect ∈ (phone.session.tick now).effects, effect.discovery? = none) :
    Follows phone ⟨now, .tick⟩ (phone.tick now) where
  forgets sorcId engaged ended := by
    have finished : (phone.session.tick now).state.state.isDisconnected = true :=
      (carries_tick phone now).session ▸ ended
    obtain ⟨gone, told⟩ := connectionTurn_forgets false silent engaged finished
    obtain ⟨away, unnamed⟩ := Discovery.tick_gone gone now
      (phone.connectionTurn false (phone.session.tick now)).state.state.sorcId?
    refine ⟨away, ?_⟩
    rw [tick, Turn.andThen, Discovery.changes_append, told, List.filter_append, named_farewell]
    have rest := List.filter_eq_nil_iff.mpr fun change member => Bool.not_eq_true _ ▸ unnamed change member
    rw [inDiscovery, rest, List.append_nil]
    rfl
  steady spares := by cases spares

private theorem state_requestGrant (settled : Session.Settled defaultMtu phone.session) (grant : UInt16) :
    (phone.session.requestGrant grant).2.state.state = phone.session.state := by
  have moves : Session.Moves 0 none phone.session (phone.session.requestGrant grant).2 :=
    Session.requestGrant_moves grant
  rw [← moves.shown settled]
  exact Session.shown_of_quiet _ (Session.quiet_requestGrant phone.session grant)

/-- A call that spares the connection leaves its state alone. -/
theorem follows_of_spares (settled : Session.Settled defaultMtu phone.session) {input : Input}
    (spares : input.action.sparesConnection = true) : Follows phone input (phone.act input) := by
  have steady : (phone.act input).state.state = phone.state := by
    rw [state, (carries_act phone input).session]
    obtain ⟨now, action⟩ := input
    cases action with
    | requestGrant grant => exact state_requestGrant settled grant
    | connect credentials => cases spares
    | disconnect => cases spares
    | radioEvent event => cases spares
    | confirm result => cases spares
    | receive result => cases spares
    | tick => cases spares
    | _ => rfl
  refine ⟨fun sorcId engaged ended => ?_, fun _ => steady⟩
  rw [steady] at ended
  cases before : phone.state <;> simp_all [ConnectionState.sorcId?, ConnectionState.isDisconnected]

theorem follows_act (settled : Session.Settled defaultMtu phone.session) (input : Input) :
    Follows phone input (phone.act input) := by
  have silent (action : Session.Action) := Session.discovery?_act settled ⟨input.now, action⟩
  obtain ⟨now, action⟩ := input
  cases action with
  | connect credentials => exact follows_connectionTurn ⟨now, .connect credentials⟩ (silent (.connect credentials)) rfl
  | disconnect => exact follows_connectionTurn ⟨now, .disconnect⟩ (silent .disconnect) rfl
  | radioEvent event => exact follows_connectionTurn ⟨now, .radioEvent event⟩ (silent (.radioEvent event)) rfl
  | confirm result => exact follows_connectionTurn ⟨now, .confirm result⟩ (silent (.confirm result)) rfl
  | receive result => exact follows_connectionTurn ⟨now, .receive result⟩ (silent (.receive result)) rfl
  | tick => exact follows_tick now (silent .tick)
  | _ => exact follows_of_spares settled rfl

/-- The stream of connections shows the state of the phone, and no effect loses the peer that it shows. -/
structure KeepsInTouch (before : SessionState) (effects : List Effect) (after : SessionState) : Prop where
  shown : Session.shown before effects = after
  spares : Watched Session.shown Effect.Spares before effects

theorem KeepsInTouch.append {before between after : SessionState} {first second : List Effect}
    (early : KeepsInTouch before first between) (late : KeepsInTouch between second after) :
    KeepsInTouch before (first ++ second) after where
  shown := by rw [Session.shown_append, early.shown, late.shown]
  spares := early.spares.append Session.shown_append (early.shown ▸ late.spares)

private theorem keepsInTouch_of_aside {state : SessionState} {effects : List Effect}
    (aside : ∀ effect ∈ effects, effect.IsAside state) : KeepsInTouch state effects state := by
  have quiet (effect : Effect) (member : effect ∈ effects) := Effect.isConnection_of_isAside (aside effect member)
  refine ⟨Session.shown_of_quiet _ quiet, ?_⟩
  rintro earlier effect later rfl
  rw [Session.shown_of_quiet _ fun effect member => quiet effect (by simp [member])]
  exact Effect.spares_of_isAside (aside effect (by simp))

private theorem keepsInTouch_below (settled : Session.Settled defaultMtu phone.session) (input : Input) :
    KeepsInTouch phone.state (phone.below input).effects (phone.below input).state.state := by
  unfold below
  split
  · next action same =>
    refine ⟨(Session.act_moves settled _).shown settled, .of_forall fun effect member state => ?_⟩
    exact Effect.spares_of_undiscovered (Session.discovery?_act settled _ effect member)
  · exact keepsInTouch_of_aside (by simp [Turn.idle])

theorem keepsInTouch_act (settled : Session.Settled defaultMtu phone.session) (input : Input) :
    KeepsInTouch phone.state (phone.act input).effects (phone.act input).state.state := by
  have carries := carries_act phone input
  have reached : (phone.act input).state.state = (phone.below input).state.state :=
    congrArg Session.state carries.session
  obtain ⟨aside, same, among⟩ := carries.effects
  rw [same, reached]
  exact (keepsInTouch_below settled input).append (keepsInTouch_of_aside among)

/-- After any inputs discovery has followed the connection in every call, and no peer was lost while the phone was
in touch with it. -/
theorem followsConnection_of_run (handset : Handset) (config : Config) (inputs : List Input) :
    KeepsInTouch .disconnected ((fresh handset config).run inputs).effects
        ((fresh handset config).run inputs).state.state ∧
      ∀ call ∈ (fresh handset config).history inputs,
        Follows call.before call.input (call.before.act call.input) := by
  refine ⟨?_, fun call made => follows_act (settled_of_mem_history made) call.input⟩
  induction inputs using List.reverseRecOn with
  | nil => exact keepsInTouch_of_aside (by simp [run, Turn.idle])
  | append_singleton inputs input ih =>
    have settled := settled_of_run handset config inputs
    rw [run, Turn.effects_forEach_concat, Turn.state_forEach_concat]
    exact ih.append (keepsInTouch_act settled input)

end Phone

end PhoneKey
