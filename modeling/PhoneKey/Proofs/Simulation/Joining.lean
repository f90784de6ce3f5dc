import PhoneKey.Proofs.Simulation.Lifting
import PhoneKey.Proofs.Simulation.Outcome
import PhoneKey.Proofs.Simulation.Requests

/-! # Joining a peer

A stack without a connection, whatever it went through before, is asked to connect, the peer is found, and the
frames of the handshake are taken to either end until none is left. If the session is connected then, the peer
is honest, both ends hold one key, nothing is on its way, and the session was asked for nothing yet.
-/

namespace PhoneKey

/-- The radio takes writes, and its peer with this profile knows of no connection. -/
structure Radio.Vacant (profile : SorcProfile) (radio : Radio) : Prop where
  takes : radio.failsWrites = false
  parked : radio.parked = []
  peer : radio.sorc = { Sorc.new profile with received := radio.sorc.received }

private theorem Radio.Vacant.like {profile : SorcProfile} {radio : Radio} (vacant : radio.Vacant profile) :
    (Radio.new (.new profile)).Like radio := by
  obtain ⟨takes, parked, peer⟩ := vacant
  obtain ⟨sorc, waiting, connects, disconnects, scanning, failsWrites⟩ := radio
  dsimp only at takes parked peer
  rw [takes, parked, peer]
  rfl

namespace Bench

/-- The session is asked to connect, and the radio reports that the peer is there. -/
def dial (bench : Bench Session) (credentials : Credentials) : Bench Session :=
  let dialled := (bench.act fun session now => session.connect now credentials).2
  (dialled.act fun session now => session.radioEvent now (.connected credentials.token.sorcId)).2

/-- From a bench with a session that was used before and is disconnected, the session has just connected. -/
structure Joins (config : Config) (credentials : Credentials) (profile : SorcProfile)
    (bench reached : Bench Session) : Prop where
  past : ∃ handset inputs,
    bench.layer = ((Session.fresh handset config.defaultMtu.toNat config).run inputs).state
  ended : bench.layer.state = .disconnected
  vacant : bench.radio.Vacant profile
  pumped : ∃ limit, reached = ((bench.dial credentials).settle limit).2
  quiet : reached.radio.parked = []
  connected : reached.layer.state.isConnected = true

/-- A connection that has just come up on a bench. -/
structure Joined (config : Config) (credentials : Credentials) (profile : SorcProfile) (bench : Bench Session) :
    Prop where
  linked : Linked config.defaultMtu.toNat credentials profile bench.layer bench.radio
  attends : bench.layer.Attends config bench.clock

variable {config : Config} {credentials : Credentials} {profile : SorcProfile} {bench reached : Bench Session}

/-- The bench of the channel alone, as it was before the session was asked to connect. -/
theorem Joins.shadows (joins : Joins config credentials profile bench reached) :
    ∃ handset, Shadows config bench.clock bench
      (.new (.atRest handset config.defaultMtu.toNat) (.new profile)) := by
  obtain ⟨handset, inputs, past⟩ := joins.past
  have settled := Session.settled_of_run handset config.defaultMtu.toNat config inputs
  have configured := Session.configured_of_run handset config.defaultMtu.toNat config inputs
  rw [← past] at settled configured
  have vacant := settled.vacant (by rw [joins.ended]; rfl)
  have asFresh := Session.fresh_of_disconnected settled configured joins.ended
  refine ⟨bench.layer.channel.link.handset, ⟨settled, configured, vacant.outstanding, vacant.queue,
    vacant.openGrants, fun connected => ?_⟩, congrArg Session.channel asFresh, joins.vacant.like, rfl⟩
  rw [joins.ended] at connected
  cases connected

/-- The session follows its channel until the peer is there. -/
theorem Joins.dialled (joins : Joins config credentials profile bench reached)
    (shares : profile.Shares credentials.token) :
    ∃ handset, Shadows config bench.clock (bench.dial credentials)
      (attempt handset config.defaultMtu.toNat credentials profile) := by
  obtain ⟨handset, shadows⟩ := joins.shadows
  have admitted : Channel.admits bench.ready.state credentials.token.sorcId = true := by
    have state : bench.ready.state = .disconnected := joins.ended
    rw [state]
    rfl
  have asked := @Shadows.act_of_closed config bench.clock bench _ shadows (.connect credentials) (by simp)
    (fun session now => session.connect now credentials)
    (by simp only [Session.connect, admitted, if_true]; rfl) rfl
  have reached := @Shadows.act_of_closed config bench.clock _ _ asked
    (.radioEvent (.connected credentials.token.sorcId)) (by simp)
    (fun session now => session.radioEvent now (.connected credentials.token.sorcId)) rfl rfl
  refine ⟨handset, ?_⟩
  rw [attempt, shares.sorcId]
  exact reached

theorem Joins.joined (joins : Joins config credentials profile bench reached)
    (shares : profile.Shares credentials.token) :
    profile.Honest credentials.token ∧
      ∃ later, profile.Remains later ∧ Joined config credentials later reached := by
  obtain ⟨handset, shadows⟩ := joins.dialled shares
  obtain ⟨changes, exchanges, last, path, told, comesOut⟩ :=
    attempt_resolves handset config.defaultMtu.toNat shares
  obtain ⟨others, final, followed, shadows⟩ := shadows.exchanges path told
  have parked : last.radio.parked = [] := by
    rcases comesOut with ⟨_, parked⟩ | ⟨_, _, _, _, _, _, stands⟩
    · exact parked
    · rw [stands.radio_eq]
      rfl
  have still : final.radio.parked = [] := shadows.radio.parked.trans parked
  obtain ⟨limit, pumped⟩ := joins.pumped
  have settled : (bench.dial credentials).settle limit = (_, reached) := Prod.ext rfl pumped.symm
  obtain rfl := (Exchanges.of_settle settled).unique joins.quiet followed still
  have agrees : final.layer.state = last.layer.state :=
    shadows.attends.settled.agrees.trans (congrArg Channel.state shadows.channel)
  rcases comesOut with ⟨closed, _⟩ | ⟨honest, nonces, key, later, received, remains, stands⟩
  · have connected := joins.connected
    rw [agrees, closed] at connected
    cases connected
  · have limits : later.mtu = profile.mtu := by
      rcases remains with rfl | rfl <;> rfl
    refine ⟨honest, later, remains, ⟨?_, ?_, joins.quiet, nonces, .new key .toSorc, .new key .toPhone,
      final.radio.sorc.received, ?_, ?_, .fresh key⟩, shadows.clock ▸ shadows.attends⟩
    · rw [agrees, stands.layer_eq]
      rfl
    · rw [shadows.radio.failsWrites, stands.radio_eq]
      rfl
    · rw [limits, shadows.channel, stands.layer_eq]
    · rw [shadows.radio.sorc, stands.radio_eq]

end Bench

end PhoneKey
