import PhoneKey.Proofs.Session.Progress
import PhoneKey.Proofs.Simulation.Prospect
import PhoneKey.Simulation.Radio

/-! # A phone and a peer with a radio between them

The radio takes every write to the peer once and in order, confirms every write once, and brings the peer's
notifications to the phone once and in order. When it does which is left open: anything that is on its way
may come next, as may a command or the passing of time. Hanging up drops whatever is on its way.
-/

namespace PhoneKey

structure World where
  session : Session
  radio : Radio
  /-- The nonces that the peer is going to draw. -/
  nonces : Nonces
  /-- Accepted writes that are not confirmed yet. -/
  unconfirmed : Nat
  /-- Notifications on their way to the phone, oldest first. -/
  inbox : List Bytes
  /-- Everything that the phone did. -/
  journal : List Effect

namespace World

/-- What can happen next. -/
inductive Event where
  | connect
  /-- The radio reports that the peer is there. -/
  | reach
  | disconnect
  | requestGrant (grant : UInt16)
  | tick
  /-- The oldest write comes to the peer, whose answers are then on their way. -/
  | deliver
  | confirm
  /-- The oldest notification comes to the phone. -/
  | notify
deriving DecidableEq, Repr, Inhabited

structure Input where
  now : Nat
  event : Event
deriving DecidableEq, Repr, Inhabited

/-- A phone that was just built and a peer of a profile. -/
def fresh (handset : Handset) (defaultMtu : Nat) (config : Config) (profile : SorcProfile)
    (nonces : Nonces) : World :=
  ⟨.fresh handset defaultMtu config, .new (.new profile), nonces, 0, [], []⟩

/-- Lets one effect of the phone happen. -/
def perform (world : World) (effect : Effect) : World :=
  let noted := { world with journal := world.journal ++ [effect] }
  match effect with
  | .radio (.write frame true) =>
    { noted with radio := noted.radio.apply (.write frame true), unconfirmed := noted.unconfirmed + 1 }
  | .radio .disconnect =>
    { noted with radio := noted.radio.apply .disconnect, unconfirmed := 0, inbox := [] }
  | .radio call => { noted with radio := noted.radio.apply call }
  | _ => noted

/-- The phone has taken a turn. -/
def take (world : World) (turn : SessionTurn) : World :=
  turn.effects.foldl perform { world with session := turn.state }

/-- Something happens; what is not on its way does not. -/
def act (credentials : Credentials) (world : World) (input : Input) : World :=
  match input.event with
  | .connect => world.take (world.session.act ⟨input.now, .connect credentials⟩)
  | .reach =>
    world.take (world.session.act ⟨input.now, .radioEvent (.connected credentials.token.sorcId)⟩)
  | .disconnect => world.take (world.session.act ⟨input.now, .disconnect⟩)
  | .requestGrant grant => world.take (world.session.act ⟨input.now, .requestGrant grant⟩)
  | .tick => world.take (world.session.act ⟨input.now, .tick⟩)
  | .deliver =>
    match world.radio.parked with
    | [] => world
    | written :: rest =>
      let (replies, sorc, nonces) := world.radio.sorc.receive world.nonces written
      { world with radio := { world.radio with sorc, parked := rest }, nonces, inbox := world.inbox ++ replies }
  | .confirm =>
    match world.unconfirmed with
    | 0 => world
    | unconfirmed + 1 =>
      take { world with unconfirmed } (world.session.act ⟨input.now, .confirm (.ok ())⟩)
  | .notify =>
    match world.inbox with
    | [] => world
    | raw :: rest => take { world with inbox := rest } (world.session.act ⟨input.now, .receive (.ok raw)⟩)

/-- The world after a schedule of events. -/
def run (credentials : Credentials) (world : World) (schedule : List Input) : World :=
  schedule.foldl (act credentials) world

/-- Nothing is on its way. -/
structure Quiet (world : World) : Prop where
  parked : world.radio.parked = []
  inbox : world.inbox = []
  unconfirmed : world.unconfirmed = 0

/-- The oldest notification completes a message while the phone still counts one of its own as under way.
The answer to the question for the limit is expected to do so. -/
def overtakes (world : World) : Bool :=
  !world.session.channel.link.isSettling && world.session.channel.link.line.sending.isSome &&
    match world.inbox with
    | [] => false
    | raw :: _ =>
      match Frame.ofBytes raw with
      | .ok frame => frame.type.closes
      | .error _ => false

/-- A schedule whose every event is allowed in the world that it finds. -/
def Respects (allows : World → Event → Prop) (credentials : Credentials) (world : World) :
    List Input → Prop
  | [] => True
  | input :: rest =>
    allows world input.event ∧ Respects allows credentials (world.act credentials input) rest

instance decidableRespects (allows : World → Event → Prop)
    [decidable : ∀ world event, Decidable (allows world event)] (credentials : Credentials) (world : World) :
    (schedule : List Input) → Decidable (world.Respects allows credentials schedule)
  | [] => .isTrue trivial
  | input :: rest =>
    have := decidableRespects allows credentials (world.act credentials input) rest
    inferInstanceAs (Decidable (_ ∧ _))

/-- No answer overtakes. -/
def Punctual (world : World) (event : Event) : Prop := event = .notify → world.overtakes = false

/-- Every write is confirmed before a notification comes. -/
def ConfirmedFirst (world : World) (event : Event) : Prop := event = .notify → world.unconfirmed = 0

instance (world : World) (event : Event) : Decidable (world.Punctual event) :=
  inferInstanceAs (Decidable (_ → _))

/-- Frames that the phone has written or is going to write for the message under way. -/
def backlog (world : World) : List Bytes :=
  world.radio.parked ++ world.session.channel.link.line.unwritten

/-- How many confirmations the frames of the message under way and the writes before them still need. -/
def owed (world : World) : Nat := world.session.channel.link.line.unwritten.length + world.unconfirmed

/-- What comes of everything that is on its way to the peer. -/
def prospect (world : World) : Prospect :=
  Prospect.takeAll ⟨world.inbox, world.radio.sorc, world.nonces⟩ world.backlog

/-- What became of the grants since the connection came up. -/
def account (world : World) : Account := Account.empty.after world.journal

section

variable (world : World) {turn : SessionTurn}

private theorem journal_foldl (effects : List Effect) :
    (effects.foldl perform world).journal = world.journal ++ effects := by
  induction effects generalizing world with
  | nil => simp
  | cons effect rest ih =>
    have noted : (world.perform effect).journal = world.journal ++ [effect] := by
      unfold perform
      split <;> rfl
    rw [List.foldl_cons, ih, noted, List.append_assoc, List.singleton_append]

/-- Everything that the phone does is noted. -/
theorem journal_take : (world.take turn).journal = world.journal ++ turn.effects := journal_foldl _ _

/-- What is on its way after a turn that keeps the connection. -/
structure Follows (world : World) (effects : List Effect) (next : World) : Prop where
  sorc : next.radio.sorc = world.radio.sorc
  parked : next.radio.parked = world.radio.parked ++ effects.filterMap Effect.written?
  nonces : next.nonces = world.nonces
  unconfirmed : next.unconfirmed = world.unconfirmed + (effects.filterMap Effect.written?).length
  inbox : next.inbox = world.inbox
  session : next.session = world.session

private theorem follows_perform {effect : Effect} (stays : effect ≠ .radio .disconnect) :
    world.Follows [effect] (world.perform effect) := by
  cases effect with
  | radio call =>
    cases call with
    | connect sorcId => exact ⟨rfl, by simp [perform, Radio.apply, Effect.written?], rfl, rfl, rfl, rfl⟩
    | disconnect => exact absurd rfl stays
    | write frame accepted =>
      cases accepted with
      | true => exact ⟨rfl, rfl, rfl, rfl, rfl, rfl⟩
      | false => exact ⟨rfl, by simp [perform, Radio.apply, Effect.written?], rfl, rfl, rfl, rfl⟩
    | scan on => exact ⟨rfl, by simp [perform, Radio.apply, Effect.written?], rfl, rfl, rfl, rfl⟩
  | announce news => exact ⟨rfl, by simp [perform, Effect.written?], rfl, rfl, rfl, rfl⟩
  | telemetry event => exact ⟨rfl, by simp [perform, Effect.written?], rfl, rfl, rfl, rfl⟩
  | attempt request state outstanding =>
    exact ⟨rfl, by simp [perform, Effect.written?], rfl, rfl, rfl, rfl⟩

/-- Writes are parked and have to be confirmed; nothing else on its way changes. -/
theorem follows_foldl {effects : List Effect} (stays : .radio .disconnect ∉ effects) :
    world.Follows effects (effects.foldl perform world) := by
  induction effects generalizing world with
  | nil => exact ⟨rfl, by simp, rfl, rfl, rfl, rfl⟩
  | cons effect rest ih =>
    simp only [List.mem_cons, not_or] at stays
    have first := follows_perform world (Ne.symm stays.1)
    have others := ih (world.perform effect) stays.2
    have split : (effect :: rest).filterMap Effect.written? =
        [effect].filterMap Effect.written? ++ rest.filterMap Effect.written? := by
      rw [← List.filterMap_append, List.singleton_append]
    rw [List.foldl_cons]
    refine ⟨others.sorc.trans first.sorc, ?_, others.nonces.trans first.nonces, ?_,
      others.inbox.trans first.inbox, others.session.trans first.session⟩
    · rw [others.parked, first.parked, split, List.append_assoc]
    · rw [others.unconfirmed, first.unconfirmed, split, List.length_append, Nat.add_assoc]

theorem follows_take (stays : .radio .disconnect ∉ turn.effects) :
    Follows { world with session := turn.state } turn.effects (world.take turn) := follows_foldl _ stays

/-- A turn that begins by hanging up leaves nothing on its way. -/
theorem take_hangUp {rest : List Effect} (hangsUp : turn.effects = .radio .disconnect :: rest)
    (stays : .radio .disconnect ∉ rest) (silent : rest.filterMap Effect.written? = []) :
    (world.take turn).Quiet ∧ (world.take turn).session = turn.state ∧
      (world.take turn).radio.sorc = world.radio.sorc.forgetLink := by
  have others := follows_foldl (perform { world with session := turn.state } (.radio .disconnect)) stays
  rw [take, hangsUp, List.foldl_cons]
  refine ⟨⟨?_, others.inbox, ?_⟩, others.session, others.sorc⟩
  · rw [others.parked, silent, List.append_nil]
    rfl
  · rw [others.unconfirmed, silent]
    rfl

/-- What the peer will make of the writes does not depend on when they come to it. -/
theorem prospect_deliver (credentials : Credentials) (now : Nat) :
    (world.act credentials ⟨now, .deliver⟩).prospect = world.prospect := by
  cases parked : world.radio.parked with
  | nil => simp only [act, parked]
  | cons written rest =>
    have whole : world.backlog = written :: (rest ++ world.session.channel.link.line.unwritten) := by
      rw [backlog, parked, List.cons_append]
    rw [prospect, prospect, whole]
    simp only [act, parked]
    rfl

/-- What a smooth turn launches has to be taken to the peer behind the others. -/
theorem backlog_take {answer : UInt16 → GrantResponse} {launched : List Bytes}
    (smooth : world.session.Smooth answer turn launched) :
    (world.take turn).backlog = world.backlog ++ launched := by
  have follows : Follows { world with session := turn.state } turn.effects (world.take turn) :=
    follows_take world smooth.stays
  rw [backlog, follows.parked, follows.session, List.append_assoc, smooth.writes, ← List.append_assoc]
  rfl

/-- Every frame that is launched has to be written and confirmed. -/
theorem owed_take {answer : UInt16 → GrantResponse} {launched : List Bytes}
    (smooth : world.session.Smooth answer turn launched) :
    (world.take turn).owed = world.owed + launched.length := by
  have follows : Follows { world with session := turn.state } turn.effects (world.take turn) :=
    follows_take world smooth.stays
  have lengths := congrArg List.length smooth.writes
  simp only [List.length_append] at lengths
  rw [owed, follows.session, follows.unconfirmed, owed]
  dsimp only
  omega

/-- A message that a smooth turn launches goes to the peer behind the others. -/
theorem prospect_take {answer : UInt16 → GrantResponse} {launched : List Bytes}
    (smooth : world.session.Smooth answer turn launched) :
    (world.take turn).prospect = world.prospect.takeAll launched := by
  have follows : Follows { world with session := turn.state } turn.effects (world.take turn) :=
    follows_take world smooth.stays
  rw [prospect, backlog_take world smooth, Prospect.takeAll_append, follows.inbox, follows.sorc, follows.nonces]
  rfl

variable {world}

/-- Taking the oldest notification away takes it away from the prospect. -/
theorem frames_prospect {raw : Bytes} {rest : List Bytes} (waiting : world.inbox = raw :: rest) :
    world.prospect = (prospect { world with inbox := rest }).behind [raw] := by
  have other : (prospect { world with inbox := rest }) =
      Prospect.takeAll ⟨rest, world.radio.sorc, world.nonces⟩ world.backlog := rfl
  rw [other, ← Prospect.takeAll_behind, prospect, waiting]
  rfl

/-- Nothing is to come of a quiet world whose phone has written everything. -/
theorem prospect_of_quiet (quiet : world.Quiet) (written : world.session.channel.link.line.unwritten = []) :
    world.prospect = ⟨[], world.radio.sorc, world.nonces⟩ := by
  rw [prospect, backlog, quiet.parked, quiet.inbox, written]
  rfl

end

end World

end PhoneKey
