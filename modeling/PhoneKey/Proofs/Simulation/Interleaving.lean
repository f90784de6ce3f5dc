import Mathlib.Data.Prod.Lex
import PhoneKey.Proofs.Simulation.Commands
import PhoneKey.Proofs.Simulation.Handshake
import PhoneKey.Proofs.Simulation.Overtaking
import PhoneKey.Proofs.Simulation.World

/-! # Interleavings of phone, radio and peer

However writes, confirmations and notifications interleave, commands between them, phone and peer go through
the stages of a connection as long as no answer overtakes the confirmation of the message that it answers. No
attempt and no request fails then, and once the radio has done everything that it can do the handshake is over
and every grant is answered.
-/

namespace PhoneKey

/-- Whatever the peer takes, its profile changes only by a blob that arrives. -/
theorem Prospect.remains_takeAll (prospect : Prospect) (raws : List Bytes) :
    prospect.peer.profile.Remains (prospect.takeAll raws).peer.profile := by
  induction raws generalizing prospect with
  | nil => exact .refl _
  | cons raw rest ih =>
    exact (Sorc.remains_receive prospect.peer prospect.nonces raw).trans (ih (prospect.take raw))

namespace World

/-- What holds of a world between two events, whatever the stage of its connection. -/
structure Sound (defaultMtu : Nat) (profile : SorcProfile) (world : World) : Prop where
  settled : Session.Settled defaultMtu world.session
  rested : world.session.Rested
  accurate : world.session.Accurate
  remains : profile.Remains world.radio.sorc.profile
  unfailing : ∀ effect ∈ world.journal, effect.isFailure = false
  accounts : world.account.Fits profile.response world.session.openGrants

/-- A sound world at a stage of its connection. -/
structure Standing (defaultMtu : Nat) (credentials : Credentials) (profile : SorcProfile) (rank : Nat)
    (world : World) : Prop where
  sound : world.Sound defaultMtu profile
  stage : Stage defaultMtu credentials profile rank world.session world.prospect.frames world.prospect.peer
  /-- A message that is under way goes on with a confirmation to come. -/
  confirming : world.session.channel.link.line.sending.isSome = true → 0 < world.unconfirmed

/-- An event of the radio that may come next. -/
def Enables (world : World) : Event → Prop
  | .deliver => world.radio.parked ≠ []
  | .confirm => world.unconfirmed ≠ 0
  | .notify => world.inbox ≠ [] ∧ world.overtakes = false
  | _ => False

/-- Left to itself the radio comes to an end in whatever order it goes on, and has reached the goal then. -/
inductive Inevitably (credentials : Credentials) (goal : World → Prop) : World → Prop
  | done {world : World} (quiet : world.Quiet) (reached : goal world) : Inevitably credentials goal world
  | later {world : World} (possible : ∃ event, world.Enables event)
      (next : ∀ now event, world.Enables event →
        Inevitably credentials goal (world.act credentials ⟨now, event⟩)) :
      Inevitably credentials goal world

/-- How much the radio has left to do: messages that the phone may still launch, then frames on their way to
the peer, confirmations, and notifications. -/
def effort (world : World) (rank : Nat) : ℕ ×ₗ ℕ ×ₗ ℕ ×ₗ ℕ :=
  toLex (rank, toLex (world.backlog.length, toLex (world.owed, world.inbox.length)))

section

variable {world next : World} {rank after : Nat}

private theorem effort_lt_of_rank (less : after < rank) : next.effort after < world.effort rank :=
  Prod.Lex.toLex_lt_toLex.mpr (.inl less)

private theorem effort_lt_of_backlog (less : next.backlog.length < world.backlog.length) :
    next.effort rank < world.effort rank :=
  Prod.Lex.toLex_lt_toLex.mpr (.inr ⟨rfl, Prod.Lex.toLex_lt_toLex.mpr (.inl less)⟩)

private theorem effort_lt_of_owed (backlog : next.backlog = world.backlog) (less : next.owed < world.owed) :
    next.effort rank < world.effort rank := by
  refine Prod.Lex.toLex_lt_toLex.mpr (.inr ⟨rfl, Prod.Lex.toLex_lt_toLex.mpr (.inr ⟨?_, ?_⟩)⟩)
  · exact congrArg List.length backlog
  · exact Prod.Lex.toLex_lt_toLex.mpr (.inl less)

private theorem effort_lt_of_inbox (backlog : next.backlog = world.backlog) (owed : next.owed = world.owed)
    (less : next.inbox.length < world.inbox.length) : next.effort rank < world.effort rank := by
  refine Prod.Lex.toLex_lt_toLex.mpr (.inr ⟨rfl, Prod.Lex.toLex_lt_toLex.mpr (.inr ⟨?_, ?_⟩)⟩)
  · exact congrArg List.length backlog
  · exact Prod.Lex.toLex_lt_toLex.mpr (.inr ⟨owed, less⟩)

end

section

variable {defaultMtu rank after : Nat} {credentials : Credentials} {profile : SorcProfile} {world : World}
  {input : Session.Input} {launched : List Bytes}

private theorem Sound.remains_prospect (sound : world.Sound defaultMtu profile) :
    profile.Remains world.prospect.peer.profile :=
  sound.remains.trans (Prospect.remains_takeAll ⟨world.inbox, world.radio.sorc, world.nonces⟩ _)

/-- A world stays sound when its session takes a turn without a failure. -/
theorem Sound.act (sound : world.Sound defaultMtu profile) (orderly : ¬ world.session.Strays input)
    {next : World} (session : next.session = (world.session.act input).state)
    (same : next.radio.sorc.profile = world.radio.sorc.profile)
    (journal : next.journal = world.journal ++ (world.session.act input).effects)
    (unfailing : ∀ effect ∈ (world.session.act input).effects, effect.isFailure = false)
    (accounts : ∀ account : Account, account.Fits profile.response world.session.openGrants →
      (account.after (world.session.act input).effects).Fits profile.response
        (world.session.act input).state.openGrants) :
    next.Sound defaultMtu profile where
  settled := session ▸ sound.settled.act input
  rested := session ▸ Session.act_rested sound.settled sound.rested input
  accurate := session ▸
    (Session.accurate_act_iff sound.settled sound.rested sound.accurate input).mpr orderly
  remains := same ▸ sound.remains
  unfailing := by
    rw [journal]
    exact List.forall_mem_append.mpr ⟨sound.unfailing, unfailing⟩
  accounts := by
    rw [account, journal, Account.after_append, session]
    exact accounts _ sound.accounts

/-- A turn that goes on leads from one stage to the next. -/
theorem standing_take (sound : world.Sound defaultMtu profile) (orderly : ¬ world.session.Strays input)
    (leads : Leads defaultMtu credentials profile world.session (world.session.act input) world.prospect
      launched rank)
    (confirming : (world.session.act input).state.channel.link.line.sending.isSome = true →
      (world.session.act input).effects.filterMap Effect.written? ≠ [] ∨ 0 < world.unconfirmed) :
    Standing defaultMtu credentials profile rank (world.take (world.session.act input)) := by
  have follows : Follows { world with session := (world.session.act input).state }
    (world.session.act input).effects (world.take (world.session.act input)) :=
    follows_take world leads.smooth.stays
  have moved := prospect_take world leads.smooth
  refine ⟨sound.act orderly follows.session (congrArg Sorc.profile follows.sorc) (journal_take world)
    leads.smooth.unfailing leads.smooth.accounts, ?_, ?_⟩
  · rw [follows.session, moved]
    exact leads.stage
  · rw [follows.session, follows.unconfirmed]
    intro waiting
    rcases confirming waiting with written | before
    · have some := List.length_pos_iff.mpr written
      omega
    · exact Nat.add_pos_left before _

/-- A turn that hangs up leads back to the start. -/
theorem standing_hangUp (sound : world.Sound defaultMtu profile) (orderly : ¬ world.session.Strays input)
    (ends : HangsUp defaultMtu profile.response (world.session.act input)) :
    Standing defaultMtu credentials profile 0 (world.take (world.session.act input)) := by
  obtain ⟨nonces, rests⟩ := ends.rests
  obtain ⟨rest, hangsUp, stays, silent⟩ := ends.hangsUp
  obtain ⟨quiet, session, sorc⟩ := take_hangUp world hangsUp stays silent
  have written : (world.take (world.session.act input)).session.channel.link.line.unwritten = [] := by
    rw [session, rests]
    rfl
  have same : (world.take (world.session.act input)).radio.sorc.profile = world.radio.sorc.profile := by
    rw [sorc]
    rfl
  refine ⟨sound.act orderly session same (journal_take world) ends.unfailing
    (fun account _ => ends.accounts account), ?_, ?_⟩
  · rw [prospect_of_quiet quiet written, session, sorc]
    exact .rest rests ⟨rfl, rfl⟩
  · rw [session, rests]
    intro waiting
    cases waiting

/-- Only a notification can bring an answer that strays. -/
theorem orderly_of_other (unheard : ∀ result, input.action ≠ .receive result) :
    ¬ world.session.Strays input := by
  rintro ⟨brought, _⟩
  obtain ⟨now, action⟩ := input
  cases action with
  | receive result => exact unheard result rfl
  | _ => simp [Session.answer?] at brought

private theorem Standing.goesOn (standing : Standing defaultMtu credentials profile rank world)
    (input : Session.Input) (unheard : ∀ result, input.action ≠ .receive result)
    (leads : Leads defaultMtu credentials profile world.session (world.session.act input) world.prospect
      launched after) :
    Standing defaultMtu credentials profile after (world.take (world.session.act input)) := by
  refine standing_take standing.sound (orderly_of_other unheard) leads ?_
  intro waiting
  exact (leads.smooth.waits waiting).imp_right standing.confirming

private theorem Standing.obeys (standing : Standing defaultMtu credentials profile rank world)
    (input : Session.Input) (unheard : ∀ result, input.action ≠ .receive result)
    (obeys : Obeys defaultMtu credentials profile world.session (world.session.act input) world.prospect) :
    ∃ after, Standing defaultMtu credentials profile after (world.take (world.session.act input)) := by
  cases obeys with
  | goesOn leads => exact ⟨_, standing.goesOn input unheard leads⟩
  | hangsUp ends => exact ⟨0, standing_hangUp standing.sound (orderly_of_other unheard) ends⟩

private theorem accepted_take (world : World) {turn : SessionTurn} (keeps : Account.Keeps turn.effects) :
    (world.take turn).account.accepted = world.account.accepted := by
  rw [account, journal_take, Account.after_append, keeps]
  rfl

/-- What an event of the radio leads to: the connection gets on by itself, and less is left to do. -/
structure Proceeds (defaultMtu : Nat) (credentials : Credentials) (profile : SorcProfile) (rank : Nat)
    (world next : World) : Prop where
  standing : ∃ after, Standing defaultMtu credentials profile after next ∧
    next.effort after < world.effort rank
  getsOn : world.session.state.GetsOn next.session.state
  accepted : next.account.accepted = world.account.accepted

private theorem proceeds_deliver (now : Nat) (standing : Standing defaultMtu credentials profile rank world)
    (enabled : world.radio.parked ≠ []) :
    Proceeds defaultMtu credentials profile rank world (world.act credentials ⟨now, .deliver⟩) := by
  have same : (world.act credentials ⟨now, .deliver⟩).prospect = world.prospect :=
    prospect_deliver world credentials now
  cases parked : world.radio.parked with
  | nil => exact absurd parked enabled
  | cons written rest =>
    simp only [act, parked] at same ⊢
    have remains := standing.sound.remains.trans
      (Sorc.remains_receive world.radio.sorc world.nonces written)
    refine ⟨⟨rank, ⟨{ standing.sound with remains }, ?_, standing.confirming⟩, ?_⟩, .refl _, rfl⟩
    · rw [same]
      exact standing.stage
    · exact effort_lt_of_backlog (by simp [backlog, parked])

private theorem proceeds_confirm (now : Nat) (standing : Standing defaultMtu credentials profile rank world)
    (enabled : world.unconfirmed ≠ 0) :
    Proceeds defaultMtu credentials profile rank world (world.act credentials ⟨now, .confirm⟩) := by
  cases waiting : world.unconfirmed with
  | zero => exact absurd waiting enabled
  | succ unconfirmed =>
    simp only [act, waiting]
    let confirmed : World := { world with unconfirmed }
    have confirms := standing.stage.confirm now world.prospect.nonces standing.sound.settled
    have sound : confirmed.Sound defaultMtu profile := { standing.sound with }
    have next : Standing defaultMtu credentials profile rank
        (confirmed.take (world.session.act ⟨now, .confirm (.ok ())⟩)) :=
      standing_take sound (orderly_of_other (by simp)) confirms.leads (fun busy => .inl (confirms.waits busy))
    have behind := (backlog_take confirmed confirms.leads.smooth).trans (List.append_nil _)
    have owed := owed_take confirmed confirms.leads.smooth
    have less : confirmed.owed < world.owed := by simp [World.owed, confirmed, waiting]
    have follows : Follows { confirmed with session := _ } _ _ :=
      follows_take confirmed confirms.leads.smooth.stays
    exact ⟨⟨rank, next, effort_lt_of_owed behind (owed ▸ less)⟩, follows.session ▸ confirms.getsOn,
      accepted_take confirmed confirms.keeps⟩

/-- Unless an answer overtakes, the phone's own message is no longer under way when an answer is complete. -/
theorem free_of_punctual {raw : Bytes} {rest : List Bytes} (waiting : world.inbox = raw :: rest)
    (punctual : world.overtakes = false) (closes : Frame.Closes raw) :
    world.session.channel.link.isSettling = true ∨ world.session.channel.link.line.sending = none := by
  obtain ⟨frame, read, last⟩ := closes
  cases settling : world.session.channel.link.isSettling with
  | true => exact .inl rfl
  | false =>
    refine .inr ?_
    simpa [overtakes, waiting, settling, read, last] using punctual

/-- What it takes to overtake. -/
theorem exists_of_overtakes (overtakes : world.overtakes = true) :
    ∃ raw rest package, world.inbox = raw :: rest ∧
      world.session.channel.link.line.sending = some package ∧ Frame.Closes raw := by
  rw [World.overtakes, Bool.and_eq_true, Bool.and_eq_true] at overtakes
  obtain ⟨⟨_, busy⟩, last⟩ := overtakes
  obtain ⟨package, sending⟩ := Option.isSome_iff_exists.mp busy
  cases waiting : world.inbox with
  | nil => simp [waiting] at last
  | cons raw rest =>
    refine ⟨raw, rest, package, rfl, sending, ?_⟩
    cases read : Frame.ofBytes raw with
    | error cause => simp [waiting, read] at last
    | ok frame => exact ⟨frame, read, by simpa [waiting, read] using last⟩

private theorem proceeds_notify (now : Nat) (serves : profile.Serves credentials)
    (standing : Standing defaultMtu credentials profile rank world) (enabled : world.inbox ≠ [])
    (punctual : world.overtakes = false) :
    Proceeds defaultMtu credentials profile rank world (world.act credentials ⟨now, .notify⟩) := by
  cases waiting : world.inbox with
  | nil => exact absurd waiting enabled
  | cons raw rest =>
    simp only [act, waiting]
    let taken : World := { world with inbox := rest }
    have ahead : world.prospect = taken.prospect.behind [raw] := frames_prospect waiting
    have stage := standing.stage
    have remains := standing.sound.remains_prospect
    rw [ahead] at stage remains
    obtain ⟨launched, after, hears⟩ := stage.receive now taken.prospect.nonces serves remains
      standing.sound.settled standing.sound.accurate (free_of_punctual waiting punctual)
    have sound : taken.Sound defaultMtu profile := { standing.sound with }
    have next : Standing defaultMtu credentials profile after
        (taken.take (world.session.act ⟨now, .receive (.ok raw)⟩)) := by
      refine standing_take sound (stage.orderly now standing.sound.settled) hears.leads ?_
      intro busy
      exact (hears.leads.smooth.waits busy).imp_right standing.confirming
    have follows : Follows { taken with session := _ } _ _ :=
      follows_take taken hears.leads.smooth.stays
    refine ⟨⟨after, next, ?_⟩, follows.session ▸ hears.getsOn, accepted_take taken hears.keeps⟩
    by_cases silent : launched = []
    · subst silent
      rcases Nat.lt_or_eq_of_le hears.bounded with less | rfl
      · exact effort_lt_of_rank less
      · have behind := (backlog_take taken hears.leads.smooth).trans (List.append_nil _)
        have owed := owed_take taken hears.leads.smooth
        have shorter : (taken.take (world.session.receive now (.ok raw))).inbox.length <
            world.inbox.length := by
          rw [follows.inbox, waiting]
          exact Nat.lt_succ_self rest.length
        exact effort_lt_of_inbox behind owed shorter
    · exact effort_lt_of_rank (hears.spends silent)

private theorem Standing.proceeds (standing : Standing defaultMtu credentials profile rank world) (now : Nat)
    (serves : profile.Serves credentials) {event : Event} (enabled : world.Enables event) :
    Proceeds defaultMtu credentials profile rank world (world.act credentials ⟨now, event⟩) := by
  cases event with
  | deliver => exact proceeds_deliver now standing enabled
  | confirm => exact proceeds_confirm now standing enabled
  | notify => exact proceeds_notify now serves standing enabled.1 enabled.2
  | _ => exact enabled.elim

/-- Whatever happens leads from one stage to another, unless an answer overtakes. -/
theorem Standing.act (standing : Standing defaultMtu credentials profile rank world)
    (room : Frame.headerSize < defaultMtu) (serves : profile.Serves credentials) (input : Input)
    (punctual : world.Punctual input.event) :
    ∃ after, Standing defaultMtu credentials profile after (world.act credentials input) := by
  obtain ⟨now, event⟩ := input
  have remains := standing.sound.remains_prospect
  have settled := standing.sound.settled
  cases event with
  | connect =>
    obtain ⟨after, leads⟩ := standing.stage.connect now world.prospect.nonces settled
    exact ⟨after, standing.goesOn ⟨now, .connect credentials⟩ (by simp) leads⟩
  | reach =>
    obtain ⟨launched, after, leads⟩ := standing.stage.reach now world.prospect.nonces room serves remains
    exact ⟨after, standing.goesOn ⟨now, .radioEvent _⟩ (by simp) leads⟩
  | disconnect =>
    have obeys := standing.stage.disconnect now world.prospect.nonces settled
    exact standing.obeys ⟨now, .disconnect⟩ (by simp) obeys
  | requestGrant grant =>
    obtain ⟨launched, after, leads⟩ :=
      standing.stage.requestGrant world.prospect.nonces grant serves remains settled
    exact ⟨after, standing.goesOn ⟨now, .requestGrant grant⟩ (by simp) leads⟩
  | tick =>
    have obeys := standing.stage.tick now world.prospect.nonces serves remains settled
    exact standing.obeys ⟨now, .tick⟩ (by simp) obeys
  | deliver =>
    by_cases enabled : world.radio.parked = []
    · simp only [World.act, enabled]
      exact ⟨rank, standing⟩
    · obtain ⟨after, next, _⟩ := (proceeds_deliver now standing enabled).standing
      exact ⟨after, next⟩
  | confirm =>
    by_cases enabled : world.unconfirmed = 0
    · simp only [World.act, enabled]
      exact ⟨rank, standing⟩
    · obtain ⟨after, next, _⟩ := (proceeds_confirm now standing enabled).standing
      exact ⟨after, next⟩
  | notify =>
    by_cases enabled : world.inbox = []
    · simp only [World.act, enabled]
      exact ⟨rank, standing⟩
    · obtain ⟨after, next, _⟩ := (proceeds_notify now serves standing enabled (punctual rfl)).standing
      exact ⟨after, next⟩

end

/-- How a connection stands once nothing is on its way. -/
inductive Resolved (credentials : Credentials) (profile : SorcProfile) (world : World) : Prop
  | apart (state : world.session.state = .disconnected)
  /-- The radio has not reached the peer yet. -/
  | dialling (state : world.session.state = .connecting credentials.token.sorcId .physical)
  /-- The peer wants a blob that is newer than the phone's. -/
  | waiting (state : world.session.state = .connecting credentials.token.sorcId .challenging)
      (outdated : profile.Outdates credentials.blob.counter)
  /-- Phone and peer share a session, and every grant is answered. -/
  | serving {ours theirs : SealingContext}
      (state : world.session.state = .connected credentials.token.sorcId)
      (protection : world.session.channel.protection = .sealed ours)
      (session : world.radio.sorc.session = some theirs) (inStep : ours.InStep theirs)
      (free : world.session.outstanding = none) (queue : world.session.queue.items = [])
      (answered : world.account.answered = world.account.accepted.map profile.response)

section

variable {defaultMtu rank : Nat} {credentials : Credentials} {profile : SorcProfile} {world : World}

/-- Once nothing is on its way the phone waits for nothing. -/
theorem Standing.resolved (standing : Standing defaultMtu credentials profile rank world)
    (quiet : world.Quiet) : world.Resolved credentials profile := by
  have free : world.session.channel.link.line.sending = none := by
    by_contra busy
    have waits := standing.confirming (Option.isSome_iff_ne_none.mpr busy)
    rw [quiet.unconfirmed] at waits
    exact absurd waits (Nat.lt_irrefl 0)
  have written : world.session.channel.link.line.unwritten = [] := by rw [Line.unwritten, free]
  have agrees := standing.sound.settled.agrees
  have stage := standing.stage
  rw [prospect_of_quiet quiet written] at stage
  generalize none : ([] : List Bytes) = frames at stage
  cases stage with
  | rest channel listens => exact .apart (by rw [agrees, channel]; rfl)
  | dialling channel listens => exact .dialling (by rw [agrees, channel]; rfl)
  | settling channel brief awaits listens => exact absurd none.symm awaits.ne_nil
  | proving channel vacant awaits answers listens => exact absurd none.symm awaits.ne_nil
  | waiting channel outdated listens => exact .waiting (by rw [agrees, channel]; rfl) outdated
  | sealing channel listens => simp [channel, Channel.proving] at free
  | asking channel waiting queued awaits opens listens inStep => exact absurd none.symm awaits.ne_nil
  | idle channel unasked listens inStep =>
    have queue := standing.sound.rested unasked
    have settled : world.session.openGrants = [] := by
      rw [standing.sound.accurate, Session.pendingGrants, unasked, queue]
      rfl
    refine .serving ?_ ?_ listens.session inStep unasked queue ?_
    · rw [agrees, channel]
      rfl
    · rw [channel]
      rfl
    · rw [standing.sound.accounts.accepted, settled, List.append_nil, List.map_map]
      refine (List.map_id _).symm.trans (List.map_congr_left ?_)
      intro response member
      exact standing.sound.accounts.answered response member

/-- An answer does not overtake if every write is confirmed before it comes. -/
theorem Standing.punctual (standing : Standing defaultMtu credentials profile rank world) {event : Event}
    (confirmed : world.ConfirmedFirst event) : world.Punctual event := by
  intro notified
  cases waiting : world.session.channel.link.line.sending.isSome with
  | true => exact absurd (confirmed notified) (Nat.ne_of_gt (standing.confirming waiting))
  | false => simp [overtakes, waiting]

/-- While anything is on its way, something can come next without overtaking. -/
theorem Standing.possible (standing : Standing defaultMtu credentials profile rank world)
    (busy : ¬ world.Quiet) : ∃ event, world.Enables event := by
  by_cases parked : world.radio.parked = []
  · by_cases unconfirmed : world.unconfirmed = 0
    · have punctual : world.Punctual .notify := standing.punctual fun _ => unconfirmed
      exact ⟨.notify, fun inbox => busy ⟨parked, inbox, unconfirmed⟩, punctual rfl⟩
    · exact ⟨.confirm, unconfirmed⟩
  · exact ⟨.deliver, parked⟩

/-- In whatever order the radio goes on, it comes to an end where the connection is resolved. -/
theorem Standing.inevitably (standing : Standing defaultMtu credentials profile rank world)
    (serves : profile.Serves credentials) {start : SessionState} {accepted : List UInt16}
    (getsOn : start.GetsOn world.session.state) (kept : world.account.accepted = accepted) :
    world.Inevitably credentials fun last =>
      start.GetsOn last.session.state ∧ last.account.accepted = accepted ∧
        last.Resolved credentials profile := by
  -- On what the radio has left to do; every event of its own makes it less.
  induction measured : world.effort rank using WellFoundedLT.induction generalizing world rank with
  | ind effort ih =>
    subst measured
    by_cases quiet : world.Quiet
    · exact .done quiet ⟨getsOn, kept, standing.resolved quiet⟩
    · refine .later (standing.possible quiet) ?_
      intro now event enabled
      have proceeds := standing.proceeds now serves enabled
      obtain ⟨after, next, less⟩ := proceeds.standing
      exact ih _ less next (getsOn.trans proceeds.getsOn) (proceeds.accepted.trans kept) rfl

private theorem standing_fresh (nonces peerNonces : Nonces) (defaultMtu : Nat) (config : Config)
    (credentials : Credentials) (profile : SorcProfile) :
    Standing defaultMtu credentials profile 0
      (fresh (.willing nonces) defaultMtu config profile peerNonces) where
  sound :=
    { settled := Session.settled_fresh _ _ _
      rested := fun _ => rfl
      accurate := rfl
      remains := .refl _
      unfailing := nofun
      accounts := ⟨rfl, nofun⟩ }
  stage := .rest rfl ⟨rfl, rfl⟩
  confirming := nofun

theorem Standing.run (standing : Standing defaultMtu credentials profile rank world)
    (room : Frame.headerSize < defaultMtu) (serves : profile.Serves credentials) {schedule : List Input}
    (punctual : world.Respects Punctual credentials schedule) :
    ∃ after, Standing defaultMtu credentials profile after (world.run credentials schedule) := by
  induction schedule generalizing world rank with
  | nil => exact ⟨rank, standing⟩
  | cons input rest ih =>
    obtain ⟨after, next⟩ := standing.act room serves input punctual.1
    exact ih next punctual.2

private theorem Standing.respects (standing : Standing defaultMtu credentials profile rank world)
    (room : Frame.headerSize < defaultMtu) (serves : profile.Serves credentials) {schedule : List Input}
    (confirmed : world.Respects ConfirmedFirst credentials schedule) :
    world.Respects Punctual credentials schedule := by
  induction schedule generalizing world rank with
  | nil => exact trivial
  | cons input rest ih =>
    have punctual := standing.punctual confirmed.1
    obtain ⟨after, next⟩ := standing.act room serves input punctual
    exact ⟨punctual, ih next confirmed.2⟩

/-- The schedules in which confirmations always come first are among those without an answer that overtakes. -/
theorem punctual_of_confirmedFirst (nonces peerNonces : Nonces) {config : Config} {credentials : Credentials}
    {profile : SorcProfile} (valid : config.check = .ok ()) (serves : profile.Serves credentials)
    {schedule : List Input}
    (confirmed : Respects ConfirmedFirst credentials
      (fresh (.willing nonces) config.defaultMtu.toNat config profile peerNonces) schedule) :
    Respects Punctual credentials
      (fresh (.willing nonces) config.defaultMtu.toNat config profile peerNonces) schedule := by
  have standing := standing_fresh nonces peerNonces config.defaultMtu.toNat config credentials profile
  exact standing.respects (Config.usable_of_check valid).room serves confirmed

/-- What an answer leads to that overtakes: it ends the handshake, unless the peer asks for a newer blob, and it
fails the grants that are queued. -/
structure Falters (credentials : Credentials) (profile : SorcProfile) (world : World) : Prop where
  handshake : world.session.state = .connecting credentials.token.sorcId .challenging →
    ¬ profile.Outdates credentials.blob.counter → ∀ now,
      .announce (.connection
          ⟨.disconnected, .connectingFailed credentials.token.sorcId (.handshakeFailed none)⟩) ∈
        (world.act credentials ⟨now, .notify⟩).journal
  grants : ∀ grant, .grant grant ∈ world.session.queue.items → ∀ now,
    .announce (.grants ⟨[], .failed .sendingFailed⟩) ∈ (world.act credentials ⟨now, .notify⟩).journal

private theorem Standing.falters (standing : Standing defaultMtu credentials profile rank world)
    (serves : profile.Serves credentials) (overtakes : world.overtakes = true) :
    world.Falters credentials profile := by
  obtain ⟨raw, rest, package, waiting, busy, closes⟩ := exists_of_overtakes overtakes
  have ahead : world.prospect = (prospect { world with inbox := rest }).behind [raw] :=
    frames_prospect waiting
  have stage := standing.stage
  rw [ahead] at stage
  have noted (now : Nat) : (world.act credentials ⟨now, .notify⟩).journal =
      world.journal ++ (world.session.receive now (.ok raw)).effects := by
    simp only [World.act, waiting]
    exact journal_take _
  refine ⟨?_, ?_⟩
  · intro challenging current now
    rw [noted]
    exact List.mem_append_right _
      (stage.ends_attempt now serves standing.sound.settled busy closes challenging current)
  · intro grant queued now
    rw [noted]
    exact List.mem_append_right _
      (stage.fails_grants now serves standing.sound.settled standing.sound.accurate busy closes queued)

/-- What holds after a schedule: nothing has failed, the grants that were answered were answered as they
should, and left to itself the radio brings the connection to its end with every accepted grant answered. An
answer that overtakes next is the end of that. -/
structure Prospers (credentials : Credentials) (profile : SorcProfile) (world : World) : Prop where
  unfailing : ∀ effect ∈ world.journal, effect.isFailure = false
  accounts : world.account.Fits profile.response world.session.openGrants
  settles : world.Inevitably credentials fun last =>
    world.session.state.GetsOn last.session.state ∧ last.account.accepted = world.account.accepted ∧
      last.Resolved credentials profile
  overtaken : world.overtakes = true → world.Falters credentials profile

/-- With a peer that serves and a radio that takes every write, every schedule prospers in which no answer but
the peer's limit comes while the phone counts the message that it answers as under way. -/
theorem prospers_of_punctual (nonces peerNonces : Nonces) {config : Config} {credentials : Credentials}
    {profile : SorcProfile} (valid : config.check = .ok ()) (serves : profile.Serves credentials)
    {schedule : List Input}
    (punctual : Respects Punctual credentials
      (fresh (.willing nonces) config.defaultMtu.toNat config profile peerNonces) schedule) :
    Prospers credentials profile
      ((fresh (.willing nonces) config.defaultMtu.toNat config profile peerNonces).run credentials
        schedule) := by
  obtain ⟨rank, standing⟩ :=
    (standing_fresh nonces peerNonces config.defaultMtu.toNat config credentials profile).run
      (Config.usable_of_check valid).room serves punctual
  exact ⟨standing.sound.unfailing, standing.sound.accounts, standing.inevitably serves (.refl _) rfl,
    standing.falters serves⟩

end

/-- A peer that shares the key of the zero token and takes whole messages at once. -/
def roomyProfile : SorcProfile := { SorcProfile.ofToken Channel.zeroCredentials.token with mtu := 200 }

/-- A phone and a peer that draw zeros. -/
def zeroWorld : World :=
  fresh (.willing ⟨fun _ => .zero⟩) Config.standard.defaultMtu.toNat .standard roomyProfile ⟨fun _ => .zero⟩

/-- The peer's limit comes before the question for it is confirmed; the proof and the answer to a grant do
not overtake. -/
def earlyLimitSchedule : List Input :=
  [.connect, .reach, .deliver, .notify, .confirm, .confirm, .deliver, .notify, .confirm, .deliver,
    .requestGrant 5, .deliver, .confirm, .notify].map (⟨0, ·⟩)

theorem prospers_with_early_limit :
    Config.standard.check = .ok () ∧ roomyProfile.Serves Channel.zeroCredentials ∧
      zeroWorld.Respects Punctual Channel.zeroCredentials earlyLimitSchedule ∧
      Prospers Channel.zeroCredentials roomyProfile
        (zeroWorld.run Channel.zeroCredentials earlyLimitSchedule) := by
  have serves : roomyProfile.Serves Channel.zeroCredentials :=
    { honest := ⟨rfl, rfl, by decide, rfl, rfl⟩
      heartbeats := rfl
      grants := rfl
      ascii := by decide +kernel
      text := by decide +kernel
      challenge := by decide +kernel
      current := nofun
      blob := by rintro (⟨_, required, _⟩ | ⟨_, _, requested, _⟩) <;> contradiction }
  have punctual : zeroWorld.Respects Punctual Channel.zeroCredentials earlyLimitSchedule := by
    decide +kernel
  exact ⟨rfl, serves, punctual, prospers_of_punctual _ _ rfl serves punctual⟩

/-- The peer's proof comes before the challenge that it answers is confirmed. -/
def earlyProofSchedule : List Input :=
  [.connect, .reach, .deliver, .confirm, .notify, .deliver, .notify].map (⟨0, ·⟩)

/-- The phone's answer to the proof finds the challenge still under way, and the attempt fails. -/
theorem fails_with_early_proof :
    .announce (.connection
        ⟨.disconnected, .connectingFailed Channel.zeroCredentials.token.sorcId (.handshakeFailed none)⟩) ∈
      (zeroWorld.run Channel.zeroCredentials earlyProofSchedule).journal := by
  decide +kernel

end World

end PhoneKey
