import PhoneKey.Proofs.Line.Reception
import PhoneKey.Proofs.Link.Phases

/-! # How the limit is settled

While a link waits for its peer's limit, what the radio tells about the peer comes in any order: the answer
before the completion of the request, other messages, parts of messages, failures. Still there are four
outcomes only. The answer with a limit that leaves room behind a header brings the connection up; any other
answer, a frame that cannot be read and a request that cannot be written end the attempt; a lost peer ends
it for another reason; and everything else leaves the link waiting. None of this traffic is passed on.
-/

namespace PhoneKey

/-- What an effect announces about the link. -/
def Effect.linkChange? : Effect → Option LinkChange
  | .announce (.link change) => some change
  | _ => none

namespace Link

/-- Whether an input is what the radio tells about a peer. Completions and received bytes name no peer and
are those of the link's own. -/
def Input.Concerns (sorcId : Uuid) : Input → Prop
  | .radioEvent event => event.sorcId = sorcId
  | .confirm _ => True
  | .receive _ => True
  | _ => False

/-- The input completes the answer of the peer, and the answer tells a limit above a header's size. -/
inductive Tells (link : Link) : Input → UInt8 → Prop
  | answer {raw rest : Bytes} {limit : UInt8} (completes : link.line.Completes raw (0x07 :: limit :: rest))
      (room : 4 < limit.toNat) : Tells link (.receive (.ok raw)) limit

/-- The input leaves no way to settle a limit. -/
inductive Spoils (link : Link) : Input → Prop
  | narrow {raw rest : Bytes} {limit : UInt8} (completes : link.line.Completes raw (0x07 :: limit :: rest))
      (narrow : limit.toNat ≤ 4) : Spoils link (.receive (.ok raw))
  | bare {raw : Bytes} (completes : link.line.Completes raw [0x07]) : Spoils link (.receive (.ok raw))
  | unheard (cause : LinkError) : Spoils link (.receive (.error cause))
  | garbled {raw : Bytes} (garbled : ¬ Frame.Readable raw) : Spoils link (.receive (.ok raw))
  /-- The radio failed to write a frame of the request. -/
  | unwritten (cause : LinkError) (unfinished : link.line.sending ≠ none) :
      Spoils link (.confirm (.error cause))
  /-- The radio declines the next frame of the request. -/
  | declined {package : Package} (unfinished : link.line.sending = some package)
      (next : package.confirm.waiting? ≠ none) (declines : link.handset.accepts 0 = false) :
      Spoils link (.confirm (.ok ()))

/-- The radio tells that the peer is out of reach. -/
inductive Loses : Input → Prop
  | event {event : RadioEvent} (gone : ∀ sorcId, event ≠ .connected sorcId) : Loses (.radioEvent event)

/-- The link goes to a state for a reason, and tells that once, to the layer above and on its stream, and
nothing besides. -/
structure Moves (turn : Turn Link LinkReport) (state : LinkState) (reason : LinkReason) : Prop where
  reached : turn.state.state = state
  reports : turn.reports = [.connectionChanged ⟨state, reason⟩]
  announced : turn.effects.filterMap Effect.linkChange? = [⟨state, reason⟩]

/-- The link goes on waiting and tells nothing. -/
structure Waits (turn : Turn Link LinkReport) (sorcId : Uuid) : Prop where
  kept : turn.state.state = .connecting sorcId .requestingMtu
  reports : turn.reports = []
  announced : turn.effects.filterMap Effect.linkChange? = []

variable {link : Link} {sorcId : Uuid} {input : Input}

private theorem isSettling_of_asking (asking : link.state = .connecting sorcId .requestingMtu) :
    link.isSettling = true := by
  simp [isSettling, asking]

private theorem receive_completed (asking : link.state = .connecting sorcId .requestingMtu) {raw data : Bytes}
    (completes : link.line.Completes raw data) :
    link.receive (.ok raw) =
      mtuReceived { link with line := { link.line with receiving := .empty } } sorcId (.ofBytes data) := by
  simp only [receive, asking, Line.receive_of_completes completes]

private theorem ofBytes_answer (payload : Bytes) :
    Message.ofBytes (0x07 :: payload) = ⟨.mtuReceive, payload⟩ := rfl

private theorem moves_failMtu {link : Link} (asking : link.state = .connecting sorcId .requestingMtu) :
    Moves link.failMtu .disconnected (.connectingFailed sorcId .invalidMtuResponse) := by
  have engaged : link.state.sorcId? = some sorcId := by rw [asking]; rfl
  rw [failMtu_of_engaged engaged]
  exact ⟨rfl, rfl, rfl⟩

/-- Effects that say nothing about the link may come first. -/
theorem Moves.after {turn : Turn Link LinkReport} {state : LinkState} {reason : LinkReason}
    (moves : Moves turn state reason) (effects : List Effect)
    (silent : effects.filterMap Effect.linkChange? = []) : Moves (turn.after effects) state reason := by
  refine ⟨moves.reached, moves.reports, ?_⟩
  rw [Turn.after, List.filterMap_append, silent, moves.announced, List.nil_append]

private theorem moves_sendFailed (link : Link) (asking : link.state = .connecting sorcId .requestingMtu)
    (cause : LinkError) :
    Moves (link.sendFailed cause) .disconnected (.connectingFailed sorcId .invalidMtuResponse) := by
  rw [sendFailed_of_settling (isSettling_of_asking asking)]
  exact moves_failMtu asking

/-- An answer with a limit above a header's size brings the connection up. -/
theorem moves_of_tells (asking : link.state = .connecting sorcId .requestingMtu) {limit : UInt8}
    (tells : Tells link input limit) :
    Moves (link.act input) (.connected sorcId) (.established sorcId) ∧
      (link.act input).state.mtu = limit.toNat := by
  obtain ⟨completes, room⟩ := tells
  have enough : Frame.headerSize < limit.toNat := room
  rw [act, receive_completed asking completes, ofBytes_answer, mtuReceived]
  simp only [Payload.mtu?, List.head?_cons, Option.map_some, enough, if_true]
  exact ⟨⟨rfl, rfl, rfl⟩, rfl⟩

/-- Whatever leaves no way to settle a limit ends the attempt. -/
theorem moves_of_spoils (asking : link.state = .connecting sorcId .requestingMtu)
    (spoils : Spoils link input) :
    Moves (link.act input) .disconnected (.connectingFailed sorcId .invalidMtuResponse) := by
  cases spoils with
  | @narrow raw rest limit completes narrow =>
    have refused : ¬ Frame.headerSize < limit.toNat := Nat.not_lt.mpr narrow
    rw [act, receive_completed asking completes, ofBytes_answer, mtuReceived]
    simp only [Payload.mtu?, List.head?_cons, Option.map_some, refused, if_true, if_false]
    exact moves_failMtu asking
  | bare completes =>
    rw [act, receive_completed asking completes, ofBytes_answer, mtuReceived]
    exact moves_failMtu asking
  | unheard cause =>
    simp only [act, receive, asking]
    exact moves_failMtu rfl
  | garbled garbled =>
    simp only [act, receive, asking, Line.receive_eq, garbled, if_false]
    exact moves_failMtu rfl
  | unwritten cause unfinished =>
    have given : link.line.dropSending.1 = true := Option.isSome_iff_ne_none.mpr unfinished
    simp only [act, confirm, given, if_true]
    exact moves_sendFailed { link with line := link.line.dropSending.2 } asking cause
  | @declined package unfinished next declines =>
    obtain ⟨frame, waiting⟩ := Option.ne_none_iff_exists'.mp next
    have progress : link.line.confirm =
        (.next frame.toBytes, { link.line with sending := some package.confirm }) := by
      simp only [Line.confirm, unfinished, waiting]
    have declined := write_of_declines { link with line := { link.line with sending := some package.confirm } }
      declines frame.toBytes
    have failed := moves_sendFailed
      ⟨link.handset.answerWrite.2, { link.line with sending := none }, link.state⟩ asking .writeFailed
    simp only [act, confirm, progress, declined]
    exact failed.after [.radio (.write frame.toBytes false)] rfl

/-- A lost peer ends the attempt for a reason of its own. -/
theorem moves_of_loses (asking : link.state = .connecting sorcId .requestingMtu)
    (concerns : input.Concerns sorcId) (loses : Loses input) :
    Moves (link.act input) .disconnected (.connectingFailed sorcId .physicalConnectingFailed) := by
  obtain @⟨event, gone⟩ := loses
  have engaged : link.state.sorcId? = some sorcId := by rw [asking]; rfl
  have served : link.state.sorcId? = some event.sorcId := by rw [engaged, concerns]
  have unconnected : link.state.isConnected = false := by rw [asking]; rfl
  have finished : link.radioEvent event = link.finish (.radio .connectingFailed) := by
    cases event with
    | connected other => exact absurd rfl (gone other)
    | _ => simp only [radioEvent, served, unconnected, if_true, Bool.false_eq_true, if_false]
  rw [act, finished, finish_of_engaged engaged]
  exact ⟨rfl, rfl, rfl⟩

private theorem waits_confirm (asking : link.state = .connecting sorcId .requestingMtu)
    (harmless : ¬ Spoils link (.confirm (.ok ()))) : Waits (link.confirm (.ok ())) sorcId := by
  cases progress : link.line.confirm with
  | mk outcome line =>
    cases outcome with
    | idle =>
      simp only [confirm, progress]
      exact ⟨asking, rfl, rfl⟩
    | complete message =>
      simp only [confirm, progress, isSettling_of_asking asking, if_true]
      exact ⟨asking, rfl, rfl⟩
    | next frame =>
      obtain ⟨package, first, sending, waiting, rfl, rfl⟩ := Line.confirm_eq_next progress
      cases answer : link.handset.accepts 0 with
      | false => exact absurd (.declined sending (by simp [waiting]) answer) harmless
      | true =>
        have accepted := write_of_accepts
          { link with line := { link.line with sending := some package.confirm } } answer first.toBytes
        simp only [confirm, progress, accepted]
        exact ⟨asking, rfl, rfl⟩

private theorem waits_receive (asking : link.state = .connecting sorcId .requestingMtu) {raw : Bytes}
    (untold : ∀ limit, ¬ Tells link (.receive (.ok raw)) limit)
    (harmless : ¬ Spoils link (.receive (.ok raw))) : Waits (link.receive (.ok raw)) sorcId := by
  have readable : Frame.Readable raw := by
    by_contra garbled
    exact harmless (.garbled garbled)
  by_cases closing : Frame.Closing raw
  · have completes : link.line.Completes raw (link.line.receiving.collected ++ Frame.body raw) :=
      ⟨readable, closing, rfl⟩
    generalize link.line.receiving.collected ++ Frame.body raw = data at completes
    have foreign : (Message.ofBytes data).id ≠ .mtuReceive := by
      intro kind
      have whole := (Message.ofBytes_eq_iff (by simp [kind])).mp (rfl : Message.ofBytes data = _)
      rw [Message.toBytes, kind] at whole
      cases payload : (Message.ofBytes data).payload with
      | nil =>
        rw [payload] at whole
        exact harmless (.bare (whole ▸ completes))
      | cons limit rest =>
        rw [payload] at whole
        by_cases room : 4 < limit.toNat
        · exact untold limit (.answer (whole ▸ completes) room)
        · exact harmless (.narrow (whole ▸ completes) (Nat.not_lt.mp room))
    rw [receive_completed asking completes, mtuReceived, if_neg foreign]
    exact ⟨asking, rfl, rfl⟩
  · simp only [receive, asking, Line.receive_eq, readable, closing, if_true, if_false]
    exact ⟨rfl, rfl, rfl⟩

/-- Everything else leaves the link waiting. -/
theorem waits_of_harmless (asking : link.state = .connecting sorcId .requestingMtu)
    (concerns : input.Concerns sorcId) (untold : ∀ limit, ¬ Tells link input limit)
    (harmless : ¬ Spoils link input) (kept : ¬ Loses input) : Waits (link.act input) sorcId := by
  have idle : Waits (.idle link) sorcId := ⟨asking, rfl, rfl⟩
  cases input with
  | radioEvent event =>
    by_cases reached : ∃ other, event = .connected other
    · obtain ⟨other, rfl⟩ := reached
      have stale : link.state ≠ .connecting other .physical := by simp [asking]
      rw [act, radioEvent_of_stale stale]
      exact idle
    · exact absurd (.event fun other same => reached ⟨other, same⟩) kept
  | confirm result =>
    cases result with
    | error cause =>
      cases sending : link.line.sending with
      | none =>
        rw [act, confirm_of_free sending]
        exact idle
      | some package => exact absurd (.unwritten cause (by simp [sending])) harmless
    | ok written => exact waits_confirm asking harmless
  | receive result =>
    cases result with
    | error cause => exact absurd (.unheard cause) harmless
    | ok raw => exact waits_receive asking untold harmless
  | connect other => exact concerns.elim
  | close cause => exact concerns.elim
  | send message => exact concerns.elim

/-- What becomes of a link that waits for its peer's limit: there are four outcomes, each on its own
condition, and messages are passed on in none of them. -/
structure Negotiates (link : Link) (sorcId : Uuid) (input : Input) : Prop where
  settles : ∀ limit : UInt8,
    (link.act input).state.state = .connected sorcId ∧ (link.act input).state.mtu = limit.toNat ↔
      Tells link input limit
  connects : (link.act input).state.state = .connected sorcId ↔
    Moves (link.act input) (.connected sorcId) (.established sorcId)
  fails : Moves (link.act input) .disconnected (.connectingFailed sorcId .invalidMtuResponse) ↔
    Spoils link input
  loses : Moves (link.act input) .disconnected (.connectingFailed sorcId .physicalConnectingFailed) ↔
    Loses input
  waits : Waits (link.act input) sorcId ↔
    (∀ limit, ¬ Tells link input limit) ∧ ¬ Spoils link input ∧ ¬ Loses input
  silent : ∀ result, .dataSent result ∉ (link.act input).reports ∧
    .dataReceived result ∉ (link.act input).reports

/-- What an input leads to, and on which condition. -/
inductive Outcome (link : Link) (sorcId : Uuid) (input : Input) : Prop
  | settled {limit : UInt8} (tells : Tells link input limit)
      (moves : Moves (link.act input) (.connected sorcId) (.established sorcId))
      (taken : (link.act input).state.mtu = limit.toNat)
  | failed (spoils : Spoils link input)
      (moves : Moves (link.act input) .disconnected (.connectingFailed sorcId .invalidMtuResponse))
  | lost (loses : Loses input)
      (moves : Moves (link.act input) .disconnected (.connectingFailed sorcId .physicalConnectingFailed))
  | waiting (waits : Waits (link.act input) sorcId)

private theorem outcome (link : Link) {sorcId : Uuid}
    (asking : link.state = .connecting sorcId .requestingMtu)
    {input : Input} (concerns : input.Concerns sorcId) : Outcome link sorcId input := by
  by_cases told : ∃ limit, Tells link input limit
  · obtain ⟨limit, tells⟩ := told
    obtain ⟨moves, taken⟩ := moves_of_tells asking tells
    exact .settled tells moves taken
  by_cases spoils : Spoils link input
  · exact .failed spoils (moves_of_spoils asking spoils)
  by_cases loses : Loses input
  · exact .lost loses (moves_of_loses asking concerns loses)
  · exact .waiting (waits_of_harmless asking concerns (fun limit tells => told ⟨limit, tells⟩) spoils loses)

/-- A move to one state for one reason is no other move. -/
theorem Moves.unique {turn : Turn Link LinkReport} {state other : LinkState} {reason cause : LinkReason}
    (moves : Moves turn state reason) (also : Moves turn other cause) : state = other ∧ reason = cause := by
  have same := moves.reports.symm.trans also.reports
  simpa using same

private theorem Waits.not_moves {turn : Turn Link LinkReport} {state : LinkState} {reason : LinkReason}
    (waits : Waits turn sorcId) : ¬ Moves turn state reason := by
  intro moves
  cases waits.reports.symm.trans moves.reports

/-- Nothing but an answer with a limit connects the link. -/
theorem Outcome.settled_of_connected (outcome : Outcome link sorcId input)
    (reached : (link.act input).state.state = .connected sorcId) :
    ∃ limit, Tells link input limit ∧ Moves (link.act input) (.connected sorcId) (.established sorcId) ∧
      (link.act input).state.mtu = limit.toNat := by
  cases outcome with
  | settled tells moves taken => exact ⟨_, tells, moves, taken⟩
  | failed spoils moves => cases moves.reached.symm.trans reached
  | lost loses moves => cases moves.reached.symm.trans reached
  | waiting waits => cases waits.kept.symm.trans reached

/-- A link that waits for its peer's limit, whatever of the request is confirmed and whatever has been
received of a message, and anything that the radio tells about the peer. -/
theorem negotiates (link : Link) {sorcId : Uuid} (asking : link.state = .connecting sorcId .requestingMtu)
    {input : Input} (concerns : input.Concerns sorcId) : Negotiates link sorcId input where
  settles limit := by
    refine ⟨?_, fun tells => (moves_of_tells asking tells).imp_left Moves.reached⟩
    rintro ⟨reached, same⟩
    obtain ⟨told, tells, _, taken⟩ := (outcome link asking concerns).settled_of_connected reached
    exact UInt8.toNat_inj.mp (taken.symm.trans same) ▸ tells
  connects := by
    refine ⟨?_, Moves.reached⟩
    intro reached
    obtain ⟨_, _, moves, _⟩ := (outcome link asking concerns).settled_of_connected reached
    exact moves
  fails := by
    refine ⟨?_, moves_of_spoils asking⟩
    intro fails
    cases outcome link asking concerns with
    | settled tells moves taken => cases (moves.unique fails).1
    | failed spoils moves => exact spoils
    | lost loses moves => cases (moves.unique fails).2
    | waiting waits => exact absurd fails waits.not_moves
  loses := by
    refine ⟨?_, moves_of_loses asking concerns⟩
    intro lost
    cases outcome link asking concerns with
    | settled tells moves taken => cases (moves.unique lost).1
    | failed spoils moves => cases (moves.unique lost).2
    | lost loses moves => exact loses
    | waiting waits => exact absurd lost waits.not_moves
  waits := by
    refine ⟨fun waits => ⟨?_, ?_, ?_⟩, fun ⟨untold, harmless, kept⟩ =>
      waits_of_harmless asking concerns untold harmless kept⟩
    · exact fun limit tells => waits.not_moves (moves_of_tells asking tells).1
    · exact fun spoils => waits.not_moves (moves_of_spoils asking spoils)
    · exact fun loses => waits.not_moves (moves_of_loses asking concerns loses)
  silent result := by
    cases outcome link asking concerns with
    | settled tells moves taken => simp [moves.reports]
    | failed spoils moves => simp [moves.reports]
    | lost loses moves => simp [moves.reports]
    | waiting waits => simp [waits.reports]

/-- The answer may come before the completion of the request. -/
theorem negotiates_overtaken :
    let handset : Handset := ⟨fun _ => true, ⟨fun _ => .zero⟩⟩
    let link := ((new handset Frame.defaultMtu).run [.connect ⟨.zero⟩, .radioEvent (.connected ⟨.zero⟩)]).state
    let answer : Input := .receive (.ok [0x30, 0, 2, 0, 0x07, 200])
    link.state = .connecting ⟨.zero⟩ .requestingMtu ∧ link.line.sending ≠ none ∧
      Negotiates link ⟨.zero⟩ answer ∧ (link.act answer).state.state = .connected ⟨.zero⟩ ∧
      (link.act answer).state.mtu = 200 := by
  intro handset link answer
  have asking : link.state = .connecting ⟨.zero⟩ .requestingMtu := by decide +kernel
  have negotiated : Negotiates link ⟨.zero⟩ answer := negotiates link asking trivial
  have completes : link.line.Completes [0x30, 0, 2, 0, 0x07, 200] [0x07, 200] := by decide +kernel
  have told : Tells link answer 200 := .answer completes (by decide)
  exact ⟨asking, by decide +kernel, negotiated, (negotiated.settles 200).mpr told⟩

end Link

end PhoneKey
