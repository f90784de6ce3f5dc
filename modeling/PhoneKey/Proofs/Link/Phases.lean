import PhoneKey.Proofs.Frame
import PhoneKey.Proofs.Link.Completion
import PhoneKey.Proofs.Run

/-! # Phases of a link

A link keeps its line in order, phase by phase: as good as new until the radio has reached the peer, at the
default limit and with nothing but the question under way while the limit is being settled, and within the
bounds of a byte from then on. When the connection comes up the line is free, whatever had been under way
before, so that the first message is never refused because of an earlier one.
-/

namespace PhoneKey

/-- What completes a message closes the package that it came in. -/
theorem Line.receiving_of_received {line next : Line} {raw data : Bytes}
    (received : line.receive raw = (.ok (some data), next)) :
    next = { line with receiving := .empty } := by
  simp only [Line.receive] at received
  split at received
  · cases received
  · next frame parsed =>
    cases closes : frame.type.closes with
    | true =>
      rw [Assembler.push_of_closes closes] at received
      cases received
      rfl
    | false =>
      rw [Assembler.push_of_leaves closes] at received
      cases received

private theorem Payload.mtu_le {payload : Bytes} {mtu : Nat} (told : Payload.mtu? payload = some mtu) :
    mtu ≤ 255 := by
  obtain ⟨byte, _, rfl⟩ := Option.map_eq_some_iff.mp told
  exact Nat.le_of_lt_succ byte.toNat_lt

namespace Link

/-- What a link does with inputs that come one after the other. -/
def run (link : Link) (inputs : List Input) : Turn Link LinkReport := Turn.forEach act link inputs

/-- The calls of a run. -/
def history (link : Link) (inputs : List Input) : List (Call Link Input) := Turn.calls act link inputs

/-- What a call makes of a link. -/
inductive Step (link : Link) : Input → Link → Prop
  /-- At most the radio was asked for something. -/
  | stays (input : Input) (handset : Handset) : Step link input { link with handset }
  | dials {sorcId : Uuid} (rests : link.state = .disconnected) :
      Step link (.connect sorcId) { link with state := .connecting sorcId .physical }
  | asks {sorcId : Uuid} {handset : Handset} {frame : Bytes} {line : Line}
      (dialling : link.state = .connecting sorcId .physical)
      (launched : link.line.launch (Message.empty .mtuRequest).toBytes = .ok (frame, line)) :
      Step link (.radioEvent (.connected sorcId)) ⟨handset, line, .connecting sorcId .requestingMtu⟩
  | ends (input : Input) (handset : Handset) : Step link input (.new handset link.line.defaultMtu)
  | launches {message frame : Bytes} {handset : Handset} {line : Line}
      (connected : link.state.isConnected = true)
      (launched : link.line.launch message = .ok (frame, line)) :
      Step link (.send message) ⟨handset, line, link.state⟩
  | proceeds {frame : Bytes} {handset : Handset} {line : Line}
      (confirmed : link.line.confirm = (.next frame, line)) :
      Step link (.confirm (.ok ())) ⟨handset, line, link.state⟩
  /-- The package on its way out is complete, or was given up. -/
  | frees (result : Except LinkError Unit) (handset : Handset) :
      Step link (.confirm result) ⟨handset, link.line.dropSending.2, link.state⟩
  | collects (result : Except LinkError Bytes) (receiving : Assembler)
      (listening : link.isSettling = true ∨ link.state.isConnected = true) :
      Step link (.receive result) { link with line := { link.line with receiving } }
  | settles {result : Except LinkError Bytes} {sorcId : Uuid} {mtu : Nat}
      (asking : link.state = .connecting sorcId .requestingMtu) (least : Frame.headerSize < mtu)
      (most : mtu ≤ 255) :
      Step link (.receive result)
        ⟨link.handset, ⟨link.line.defaultMtu, mtu, none, .empty⟩, .connected sorcId⟩

variable {link : Link}

private theorem engaged_of_settling (settling : link.isSettling = true) :
    ∃ sorcId, link.state.sorcId? = some sorcId := by
  cases state : link.state with
  | disconnected => simp [isSettling, state] at settling
  | connecting sorcId stage => exact ⟨sorcId, rfl⟩
  | connected sorcId => exact ⟨sorcId, rfl⟩

private theorem step_idle (link : Link) (input : Input) : Step link input link := .stays input link.handset

private theorem step_close (link : Link) (input : Input) (cause : EndCause) :
    Step link input (link.close cause).state := by
  cases alive : link.state.isDisconnected with
  | true =>
    rw [close, if_pos alive]
    exact step_idle link input
  | false =>
    obtain ⟨sorcId, engaged⟩ := exists_engaged alive
    rw [close_of_engaged engaged]
    exact .ends input link.handset

private theorem step_finish (link : Link) (input : Input) (cause : EndCause) :
    Step link input (link.finish cause).state := by
  cases engaged : link.state.sorcId? with
  | none =>
    rw [finish, engaged]
    exact step_idle link input
  | some sorcId =>
    rw [finish_of_engaged engaged]
    exact .ends input link.handset

private theorem step_connect (link : Link) (sorcId : Uuid) :
    Step link (.connect sorcId) (link.connect sorcId).state := by
  cases state : link.state with
  | disconnected =>
    rw [connect, state]
    exact .dials state
  | connecting other stage =>
    rw [connect, state]
    simp only [ConnectionState.isDisconnected, Bool.false_eq_true, if_false]
    split <;> exact step_idle link _
  | connected other =>
    rw [connect, state]
    exact step_idle link _

private theorem step_send (link : Link) (message : Bytes) :
    Step link (.send message) (link.send message).state := by
  have kept : (link.send message).state = (link.offer message).link := by
    rw [send]
    split <;> rfl
  rw [kept, offer]
  split
  · next connected =>
    cases outcome : (link.start message).refusal with
    | none =>
      obtain ⟨frame, line, launched, _, same⟩ := start_taken outcome
      rw [same]
      exact .launches connected launched
    | some cause =>
      rw [link_of_refused outcome]
      exact .stays _ _
  · exact step_idle link _

private theorem step_radioEvent (link : Link) (event : RadioEvent) :
    Step link (.radioEvent event) (link.radioEvent event).state := by
  by_cases reached : ∃ sorcId, event = .connected sorcId
  · obtain ⟨sorcId, rfl⟩ := reached
    by_cases dialling : link.state = .connecting sorcId .physical
    · obtain ⟨handset, line, state⟩ := link
      cases dialling
      obtain ⟨offered, asked⟩ : ∃ offered, offered = start ⟨handset, line,
        .connecting sorcId .requestingMtu⟩ (Message.empty .mtuRequest).toBytes := ⟨_, rfl⟩
      cases outcome : offered.refusal with
      | none =>
        rw [radioEvent_of_asked asked outcome]
        obtain ⟨frame, next, launched, _, same⟩ := start_taken (asked ▸ outcome)
        rw [asked, same]
        exact .asks rfl launched
      | some cause =>
        rw [radioEvent_of_unasked asked outcome]
        exact .ends _ _
    · rw [radioEvent_of_stale dialling]
      exact step_idle link _
  · rcases radioEvent_of_gone link fun sorcId same => reached ⟨sorcId, same⟩ with same | ⟨cause, same⟩
    · rw [same]
      exact step_idle link _
    · rw [same]
      exact step_finish link _ cause

private theorem step_confirm (link : Link) (result : Except LinkError Unit) :
    Step link (.confirm result) (link.confirm result).state := by
  have given : ∀ (result : Except LinkError Unit) (handset : Handset) (cause : LinkError),
      Step link (.confirm result)
        (sendFailed ⟨handset, link.line.dropSending.2, link.state⟩ cause).state := by
    intro result handset cause
    rw [sendFailed]
    split
    · next settling =>
      obtain ⟨sorcId, engaged⟩ := engaged_of_settling settling
      rw [failMtu_of_engaged engaged]
      exact .ends _ handset
    · exact .frees result handset
  have outcome := confirmed link result
  generalize link.confirm result = turn at outcome ⊢
  cases outcome with
  | idle result sending => exact step_idle link _
  | proceeds confirmed => exact .proceeds confirmed
  | unwritten confirmed => exact given _ _ _
  | completes confirmed =>
    obtain ⟨package, _, _, rfl⟩ := Line.confirm_eq_complete confirmed
    split <;> exact .frees _ link.handset
  | failed cause sending => exact given _ _ _

private theorem step_receive (link : Link) (result : Except LinkError Bytes) :
    Step link (.receive result) (link.receive result).state := by
  have outcome := received link result
  generalize link.receive result = turn at outcome ⊢
  cases outcome with
  | deaf result asleep unconnected => exact step_idle link _
  | collects listening received meaningless =>
    obtain ⟨receiving, rfl⟩ := Line.receive_frame received
    exact .collects _ receiving listening
  | hears connected received =>
    obtain ⟨receiving, rfl⟩ := Line.receive_frame received
    exact .collects _ receiving (.inr connected)
  | mishears connected cause kept =>
    obtain ⟨receiving, rfl⟩ := kept
    exact .collects _ receiving (.inr connected)
  | settles asking received kind told limit =>
    rw [Line.receiving_of_received received]
    exact .settles asking limit (Payload.mtu_le told)
  | failsMtu asking kept =>
    obtain ⟨receiving, rfl⟩ := kept
    obtain ⟨sorcId, engaged⟩ := engaged_of_settling asking
    have failed := @failMtu_of_engaged { link with line := { link.line with receiving } } sorcId engaged
    rw [failed]
    exact .ends _ link.handset

private theorem act_step (link : Link) (input : Input) : Step link input (link.act input).state := by
  cases input with
  | connect sorcId => exact step_connect link sorcId
  | close cause => exact step_close link _ cause
  | send message => exact step_send link message
  | radioEvent event => exact step_radioEvent link event
  | confirm result => exact step_confirm link result
  | receive result => exact step_receive link result

/-- How a link and its line stand between two inputs, phase by phase. -/
inductive Lawful (defaultMtu : Nat) : Link → Prop
  | atRest (handset : Handset) : Lawful defaultMtu ⟨handset, .new defaultMtu, .disconnected⟩
  | dialling (handset : Handset) (sorcId : Uuid) :
      Lawful defaultMtu ⟨handset, .new defaultMtu, .connecting sorcId .physical⟩
  /-- Nothing can be under way but the whole of the question for the limit. -/
  | settling {sending : Option Package} (handset : Handset) (sorcId : Uuid) (receiving : Assembler)
      (question : ∀ package, sending = some package →
        Package.make (Message.empty .mtuRequest).toBytes (Frame.sizeForMtu defaultMtu) = .ok package) :
      Lawful defaultMtu
        ⟨handset, ⟨defaultMtu, defaultMtu, sending, receiving⟩, .connecting sorcId .requestingMtu⟩
  | linked {mtu : Nat} (handset : Handset) (sorcId : Uuid) (sending : Option Package)
      (receiving : Assembler) (least : 5 ≤ mtu) (most : mtu ≤ 255) :
      Lawful defaultMtu ⟨handset, ⟨defaultMtu, mtu, sending, receiving⟩, .connected sorcId⟩

/-- The question for the limit takes one frame, so that no frame follows its first. -/
theorem no_next_of_question {mtu : Nat} {package : Package} {frame : Frame}
    (question : Package.make (Message.empty .mtuRequest).toBytes (Frame.sizeForMtu mtu) = .ok package) :
    package.confirm.waiting? ≠ some frame := by
  intro waiting
  rcases Nat.eq_zero_or_pos (Frame.sizeForMtu mtu) with none | room
  · rw [none] at question
    cases question
  · obtain ⟨last, split, _⟩ := Frame.split_singleton room (Message.empty .mtuRequest).id.toByte
    have made : Package.make (Message.empty .mtuRequest).toBytes (Frame.sizeForMtu mtu) =
        .ok ⟨(Message.empty .mtuRequest).toBytes, [last]⟩ := congrArg (Except.map _) split
    cases question.symm.trans made
    cases waiting

/-- Every step of a lawful link leads to a lawful one. -/
theorem lawful_of_step {defaultMtu : Nat} {input : Input} {next : Link} (lawful : Lawful defaultMtu link)
    (step : Step link input next) : Lawful defaultMtu next := by
  cases step with
  | stays input handset =>
    cases lawful with
    | atRest => exact .atRest handset
    | dialling _ sorcId => exact .dialling handset sorcId
    | settling _ sorcId receiving question => exact .settling handset sorcId receiving question
    | linked _ sorcId sending receiving least most =>
      exact .linked handset sorcId sending receiving least most
  | dials rests =>
    cases lawful with
    | atRest handset => exact .dialling handset _
    | _ => cases rests
  | asks dialling launched =>
    cases lawful with
    | dialling =>
      obtain ⟨_, first, rest, split, _, rfl⟩ := Line.launch_eq_ok launched
      refine .settling _ _ _ ?_
      rintro package ⟨⟩
      exact congrArg (Except.map _) split
    | _ => cases dialling
  | ends input handset =>
    have default : link.line.defaultMtu = defaultMtu := by cases lawful <;> rfl
    rw [default]
    exact .atRest handset
  | launches connected launched =>
    obtain ⟨_, first, rest, _, _, rfl⟩ := Line.launch_eq_ok launched
    cases lawful with
    | linked _ sorcId sending receiving least most => exact .linked _ sorcId _ receiving least most
    | _ => cases connected
  | proceeds confirmed =>
    obtain ⟨package, first, sending, waiting, _, rfl⟩ := Line.confirm_eq_next confirmed
    cases lawful with
    | atRest => cases sending
    | dialling => cases sending
    | settling _ sorcId receiving question =>
      exact absurd waiting (no_next_of_question (question package sending))
    | linked _ sorcId _ receiving least most => exact .linked _ sorcId _ receiving least most
  | frees result handset =>
    cases lawful with
    | atRest => exact .atRest handset
    | dialling _ sorcId => exact .dialling handset sorcId
    | settling _ sorcId receiving question => exact .settling handset sorcId receiving nofun
    | linked _ sorcId sending receiving least most => exact .linked handset sorcId none receiving least most
  | collects result receiving listening =>
    cases lawful with
    | settling handset sorcId _ question => exact .settling handset sorcId receiving question
    | linked handset sorcId sending _ least most =>
      exact .linked handset sorcId sending receiving least most
    | _ => rcases listening with settling | connected <;> contradiction
  | settles asking least most =>
    cases lawful with
    | settling handset sorcId receiving question => exact .linked handset _ none .empty least most
    | _ => cases asking

theorem lawful_of_run (handset : Handset) (defaultMtu : Nat) (inputs : List Input) :
    Lawful defaultMtu ((new handset defaultMtu).run inputs).state := by
  apply Turn.run_induction act (motive := fun _ link => Lawful defaultMtu link)
  · exact .atRest handset
  · intro earlier link input lawful
    exact lawful_of_step lawful (act_step link input)

/-- The limit of a connection stays what it was when the connection came up. -/
theorem mtu_of_step {input : Input} {next : Link} (step : Step link input next)
    (up : link.state.isConnected = true) (still : next.state.isConnected = true) :
    next.line.mtu = link.line.mtu := by
  cases step with
  | asks dialling launched => rw [dialling] at up; cases up
  | ends input handset => cases still
  | launches connected launched => exact (Line.mtu_of_launch launched).1
  | proceeds confirmed =>
    obtain ⟨package, first, _, _, _, rfl⟩ := Line.confirm_eq_next confirmed
    rfl
  | settles asking least most => rw [asking] at up; cases up
  | _ => rfl

private theorem mtu_of_lasting {inputs : List Input} (up : link.state.isConnected = true)
    (lasts : ∀ call ∈ link.history inputs, (call.before.act call.input).state.state.isConnected = true) :
    (link.run inputs).state.line.mtu = link.line.mtu := by
  induction inputs generalizing link with
  | nil => rfl
  | cons input rest ih =>
    obtain ⟨still, lasting⟩ := List.forall_mem_cons.mp lasts
    exact (ih still lasting).trans (mtu_of_step (act_step link input) up still)

/-- Whether a connection comes up in a call. -/
def Enters (call : Call Link Input) : Prop :=
  call.before.state.isConnected = false ∧ (call.before.act call.input).state.state.isConnected = true

/-- Whether a call is a command that puts nothing under way, so that nothing is heard of the radio. -/
def Spares (call : Call Link Input) : Prop :=
  match call.input with
  | .connect _ | .close _ => True
  | .send _ => ∃ cause, .dataSent (.error cause) ∈ (call.before.act call.input).reports
  | _ => False

end Link

/-- Whether nothing is under way on a line, in either direction. -/
structure Line.Free (line : Line) : Prop where
  sending : line.sending = none
  receiving : line.receiving = .empty

private theorem Line.Free.not_busy {line : Line} (free : line.Free) : line.isBusy = false := by
  rw [isBusy, free.sending, free.receiving]
  rfl

namespace Link

variable {link : Link}

private theorem free_of_enters {call : Call Link Input} (enters : Enters call) :
    (call.before.act call.input).state.line.Free := by
  obtain ⟨down, up⟩ := enters
  have step := act_step call.before call.input
  generalize (call.before.act call.input).state = next at step up ⊢
  generalize call.input = input at step
  cases step with
  | settles asking least most => exact ⟨rfl, rfl⟩
  | dials rests => cases up
  | asks dialling launched => cases up
  | ends input handset => cases up
  | _ => cases down.symm.trans up

/-- A command that puts nothing under way leaves a free line free. -/
theorem free_of_spares {call : Call Link Input} (spares : Spares call) (free : call.before.line.Free) :
    (call.before.act call.input).state.line.Free := by
  obtain ⟨link, input⟩ := call
  cases input with
  | connect sorcId =>
    have step := step_connect link sorcId
    simp only [act]
    generalize (link.connect sorcId).state = next at step ⊢
    cases step with
    | ends input handset => exact ⟨rfl, rfl⟩
    | _ => exact free
  | close cause =>
    have step := step_close link (.close cause) cause
    simp only [act]
    generalize (link.close cause).state = next at step ⊢
    cases step with
    | ends input handset => exact ⟨rfl, rfl⟩
    | stays input handset => exact free
  | send message =>
    obtain ⟨cause, failed⟩ := spares
    simp only [act, send, offer] at failed ⊢
    split at failed
    · simp at failed
    · next refusal refused =>
      split at refused
      · next connected =>
        simp only [connected, if_true]
        rw [link_of_refused refused]
        exact free
      · next closed =>
        simp only [closed]
        exact free
  | _ => cases spares

private theorem free_of_commands {commands : List Input} (free : link.line.Free)
    (spares : ∀ call ∈ link.history commands, Spares call) : (link.run commands).state.line.Free := by
  induction commands generalizing link with
  | nil => exact free
  | cons command rest ih =>
    obtain ⟨first, others⟩ := List.forall_mem_cons.mp spares
    exact ih (free_of_spares first free) others

/-- A free line is no reason to refuse a message. -/
theorem not_refused_of_free (free : link.line.Free) (message : Bytes) :
    .dataSent (.error .sendingInProgress) ∉ (link.act (.send message)).reports := by
  have accepts : (link.start message).refusal ≠ some .sendingInProgress := by
    intro refused
    rcases start_refused refused with ⟨launched, _⟩ | ⟨_, _, _, _, failed, _⟩
    · rcases (Line.launch_eq_error_iff _ _ _).mp launched with ⟨busy, _⟩ | ⟨_, failed, _⟩
      · cases free.not_busy.symm.trans busy
      · cases failed
    · cases failed
  intro reported
  simp only [act, send, offer] at reported
  split at reported
  · simp at reported
  · next cause refused =>
    simp only [List.mem_singleton, LinkReport.dataSent.injEq, Except.error.injEq] at reported
    subst reported
    split at refused
    · exact accepts refused
    · cases refused

/-- How a link keeps its line in a run. -/
structure KeepsLine (link : Link) (defaultMtu : Nat) (inputs : List Input) : Prop where
  lawful : Lawful defaultMtu (link.run inputs).state
  /-- The limit of a connection does not change as long as the connection lasts. -/
  steady : ∀ earlier later, inputs = earlier ++ later →
    (link.run earlier).state.state.isConnected = true →
    (∀ call ∈ (link.run earlier).state.history later,
      (call.before.act call.input).state.state.isConnected = true) →
    (link.run inputs).state.line.mtu = (link.run earlier).state.line.mtu
  /-- A connection comes up over a free line, which stays free until a message is taken or something is heard
  of the radio; until then none is refused because another one is under way. -/
  free : ∀ earlier entering commands, inputs = earlier ++ entering :: commands →
    Enters ⟨(link.run earlier).state, entering⟩ →
    (∀ call ∈ ((link.run earlier).state.act entering).state.history commands, Spares call) →
    (link.run inputs).state.line.Free ∧
      ∀ message, .dataSent (.error .sendingInProgress) ∉
        ((link.run inputs).state.act (.send message)).reports

/-- Whatever inputs arrive and whatever the radio answers, a link keeps its line in order. -/
theorem keepsLine_of_run (handset : Handset) (defaultMtu : Nat) (inputs : List Input) :
    KeepsLine (new handset defaultMtu) defaultMtu inputs where
  lawful := lawful_of_run handset defaultMtu inputs
  steady := by
    rintro earlier later rfl up lasts
    rw [run, Turn.state_forEach_append]
    exact mtu_of_lasting up lasts
  free := by
    rintro earlier entering commands rfl enters spares
    have free := free_of_commands (free_of_enters enters) spares
    have reached : ((new handset defaultMtu).run (earlier ++ entering :: commands)).state =
        ((((new handset defaultMtu).run earlier).state.act entering).state.run commands).state :=
      Turn.state_forEach_append act _ _ _
    rw [reached]
    exact ⟨free, not_refused_of_free free⟩

end Link

end PhoneKey
