import PhoneKey.Proofs.Channel.Refusal

/-! # What becomes of an accepted message

A message that an established channel does not refuse at once is under way from then on, and no other one
is accepted until something becomes of it. What is reported next is about this message: that it was sent,
by the completion of its last frame, or that one of its frames failed. A connection that ends before takes
the message with it. Messages that are refused in the meantime change none of that.
-/

namespace PhoneKey

/-- What a report for an input tells of a message that was accepted before. That the message which the
input itself brings has failed is no such result. -/
def ChannelReport.result? : Channel.Input → ChannelReport → Option (Except ChannelError Message)
  | .send _, .messageSent (.error _) => none
  | _, .messageSent result => some result
  | _, _ => none

def ChannelReport.isEnd : ChannelReport → Bool
  | .connectionChanged change => change.state.isDisconnected
  | _ => false

namespace Channel

/-- The results that a call reports. -/
def results (call : Call Channel Input) : List (Except ChannelError Message) :=
  (call.before.act call.input).reports.filterMap (ChannelReport.result? call.input)

/-- Whether a call reports the end of the connection. -/
def ends (call : Call Channel Input) : Bool :=
  (call.before.act call.input).reports.any ChannelReport.isEnd

/-- The message that a call brings, unless its failure is reported at once. -/
def brought? (call : Call Channel Input) : Option Message :=
  match call.input with
  | .send message =>
    if (call.before.act call.input).reports.any (failure? · |>.isSome) then none else some message
  | _ => none

/-- The message that waits for its result after one more call. -/
def unresolvedAfter (waiting : Option Message) (call : Call Channel Input) : Option Message :=
  match brought? call with
  | some message => some message
  | none => if (results call).isEmpty && !ends call then waiting else none

/-- The message that was accepted and of which nothing has been reported since, as long as the connection
lasts. -/
def unresolved (calls : List (Call Channel Input)) : Option Message := calls.foldl unresolvedAfter none

/-- The message whose package is under way over an established connection. -/
def underway? (channel : Channel) : Option Message :=
  if channel.state.isConnected && channel.link.line.sending.isSome then channel.inFlight else none

/-- How a result comes about that a call reports of the message that waits for it. -/
inductive Resolves (call : Call Channel Input) (message : Message) : Except ChannelError Message → Prop
  /-- The last frame of the message was written. -/
  | sent {data : Bytes} {line : Line} (confirmed : call.input = .confirm (.ok ()))
      (last : call.before.link.line.confirm = (.complete data, line)) :
      Resolves call message (.ok message)
  /-- The radio failed to write a frame. -/
  | failed {cause : LinkError} (reported : call.input = .confirm (.error cause)) :
      Resolves call message (.error (.link cause))
  /-- The radio declined the next frame. -/
  | declined {frame : Bytes} (confirmed : call.input = .confirm (.ok ()))
      (refused : .radio (.write frame false) ∈ (call.before.act call.input).effects) :
      Resolves call message (.error (.link .writeFailed))

/-- What a channel does with a message that it is to send. -/
inductive Taking (channel : Channel) (message : Message) : Turn Channel ChannelReport → Prop
  | taken {turn : Turn Channel ChannelReport} (free : channel.underway? = none) (silent : turn.reports = [])
      (launched : turn.state.underway? = some message) : Taking channel message turn
  | refused {turn : Turn Channel ChannelReport} {cause : ChannelError}
      (told : turn.reports = [.messageSent (.error cause)])
      (line : turn.state.link.line = channel.link.line)
      (inFlight : channel.link.line.sending.isSome = true → turn.state.inFlight = channel.inFlight)
      (kept : turn.state.underway? = channel.underway?) : Taking channel message turn

/-- What a call means for the message that is under way. -/
inductive Bearing (call : Call Channel Input) : Prop
  | accepts {message : Message} (accepted : brought? call = some message) (silent : results call = [])
      (free : call.before.underway? = none)
      (launched : (call.before.act call.input).state.underway? = some message)
  | resolves {message : Message} {result : Except ChannelError Message} (unaccepted : brought? call = none)
      (told : results call = [result]) (lasts : ends call = false) (resolved : Resolves call message result)
      (flying : call.before.underway? = some message)
      (frees : (call.before.act call.input).state.link.line =
        { call.before.link.line with sending := none })
  | breaks (unaccepted : brought? call = none) (silent : results call = []) (ended : ends call = true)
      (gone : (call.before.act call.input).state.underway? = none)
  | passes (unaccepted : brought? call = none) (silent : results call = []) (lasts : ends call = false)
      (kept : (call.before.act call.input).state.underway? = call.before.underway?)

variable {defaultMtu : Nat} {channel : Channel} {input : Input} {turn : Turn Channel ChannelReport}

private theorem underway?_of_closed (closed : channel.state.isConnected = false) :
    channel.underway? = none := by
  simp [underway?, closed]

private theorem underway?_of_vacant (vacant : channel.link.line.sending = none) :
    channel.underway? = none := by
  simp [underway?, vacant]

private theorem underway?_secured {line : Line} {package : Package} (handset : Handset)
    (credentials : Credentials)
    (context : SealingContext) (inFlight : Option Message) (sending : line.sending = some package) :
    (secured handset line credentials context inFlight).underway? = inFlight := by
  simp [underway?, secured, sending, ConnectionState.isConnected]

/-- What is under way depends on the state, the package on its way out and the message in flight. -/
theorem underway?_congr {other : Channel} (state : other.state = channel.state)
    (sending : other.link.line.sending.isSome = channel.link.line.sending.isSome)
    (inFlight : other.inFlight = channel.inFlight) : other.underway? = channel.underway? := by
  simp only [underway?, state, sending, inFlight]

/-- A message is taken by a free channel, or it is refused. -/
theorem taking_send (lawful : Lawful defaultMtu channel) (message : Message) :
    Taking channel message (channel.act (.send message)) := by
  cases connected : channel.state.isConnected with
  | false =>
    have refused : channel.act (.send message) =
        .report channel (.messageSent (.error (.link .notConnected))) := by
      rw [act, send, connected, if_neg Bool.false_ne_true]
    rw [refused]
    exact .refused rfl rfl (fun _ => rfl) rfl
  | true =>
    cases lawful with
    | @secured line context inFlight handset credentials default limit underway =>
      obtain ⟨offered, spoken⟩ : ∃ offered, offered =
        Link.start ⟨handset, line, .connected credentials.token.sorcId⟩
          (context.encrypt message.toBytes).1 := ⟨_, rfl⟩
      cases outcome : offered.refusal with
      | none =>
        have sent : (secured handset line credentials context inFlight).act (.send message) =
            (secured handset line credentials context inFlight).transmit message := rfl
        obtain ⟨frame, next, launched, _, same⟩ := Link.start_taken (spoken ▸ outcome)
        obtain ⟨free, first, rest, _, _, rfl⟩ := Line.launch_eq_ok launched
        have vacant : line.sending = none := Line.sending_of_not_busy free
        rw [sent, transmit_of_taken rfl rfl spoken outcome, spoken, same]
        exact .taken (underway?_of_vacant vacant) rfl rfl
      | some cause =>
        have kept : line.sending.isSome = true → inFlightAfter inFlight cause = inFlight := by
          intro busy
          obtain ⟨package, sending⟩ := Option.isSome_iff_exists.mp busy
          exact if_pos (Link.refusal_of_sending (spoken ▸ outcome) sending)
        rw [send_of_refused spoken outcome]
        refine .refused rfl rfl kept ?_
        cases busy : line.sending.isSome with
        | true => exact underway?_congr rfl rfl (kept busy)
        | false => simp [underway?, secured, busy]
    | _ => cases connected

/-! ## What a call reports -/

private theorem brought?_of_unsent (unsent : ∀ message, input ≠ .send message) :
    brought? ⟨channel, input⟩ = none := by
  cases input with
  | send message => exact absurd rfl (unsent message)
  | _ => rfl

private theorem results_of_silent (silent : ∀ result, .messageSent result ∉ (channel.act input).reports) :
    results ⟨channel, input⟩ = [] := by
  refine List.filterMap_eq_nil_iff.mpr fun report member => ?_
  cases report with
  | messageSent result => exact absurd member (silent result)
  | _ => cases input <;> rfl

private theorem Resolves.unsent {message asked : Message} {result : Except ChannelError Message}
    (resolves : Resolves ⟨channel, input⟩ message result) : input ≠ .send asked := by
  cases resolves with
  | sent confirmed => exact fun sends => nomatch confirmed.symm.trans sends
  | failed reported => exact fun sends => nomatch reported.symm.trans sends
  | declined confirmed => exact fun sends => nomatch confirmed.symm.trans sends

private theorem Bearing.of_taking {message : Message}
    (taking : Taking channel message (channel.act (.send message))) :
    Bearing ⟨channel, .send message⟩ := by
  cases taking with
  | taken free silent launched =>
    refine @Bearing.accepts _ message ?_ ?_ free launched
    · simp [brought?, silent]
    · simp [results, silent]
  | refused told line inFlight kept =>
    refine .passes ?_ ?_ ?_ kept
    · simp [brought?, told, failure?]
    · simp [results, told, ChannelReport.result?]
    · simp [ends, told, ChannelReport.isEnd]

private theorem Bearing.of_resolves {message : Message} {result : Except ChannelError Message}
    (same : channel.act input = turn) (resolved : Resolves ⟨channel, input⟩ message result)
    (told : turn.reports = [.messageSent result]) (flying : channel.underway? = some message)
    (frees : turn.state.link.line = { channel.link.line with sending := none }) :
    Bearing ⟨channel, input⟩ := by
  subst same
  refine .resolves (brought?_of_unsent fun _ => resolved.unsent) ?_ ?_ resolved flying frees
  · rw [results, told]
    cases input with
    | send asked => exact absurd rfl resolved.unsent
    | _ => rfl
  · simp [ends, told, ChannelReport.isEnd]

private theorem Bearing.of_break (same : channel.act input = turn) (unsent : ∀ message, input ≠ .send message)
    (silent : ∀ result, .messageSent result ∉ turn.reports)
    (ended : turn.reports.any ChannelReport.isEnd = true) (gone : turn.state.underway? = none) :
    Bearing ⟨channel, input⟩ := by
  subst same
  exact .breaks (brought?_of_unsent unsent) (results_of_silent silent) ended gone

private theorem Bearing.of_passing (same : channel.act input = turn)
    (unsent : ∀ message, input ≠ .send message) (silent : ∀ result, .messageSent result ∉ turn.reports)
    (lasts : turn.reports.any ChannelReport.isEnd = false)
    (kept : turn.state.underway? = channel.underway?) : Bearing ⟨channel, input⟩ := by
  subst same
  exact .passes (brought?_of_unsent unsent) (results_of_silent silent) lasts kept

/-- Any other transition of a lawful channel resolves the message under way, breaks off with it, or leaves
it alone. -/
theorem Transition.bearing (lawful : Lawful defaultMtu channel)
    (transition : Transition defaultMtu channel input turn) (same : channel.act input = turn)
    (unsent : ∀ message, input ≠ .send message) : Bearing ⟨channel, input⟩ := by
  cases transition with
  | idle quiet => exact .of_passing same unsent (by simp [Turn.idle]) rfl rfl
  | unconnected message closed => exact absurd rfl (unsent message)
  | dials handset credentials => exact .of_passing same unsent (by simp) rfl rfl
  | redials handset sameSorc => exact .of_passing same unsent (by simp) rfl rfl
  | asks asked taken => exact .of_passing same unsent (by simp) rfl rfl
  | asksInVain asked refused => exact .of_break same unsent (by simp) rfl rfl
  | ends grounds => exact .of_break same unsent (by simp [ended]) rfl rfl
  | proceeds confirmed =>
    obtain ⟨package, _, sending, _, _, rfl⟩ := Line.confirm_eq_next confirmed
    exact .of_passing same unsent (by simp) rfl (underway?_congr rfl (by rw [sending]; rfl) rfl)
  | breaksOff confirmed closed grounds => exact .of_break same unsent (by simp [ended, Turn.after]) rfl rfl
  | collects listening received quiet =>
    obtain ⟨receiving, rfl⟩ := Line.receive_frame received
    exact .of_passing same unsent (by simp) rfl rfl
  | waits confirmed closed keyless =>
    refine .of_passing same unsent (by simp) rfl ?_
    rw [underway?_of_closed closed, underway?_of_closed]
    exact closed
  | opens received kind told limit spoken taken => exact .of_passing same unsent (by simp) rfl rfl
  | opensInVain received spoken refused => exact .of_break same unsent (by simp) rfl rfl
  | replies received reply spoken taken => exact .of_passing same unsent (by simp) rfl rfl
  | givesUp received kind spoken => exact .of_break same unsent (by simp [ended, Turn.after]) rfl rfl
  | establishes confirmed =>
    obtain ⟨_, _, _, rfl⟩ := Line.confirm_eq_complete confirmed
    exact .of_passing same unsent (by simp) rfl rfl
  | seals spoken taken => exact absurd rfl (unsent _)
  | refuses spoken refused => exact absurd rfl (unsent _)
  | @delivers handset line next credentials context message data confirmed =>
    have last : (secured handset line credentials context (some message)).link.line.confirm =
      (.complete data, next) := confirmed
    obtain ⟨package, sending, _, rfl⟩ := Line.confirm_eq_complete confirmed
    have flying := underway?_secured handset credentials context (some message) sending
    exact .of_resolves same (.sent rfl last) rfl flying rfl
  | @loses handset line credentials context inFlight cause sending =>
    obtain ⟨package, held⟩ := Option.ne_none_iff_exists'.mp sending
    obtain ⟨message, rfl⟩ := Option.isSome_iff_exists.mp ((lawful_secured_iff.mp lawful).2.2 package held).2
    have flying := underway?_secured handset credentials context (some message) held
    exact .of_resolves same (.failed rfl) rfl flying rfl
  | @declines handset line next credentials context inFlight frame confirmed =>
    obtain ⟨package, _, held, _, _, rfl⟩ := Line.confirm_eq_next confirmed
    obtain ⟨message, rfl⟩ := Option.isSome_iff_exists.mp ((lawful_secured_iff.mp lawful).2.2 package held).2
    have flying := underway?_secured handset credentials context (some message) held
    have refused : .radio (.write frame false) ∈
        ((secured handset line credentials context (some message)).act (.confirm (.ok ()))).effects := by
      rw [same]
      exact List.mem_singleton_self _
    exact .of_resolves same (.declined rfl refused) rfl flying rfl
  | hears received unprotected =>
    obtain ⟨receiving, rfl⟩ := Line.receive_frame received
    exact .of_passing same unsent (by simp) rfl rfl
  | mishears cause result kept =>
    refine .of_passing same unsent (by simp) rfl (underway?_congr rfl ?_ rfl)
    rw [kept]
    rfl

/-- What a call of a lawful channel means for the message under way. -/
theorem bearing_act (lawful : Lawful defaultMtu channel) (input : Input) : Bearing ⟨channel, input⟩ := by
  by_cases sends : ∃ message, input = .send message
  · obtain ⟨message, rfl⟩ := sends
    exact .of_taking (taking_send lawful message)
  · exact (act_transition lawful input).bearing lawful rfl fun message asked => sends ⟨message, asked⟩

/-! ## What a run reports -/

theorem unresolved_concat (calls : List (Call Channel Input)) (call : Call Channel Input) :
    unresolved (calls ++ [call]) = unresolvedAfter (unresolved calls) call := by
  simp [unresolved]

private theorem underway?_of_frees {other : Channel}
    (frees : other.link.line = { channel.link.line with sending := none }) : other.underway? = none := by
  refine underway?_of_vacant ?_
  rw [frees]

private theorem Bearing.unresolvedAfter {call : Call Channel Input} (bearing : Bearing call) :
    unresolvedAfter call.before.underway? call = (call.before.act call.input).state.underway? := by
  cases bearing with
  | accepts accepted silent free launched => simp [Channel.unresolvedAfter, accepted, launched]
  | resolves unaccepted told lasts resolved flying frees =>
    simp [Channel.unresolvedAfter, unaccepted, told, underway?_of_frees frees]
  | breaks unaccepted silent ended gone => simp [Channel.unresolvedAfter, unaccepted, silent, ended, gone]
  | passes unaccepted silent lasts kept => simp [Channel.unresolvedAfter, unaccepted, silent, lasts, kept]

/-- A message is taken only if none is under way, and is under way itself then. -/
theorem Bearing.brought {call : Call Channel Input} (bearing : Bearing call) {message : Message}
    (accepted : brought? call = some message) :
    call.before.underway? = none ∧ (call.before.act call.input).state.underway? = some message := by
  cases bearing with
  | accepts made silent free launched => exact ⟨free, launched.trans (made.symm.trans accepted)⟩
  | resolves unaccepted told lasts resolved flying frees => cases unaccepted.symm.trans accepted
  | breaks unaccepted silent ended gone => cases unaccepted.symm.trans accepted
  | passes unaccepted silent lasts kept => cases unaccepted.symm.trans accepted

/-- A result is that of the message under way, and frees the line. -/
theorem Bearing.reported {call : Call Channel Input} (bearing : Bearing call)
    {result : Except ChannelError Message} (reported : result ∈ results call) :
    ∃ message, call.before.underway? = some message ∧ Resolves call message result ∧
      (call.before.act call.input).state.link.line = { call.before.link.line with sending := none } := by
  cases bearing with
  | @resolves message made unaccepted told lasts resolved flying frees =>
    rw [told] at reported
    obtain rfl := List.mem_singleton.mp reported
    exact ⟨message, flying, resolved, frees⟩
  | accepts accepted silent free launched => cases silent ▸ reported
  | breaks unaccepted silent ended gone => cases silent ▸ reported
  | passes unaccepted silent lasts kept => cases silent ▸ reported

/-- The message that waits for its result is the one whose package is under way. -/
theorem unresolved_of_run (handset : Handset) (defaultMtu : Nat) (inputs : List Input) :
    unresolved ((atRest handset defaultMtu).history inputs) =
      ((atRest handset defaultMtu).run inputs).state.underway? := by
  refine lawful_run_induction (motive := fun calls channel => unresolved calls = channel.underway?) rfl ?_
    inputs
  intro calls channel input lawful known
  rw [unresolved_concat, known]
  exact (bearing_act lawful input).unresolvedAfter

/-- Neither takes a call another message nor does it end the connection. -/
def Waits (call : Call Channel Input) : Prop := brought? call = none ∧ ends call = false

/-- While a lawful channel takes no other message and stays connected, it reports one result at most, of the
message under way. -/
theorem results_of_waits (lawful : Lawful defaultMtu channel) {inputs : List Input}
    (waits : ∀ call ∈ channel.history inputs, Waits call) :
    (channel.history inputs).flatMap results = [] ∨
      ∃ message, channel.underway? = some message ∧ ∃ call ∈ channel.history inputs, ∃ result,
        Resolves call message result ∧ (channel.history inputs).flatMap results = [result] := by
  induction inputs generalizing channel with
  | nil => exact .inl rfl
  | cons input rest ih =>
    have following := lawful_of_transition lawful (act_transition lawful input)
    have split : channel.history (input :: rest) =
      ⟨channel, input⟩ :: (channel.act input).state.history rest := rfl
    rw [split] at waits ⊢
    obtain ⟨⟨unaccepted, lasts⟩, later⟩ := List.forall_mem_cons.mp waits
    have remainder := ih following later
    rw [List.flatMap_cons]
    cases bearing_act lawful input with
    | accepts accepted silent free launched => cases unaccepted.symm.trans accepted
    | breaks unaccepted silent ended gone => cases lasts.symm.trans ended
    | resolves unaccepted told lasts resolved flying frees =>
      have vacant := underway?_of_frees frees
      rcases remainder with quiet | ⟨_, flying', _⟩
      · refine .inr ⟨_, flying, _, List.mem_cons_self, _, resolved, ?_⟩
        rw [told, quiet, List.append_nil]
      · cases vacant.symm.trans flying'
    | passes unaccepted silent lasts kept =>
      rw [silent, List.nil_append]
      rcases remainder with quiet | ⟨message, flying, call, made, result, resolved, told⟩
      · exact .inl quiet
      · exact .inr ⟨message, kept.symm.trans flying, call, List.mem_cons_of_mem _ made, result, resolved, told⟩

/-- How the results that calls report belong to the messages that the calls brought. -/
structure Attributed (calls : List (Call Channel Input)) : Prop where
  /-- Before another message is accepted or the connection ends, an accepted message gets one result at
  most, and it is its own. -/
  once : ∀ earlier call message later rest, calls = earlier ++ call :: (later ++ rest) →
    brought? call = some message → (∀ other ∈ later, Waits other) →
    later.flatMap results = [] ∨
      ∃ other ∈ later, ∃ result, Resolves other message result ∧ later.flatMap results = [result]
  /-- What is reported is the result of the message that waits for it, and the line is free again. -/
  resolves : ∀ earlier call later, calls = earlier ++ call :: later → ∀ result ∈ results call,
    ∃ message, unresolved earlier = some message ∧ Resolves call message result ∧
      (call.before.act call.input).state.link.line = { call.before.link.line with sending := none }
  /-- A message is accepted only while no other one waits, and then waits itself. -/
  accepts : ∀ earlier call later message, calls = earlier ++ call :: later →
    brought? call = some message → unresolved earlier = none ∧ unresolved (earlier ++ [call]) = some message
  /-- A refused message changes neither the package under way nor the message of which is reported later. -/
  refuses : ∀ earlier call later message, calls = earlier ++ call :: later → call.input = .send message →
    brought? call = none →
    (∃ cause, (call.before.act call.input).reports = [.messageSent (.error cause)]) ∧
      (call.before.act call.input).state.link.line = call.before.link.line ∧
      (call.before.link.line.sending.isSome = true →
        (call.before.act call.input).state.inFlight = call.before.inFlight) ∧
      unresolved (earlier ++ [call]) = unresolved earlier

variable {handset : Handset} {inputs : List Input} {earlier later : List (Call Channel Input)}
  {call : Call Channel Input}

/-- What a call of a run found, and what waits for its result before and after it. -/
theorem found_of_split (split : (atRest handset defaultMtu).history inputs = earlier ++ call :: later) :
    Lawful defaultMtu call.before ∧ unresolved earlier = call.before.underway? ∧
      unresolved (earlier ++ [call]) = (call.before.act call.input).state.underway? := by
  obtain ⟨before, rest, rfl, found, made, -⟩ := Turn.calls_eq_append_cons act split
  have waiting : unresolved (Turn.calls act (atRest handset defaultMtu) before) = call.before.underway? := by
    rw [found]
    exact unresolved_of_run handset defaultMtu before
  have lawful : Lawful defaultMtu call.before := by
    rw [found]
    exact lawful_of_run handset defaultMtu before
  refine ⟨lawful, waiting, ?_⟩
  rw [unresolved_concat, waiting]
  exact (bearing_act lawful call.input).unresolvedAfter

/-- What a run reports of its messages belongs to the right ones. -/
theorem attributed_of_run (handset : Handset) (defaultMtu : Nat) (inputs : List Input) :
    Attributed ((atRest handset defaultMtu).history inputs) := by
  constructor
  case once =>
    intro earlier call message later rest split accepted waits
    obtain ⟨lawful, -, -⟩ := found_of_split split
    obtain ⟨-, remaining, -, -, -, following⟩ := Turn.calls_eq_append_cons act split
    obtain ⟨first, -, -, rfl, -⟩ := Turn.calls_eq_append act following.symm
    have next := lawful_of_transition lawful (act_transition lawful call.input)
    obtain ⟨-, launched⟩ := (bearing_act lawful call.input).brought accepted
    refine (results_of_waits next waits).imp_right ?_
    rintro ⟨flying, known, resolved⟩
    obtain rfl : flying = message := Option.some.inj (known.symm.trans launched)
    exact resolved
  case resolves =>
    intro earlier call later split result reported
    obtain ⟨lawful, waiting, -⟩ := found_of_split split
    obtain ⟨message, flying, resolved, frees⟩ := (bearing_act lawful call.input).reported reported
    exact ⟨message, waiting.trans flying, resolved, frees⟩
  case accepts =>
    intro earlier call later message split accepted
    obtain ⟨lawful, before, after⟩ := found_of_split split
    obtain ⟨free, launched⟩ := (bearing_act lawful call.input).brought accepted
    exact ⟨before.trans free, after.trans launched⟩
  case refuses =>
    rintro earlier ⟨channel, input⟩ later message split rfl refused
    obtain ⟨lawful, before, after⟩ := found_of_split split
    cases taking_send lawful message with
    | taken free silent launched => simp [brought?, silent] at refused
    | refused told line inFlight kept =>
      exact ⟨⟨_, told⟩, line, inFlight, after.trans (kept.trans before.symm)⟩

end Channel

end PhoneKey
