import PhoneKey.Proofs.Line.Reception

/-! # Transmission and its frames

A launched message is written frame by frame, one more with each confirmation and none without, and is
handed back with the confirmation of its last frame. The package was cut when it was launched, so a change of
the limit, frames that arrive and messages that are refused meanwhile have no part in it; the frames that
still wait for their confirmation are all that a run has to keep count of.
-/

namespace PhoneKey

namespace Line

variable {line : Line} {message : Bytes} {frames : List Frame}

/-- The package on its way out while these frames of a message wait for their confirmation. -/
def underway? (message : Bytes) : List Frame → Option Package
  | [] => none
  | frame :: rest => some ⟨message, frame :: rest⟩

/-- What the next confirmation leads to while these frames of a message wait for theirs. -/
def confirmation (message : Bytes) : List Frame → Confirmation
  | [] => .idle
  | [_] => .complete message
  | _ :: frame :: _ => .next frame.toBytes

/-- Whether an input confirms a write. -/
def Input.confirms : Input → Bool
  | .confirm => true
  | _ => false

/-- Whether an input leaves a package on its way out to its confirmations: it neither drops one nor launches
another. -/
def Input.Spares (line : Line) : Input → Prop
  | .dropSending | .reset => False
  | .launch message => ∃ cause, line.launch message = .error cause
  | _ => True

instance (line : Line) : (input : Input) → Decidable (input.Spares line)
  | .launch message =>
    match refused : line.launch message with
    | .error cause => isTrue ⟨cause, refused⟩
    | .ok _ => isFalse fun ⟨_, other⟩ => nomatch refused.symm.trans other
  | .dropSending | .reset => isFalse id
  | .confirm | .withMtu _ | .dropReceiving | .receive _ => isTrue trivial

/-- Every input of a run leaves the package on its way out to its confirmations. -/
def Undisturbed (line : Line) (inputs : List Input) : Prop :=
  ∀ call ∈ Turn.calls act line inputs, call.input.Spares call.before

theorem undisturbed_concat {inputs : List Input} {input : Input} :
    Undisturbed line (inputs ++ [input]) ↔ Undisturbed line inputs ∧ input.Spares (line.run inputs).state := by
  rw [Undisturbed, Turn.calls_concat, List.forall_mem_append, List.forall_mem_singleton]
  rfl

/-! ### One input -/

private theorem confirm_of_underway (sending : line.sending = underway? message frames) :
    line.confirm = (confirmation message frames, { line with sending := underway? message frames.tail }) := by
  obtain ⟨defaultMtu, mtu, package, receiving⟩ := line
  cases sending
  match frames with
  | [] => rfl
  | [_] => rfl
  | _ :: _ :: _ => rfl

private theorem launch_of_refused {cause : LinkError} (refused : line.launch message = .error cause) :
    (line.act (.launch message)).state = line := by
  simp [act, refused, Turn.idle]

/-- A confirmation takes the first frame off those that wait, and nothing else does. -/
theorem sending_act {input : Input} (sending : line.sending = underway? message frames)
    (spares : input.Spares line) :
    (line.act input).state.sending = underway? message (if input.confirms then frames.tail else frames) := by
  cases input with
  | launch other =>
    obtain ⟨cause, refused⟩ := spares
    rw [launch_of_refused refused]
    exact sending
  | confirm =>
    simp only [act, Turn.idle, confirm_of_underway sending]
    rfl
  | receive raw =>
    rcases outcome : line.receive raw with ⟨answer, next⟩
    obtain ⟨receiving, rfl⟩ := receive_frame outcome
    simp only [act, outcome, Turn.report]
    exact sending
  | dropSending => exact spares.elim
  | reset => exact spares.elim
  | withMtu mtu => exact sending
  | dropReceiving => exact sending

/-! ### Runs -/

theorem sending_run {inputs : List Input} (sending : line.sending = underway? message frames)
    (undisturbed : Undisturbed line inputs) :
    (line.run inputs).state.sending = underway? message (frames.drop (inputs.countP Input.confirms)) := by
  induction inputs using List.reverseRecOn with
  | nil => exact sending
  | append_singleton inputs input ih =>
    obtain ⟨earlier, spares⟩ := undisturbed_concat.mp undisturbed
    have step := sending_act (ih earlier) spares
    rw [run, Turn.state_forEach_concat]
    rw [run] at step
    rw [step, List.countP_append, List.countP_singleton]
    split
    · rw [List.tail_drop]
    · rfl

/-- How a line goes on that has launched a message with these frames, of which so many are confirmed. -/
structure Walks (message : Bytes) (frames : List Frame) (confirmed : Nat) (line : Line) : Prop where
  next : ∀ frame, frames[confirmed + 1]? = some frame → line.confirm.1 = .next frame.toBytes
  completes : confirmed + 1 = frames.length → line.confirm.1 = .complete message
  rests : frames.length ≤ confirmed → line.confirm = (.idle, line)
  /-- Until the message is complete no other is launched, and the attempt alters nothing. -/
  refuses : confirmed < frames.length → ∀ other,
    line.launch other = .error .sendingInProgress ∧ (line.act (.launch other)).state = line

private theorem walks_of_underway {confirmed : Nat}
    (sending : line.sending = underway? message (frames.drop confirmed)) :
    Walks message frames confirmed line := by
  have answer := confirm_of_underway sending
  have behind : (frames.drop confirmed)[1]? = frames[confirmed + 1]? := List.getElem?_drop
  have left : (frames.drop confirmed).length = frames.length - confirmed := List.length_drop
  generalize frames.drop confirmed = waiting at sending answer behind left
  refine ⟨fun frame found => ?_, fun last => ?_, fun done => ?_, fun unfinished other => ?_⟩
  · match waiting with
    | [] => cases behind.trans found
    | [_] => cases behind.trans found
    | _ :: next :: _ =>
      obtain rfl := Option.some.inj (behind.trans found)
      rw [answer]
      rfl
  · obtain ⟨frame, rfl⟩ : ∃ frame, waiting = [frame] := List.length_eq_one_iff.mp (by omega)
    rw [answer]
    rfl
  · obtain rfl : waiting = [] := List.length_eq_zero_iff.mp (by omega)
    obtain ⟨defaultMtu, mtu, package, receiving⟩ := line
    cases sending
    exact answer
  · have busy : line.isBusy = true := by
      cases waiting with
      | nil =>
        simp only [List.length_nil] at left
        omega
      | cons frame rest => simp [isBusy, sending, underway?]
    have refused := (launch_eq_error_iff line other .sendingInProgress).mpr (.inl ⟨busy, rfl⟩)
    exact ⟨refused, launch_of_refused refused⟩

/-- What launching a message on a line that is free comes to. -/
structure Launches (line : Line) (message : Bytes) : Prop where
  /-- A message that cannot be cut is refused and leaves the line free. -/
  fails : line.mtu ≤ Frame.headerSize ∨ maxMessageLength < message.length →
    line.launch message = .error .invalidFrame ∧ (line.act (.launch message)).state = line
  /-- Any other is written from its first frame on, and after any inputs that leave it to its confirmations it
  stands where their number says. -/
  walks : Frame.headerSize < line.mtu → message.length ≤ maxMessageLength →
    ∃ first rest launched, Frame.split message (Frame.sizeForMtu line.mtu) = .ok (first :: rest) ∧
      line.launch message = .ok (first.toBytes, launched) ∧
      ∀ inputs, Undisturbed launched inputs →
        Walks message (first :: rest) (inputs.countP Input.confirms) (launched.run inputs).state

/-- On a free line every message that can be cut is walked through frame by frame. -/
theorem launches_of_free (free : line.isBusy = false) (message : Bytes) : Launches line message where
  fails uncut := by
    have roomless : Frame.sizeForMtu line.mtu = 0 ∨ maxMessageLength < message.length :=
      uncut.imp_left fun narrow => Nat.sub_eq_zero_of_le narrow
    have refused := (launch_eq_error_iff line message .invalidFrame).mpr (.inr ⟨free, rfl, roomless⟩)
    exact ⟨refused, launch_of_refused refused⟩
  walks room fits := by
    cases launched : line.launch message with
    | error cause =>
      rcases (launch_eq_error_iff line message cause).mp launched with ⟨busy, -⟩ | ⟨-, -, roomless | large⟩
      · cases free.symm.trans busy
      · exact absurd (Nat.sub_eq_zero_iff_le.mp roomless) (Nat.not_le.mpr room)
      · exact absurd fits (Nat.not_le.mpr large)
    | ok outcome =>
      obtain ⟨raw, next⟩ := outcome
      obtain ⟨_, first, rest, split, rfl, rfl⟩ := launch_eq_ok launched
      refine ⟨first, rest, _, split, rfl, fun inputs undisturbed => ?_⟩
      exact walks_of_underway (sending_run rfl undisturbed)

instance (line : Line) (inputs : List Input) : Decidable (Undisturbed line inputs) :=
  inferInstanceAs (Decidable (∀ call ∈ Turn.calls act line inputs, call.input.Spares call.before))

/-- What may come between the confirmations of a message in three frames: another message before the last
confirmation, a larger limit, a frame that cannot be read, and one that opens a package and so has another
message refused behind the last confirmation too. -/
def interruptions : List Input :=
  [.launch [1], .confirm, .withMtu 100, .receive [0x30], .confirm, .receive [0x10, 0, 9, 0, 7], .confirm,
    .launch [2]]

theorem launches_interrupted :
    let message := List.replicate 40 7
    (new 20).isBusy = false ∧ Launches (new 20) message ∧
      Undisturbed ((new 20).act (.launch message)).state interruptions ∧
      interruptions.countP Input.confirms = 3 ∧
      (((new 20).act (.launch message)).state.run interruptions).state.isBusy = true := by
  refine ⟨rfl, launches_of_free rfl _, ?_⟩
  decide +kernel

end Line

end PhoneKey
