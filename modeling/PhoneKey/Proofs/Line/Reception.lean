import Mathlib.Data.List.DropRight
import PhoneKey.Proofs.Frame.Codec
import PhoneKey.Proofs.Run

/-! # Reception and its reference

Which messages a line hands over is fixed by the bytes that arrive: a readable frame adds its payload, a
closing one hands over all payloads since the last message, error or reset, and an unreadable one throws
them away. Nothing that is sent, confirmed or set in between has a part in it, and nothing that is received
touches the package on its way out. Behind an error the line is as good as new: the next package comes
through whole.
-/

namespace PhoneKey

namespace Frame

/-- Without its first frame, the rest of a package is a package with the rest of the message. -/
theorem Whole.tail {message : Bytes} {frame last : Frame} {opening : List Frame}
    (whole : Whole message (frame :: opening) last) :
    ∃ rest, message = frame.payload ++ rest ∧ Whole rest opening last := by
  refine ⟨(opening ++ [last]).flatMap Frame.payload, ?_, ?_⟩
  · rw [← whole.payloads, List.cons_append, List.flatMap_cons]
  · exact ⟨(List.forall_mem_cons.mp whole.leaves).2, whole.closes, rfl,
      (List.forall_mem_cons.mp whole.plain).2⟩

end Frame

namespace Line

/-- What a line does with received bytes, in terms of the bytes alone. -/
theorem receive_eq (line : Line) (raw : Bytes) :
    line.receive raw =
      if Frame.Readable raw then
        if Frame.Closing raw then
          (.ok (some (line.receiving.collected ++ Frame.body raw)), { line with receiving := .empty })
        else (.ok none, { line with receiving := line.receiving.append (Frame.body raw) })
      else (.error .invalidFrame, { line with receiving := .empty }) := by
  by_cases readable : Frame.Readable raw
  · obtain ⟨frame, read, payload, closes⟩ := Frame.exists_ofBytes_of_readable readable
    by_cases closing : Frame.Closing raw
    · simp [receive, read, Assembler.push, closes.mpr closing, readable, closing, payload]
    · have leaves : frame.type.closes = false := by simpa [closing] using closes
      simp [receive, read, Assembler.push, leaves, readable, closing, payload]
  · cases read : Frame.ofBytes raw with
    | ok frame => exact absurd (Frame.readable_of_ofBytes read) readable
    | error cause => simp [receive, read, readable, LinkError.ofFrame, dropReceiving]

/-- Whether received bytes complete a message: they close the package that is being received. -/
def Completes (line : Line) (raw message : Bytes) : Prop :=
  Frame.Readable raw ∧ Frame.Closing raw ∧ message = line.receiving.collected ++ Frame.body raw

instance (line : Line) (raw message : Bytes) : Decidable (line.Completes raw message) :=
  inferInstanceAs (Decidable (_ ∧ _ ∧ _))

theorem receive_eq_some_iff (line : Line) (raw message : Bytes) :
    (line.receive raw).1 = .ok (some message) ↔ line.Completes raw message := by
  rw [receive_eq, Completes]
  split
  · split <;> simp_all [eq_comm]
  · simp_all

theorem receive_eq_none_iff (line : Line) (raw : Bytes) :
    (line.receive raw).1 = .ok none ↔ Frame.Readable raw ∧ ¬ Frame.Closing raw := by
  rw [receive_eq]
  split
  · split <;> simp_all
  · simp_all

theorem receive_eq_error_iff (line : Line) (raw : Bytes) (cause : LinkError) :
    (line.receive raw).1 = .error cause ↔ ¬ Frame.Readable raw ∧ cause = .invalidFrame := by
  rw [receive_eq]
  split
  · split <;> simp_all
  · simp_all [eq_comm]

/-- Completing a message leaves a line on which nothing is being received. -/
theorem receive_of_completes {line : Line} {raw message : Bytes} (completes : line.Completes raw message) :
    line.receive raw = (.ok (some message), { line with receiving := .empty }) := by
  obtain ⟨readable, closing, same⟩ := completes
  rw [receive_eq, if_pos readable, if_pos closing, same]

/-- Anything that can be done with a line. -/
inductive Input where
  | launch (message : Bytes)
  | confirm
  | withMtu (mtu : Nat)
  | dropSending
  | dropReceiving
  | reset
  | receive (raw : Bytes)

/-- One input, with the answer to what was received. -/
def act (line : Line) : Input → Turn Line (Except LinkError (Option Bytes))
  | .launch message =>
    match line.launch message with
    | .ok (_, next) => .idle next
    | .error _ => .idle line
  | .confirm => .idle line.confirm.2
  | .withMtu mtu => .idle (line.withMtu mtu)
  | .dropSending => .idle line.dropSending.2
  | .dropReceiving => .idle line.dropReceiving
  | .reset => .idle line.reset
  | .receive raw => .report (line.receive raw).2 (line.receive raw).1

def run (line : Line) (inputs : List Input) : Turn Line (Except LinkError (Option Bytes)) :=
  .forEach act line inputs

/-- The bytes that an input brings, if it brings any. -/
def Input.received? : Input → Option Bytes
  | .receive raw => some raw
  | _ => none

/-- Whether nothing that arrived so far belongs to the message that arrives next: a message was completed,
or what was collected was thrown away. -/
def Input.breaks : Input → Bool
  | .receive raw => !decide (Frame.Readable raw) || decide (Frame.Closing raw)
  | .dropReceiving => true
  | .reset => true
  | _ => false

/-- The payload that an input brings. -/
def Input.payload (input : Input) : Bytes := (input.received?.map Frame.body).getD []

/-- The payloads of all frames since the last message, error or reset, in order. -/
def gathered (inputs : List Input) : Bytes :=
  (inputs.rtakeWhile fun input => !input.breaks).flatMap Input.payload

theorem gathered_concat (inputs : List Input) (input : Input) :
    gathered (inputs ++ [input]) = if input.breaks then [] else gathered inputs ++ input.payload := by
  cases breaks : input.breaks with
  | true => simp [gathered, breaks]
  | false => simp [gathered, breaks]

private theorem receiving_launch (line : Line) (message : Bytes) :
    (line.act (.launch message)).state.receiving = line.receiving := by
  simp only [act]
  split
  · next launched =>
    obtain ⟨_, _, _, _, _, rfl⟩ := launch_eq_ok launched
    rfl
  · rfl

private theorem receiving_confirm (line : Line) : line.confirm.2.receiving = line.receiving := by
  rcases outcome : line.confirm with ⟨progress, next⟩
  cases progress with
  | next frame =>
    obtain ⟨_, _, _, _, _, rfl⟩ := confirm_eq_next outcome
    rfl
  | complete message =>
    obtain ⟨_, _, _, rfl⟩ := confirm_eq_complete outcome
    rfl
  | idle => rw [(confirm_eq_idle outcome).2]

/-- What one input does to the bytes that are being collected. -/
theorem collected_act (line : Line) (input : Input) :
    (line.act input).state.receiving.collected =
      if input.breaks then [] else line.receiving.collected ++ input.payload := by
  cases input with
  | launch message => simp [receiving_launch, Input.breaks, Input.payload, Input.received?]
  | confirm => simp [act, Turn.idle, receiving_confirm, Input.breaks, Input.payload, Input.received?]
  | withMtu mtu => simp [act, Turn.idle, withMtu, Input.breaks, Input.payload, Input.received?]
  | dropSending => simp [act, Turn.idle, dropSending, Input.breaks, Input.payload, Input.received?]
  | dropReceiving => rfl
  | reset => rfl
  | receive raw =>
    simp only [act, Turn.report, receive_eq, Input.breaks, Input.payload, Input.received?]
    by_cases readable : Frame.Readable raw
    · by_cases closing : Frame.Closing raw
      · simp [readable, closing]
      · simp [readable, closing]
    · simp [readable]

/-- A line collects what its inputs brought since the last message, error or reset. -/
theorem collected_run (defaultMtu : Nat) (inputs : List Input) :
    ((new defaultMtu).run inputs).state.receiving.collected = gathered inputs := by
  induction inputs using List.reverseRecOn with
  | nil => rfl
  | append_singleton inputs input ih =>
    rw [run, Turn.state_forEach_concat, collected_act, gathered_concat]
    rw [run] at ih
    rw [ih]

private theorem act_receive_of_closes {frame : Frame} (closes : frame.type.closes = true) (line : Line) :
    line.act (.receive frame.toBytes) =
      .report { line with receiving := .empty }
        (.ok (some (line.receiving.collected ++ frame.payload))) := by
  simp only [act, receive_eq, Frame.readable_toBytes, if_true, Frame.closing_toBytes_iff, closes,
    Frame.body_toBytes]

private theorem act_receive_of_leaves {frame : Frame} (leaves : frame.type.closes = false) (line : Line) :
    line.act (.receive frame.toBytes) =
      .report { line with receiving := line.receiving.append frame.payload } (.ok none) := by
  simp only [act, receive_eq, Frame.readable_toBytes, if_true, Frame.closing_toBytes_iff, leaves,
    Frame.body_toBytes, Bool.false_eq_true, if_false]

theorem run_cons (line : Line) (input : Input) (rest : List Input) :
    (line.run (input :: rest)).reports =
      (line.act input).reports ++ ((line.act input).state.run rest).reports := rfl

/-- Only what is received is answered. -/
theorem reports_act_of_silent {input : Input} (silent : input.received? = none) (line : Line) :
    (line.act input).reports = [] := by
  cases input with
  | launch message =>
    simp only [act]
    split <;> rfl
  | receive raw => cases silent
  | _ => rfl

private theorem reports_run_of_silent {inputs : List Input} (silent : inputs.filterMap Input.received? = [])
    (line : Line) : (line.run inputs).reports = [] := by
  induction inputs generalizing line with
  | nil => rfl
  | cons input rest ih =>
    cases received : input.received? with
    | some raw => simp [received] at silent
    | none =>
      rw [List.filterMap_cons_none received] at silent
      rw [run_cons, reports_act_of_silent received, ih silent, List.append_nil]

private theorem collected_act_of_calm {input : Input} (silent : input.received? = none)
    (calm : input.breaks = false) (line : Line) :
    (line.act input).state.receiving.collected = line.receiving.collected := by
  simp [collected_act, calm, Input.payload, silent]

/-- The frames of one package, one after the other, between inputs that neither receive nor throw anything
away: the last is answered with the message, the ones before with nothing. -/
theorem reports_of_package {message : Bytes} {opening : List Frame} {last : Frame}
    (whole : Frame.Whole message opening last) {inputs : List Input}
    (brought : inputs.filterMap Input.received? = (opening ++ [last]).map Frame.toBytes)
    (calm : ∀ input ∈ inputs, input.received? = none → input.breaks = false) (line : Line) :
    (line.run inputs).reports =
      List.replicate opening.length (.ok none) ++ [.ok (some (line.receiving.collected ++ message))] := by
  induction inputs generalizing line opening message with
  | nil => simp at brought
  | cons input rest ih =>
    obtain ⟨undisturbed, later⟩ := List.forall_mem_cons.mp calm
    cases received : input.received? with
    | none =>
      rw [List.filterMap_cons_none received] at brought
      have kept := collected_act_of_calm received (undisturbed received) line
      rw [run_cons, reports_act_of_silent received, ih whole brought later, kept, List.nil_append]
    | some raw =>
      obtain rfl : input = .receive raw := by
        cases input with
        | receive other => exact congrArg Input.receive (Option.some.inj received)
        | _ => cases received
      rw [List.filterMap_cons_some received] at brought
      cases opening with
      | nil =>
        obtain ⟨rfl, done⟩ := List.cons_eq_cons.mp brought
        have payload : last.payload = message := by simpa using whole.payloads
        rw [run_cons, act_receive_of_closes whole.closes, reports_run_of_silent done, payload]
        rfl
      | cons frame opening =>
        obtain ⟨rfl, others⟩ := List.cons_eq_cons.mp brought
        obtain ⟨remaining, rfl, behind⟩ := whole.tail
        have leaves := whole.leaves frame List.mem_cons_self
        rw [run_cons, act_receive_of_leaves leaves, Turn.report, ih behind others later,
          Assembler.collected_append, List.append_assoc]
        rfl

/-- How a line answers some bytes after earlier inputs: as its reference says, by itself, and with no
memory of what an error threw away. -/
structure Follows (line : Line) (earlier : List Input) (raw : Bytes) : Prop where
  /-- Unreadable bytes, and nothing else, are an error, and always the same one. -/
  rejects : ∀ cause, (line.receive raw).1 = .error cause ↔ ¬ Frame.Readable raw ∧ cause = .invalidFrame
  /-- A closing frame hands over what was gathered with its own payload at the end. -/
  completes : ∀ message, (line.receive raw).1 = .ok (some message) ↔
    Frame.Readable raw ∧ Frame.Closing raw ∧ message = gathered earlier ++ Frame.body raw
  collects : (line.receive raw).1 = .ok none ↔ Frame.Readable raw ∧ ¬ Frame.Closing raw
  /-- The package on its way out and the limits stay as they are. -/
  keeps : (line.receive raw).2 = { line with receiving := (line.receive raw).2.receiving }
  /-- Behind an error, the next package is answered with its message at the last frame and with nothing
  before, whatever is sent or set in between. -/
  recovers : ¬ Frame.Readable raw → ∀ message size frames, Frame.split message size = .ok frames →
    ∀ later : List Input, later.filterMap Input.received? = frames.map Frame.toBytes →
      .dropReceiving ∉ later → .reset ∉ later →
        ((line.receive raw).2.run later).reports =
          List.replicate (frames.length - 1) (.ok none) ++ [.ok (some message)]

/-- Reception follows its reference, after any inputs to a new line and for any bytes. -/
theorem receive_follows (defaultMtu : Nat) (earlier : List Input) (raw : Bytes) :
    ((new defaultMtu).run earlier).state.Follows earlier raw := by
  have collected := collected_run defaultMtu earlier
  generalize ((new defaultMtu).run earlier).state = line at collected ⊢
  refine ⟨line.receive_eq_error_iff raw, ?_, line.receive_eq_none_iff raw, ?_, ?_⟩
  · intro message
    rw [receive_eq_some_iff, Completes, collected]
  · rcases outcome : line.receive raw with ⟨answer, next⟩
    obtain ⟨receiving, rfl⟩ := receive_frame outcome
    rfl
  · intro garbage message size frames split later brought kept unreset
    have room : 0 < size ∧ message.length ≤ maxMessageLength := by
      have uncut := mt (Frame.split_eq_error_iff message size).mpr (by simp [split])
      omega
    obtain ⟨opening, last, same, whole⟩ := Frame.split_whole room.1 room.2
    cases split.symm.trans same
    have calm : ∀ input ∈ later, input.received? = none → input.breaks = false := by
      rintro (_ | _ | _ | _ | _ | _ | _) member silent
      case dropReceiving => exact absurd member kept
      case reset => exact absurd member unreset
      case receive => cases silent
      all_goals rfl
    rw [receive_eq, if_neg garbage, reports_of_package whole brought calm]
    simp

end Line

end PhoneKey
