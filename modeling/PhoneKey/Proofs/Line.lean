import PhoneKey.Line

/-! # Packages under way

A package in transit holds the last part of the frames of its message, and never none of them. Every
operation of a line keeps that: launching starts with all frames, a confirmation takes the first one off
and either names the next frame or completes the message.
-/

namespace PhoneKey

namespace Frame

/-- Whether some bytes are a frame of a package that carries a message. -/
def Carries (raw message : Bytes) : Prop :=
  ∃ size frames, split message size = .ok frames ∧ ∃ frame ∈ frames, raw = frame.toBytes

/-- Whether some bytes are the frame that opens a package with a message. -/
def Opens (raw message : Bytes) : Prop :=
  ∃ size first rest, split message size = .ok (first :: rest) ∧ raw = first.toBytes

theorem Opens.carries {raw message : Bytes} (opens : Opens raw message) : Carries raw message := by
  obtain ⟨size, first, rest, split, same⟩ := opens
  exact ⟨size, first :: rest, split, first, List.mem_cons_self, same⟩

private theorem ofPieces_ne_nil (total : Nat) (pieces : List Bytes) : ofPieces total pieces ≠ [] := by
  match pieces with
  | [] => simp [ofPieces]
  | [piece] => simp [ofPieces]
  | piece :: next :: rest => simp [ofPieces]

/-- A message that can be sent at all makes at least one frame. -/
theorem ne_nil_of_split {message : Bytes} {size : Nat} {frames : List Frame}
    (split : Frame.split message size = .ok frames) : frames ≠ [] := by
  cases size with
  | zero => cases split
  | succ size =>
    simp only [Frame.split] at split
    split at split
    · cases split
    · cases split
      exact ofPieces_ne_nil _ _

/-- A message cannot be cut when frames have no room, or when its length does not fit the header. -/
theorem split_eq_error_iff (message : Bytes) (size : Nat) :
    (∃ cause, split message size = .error cause) ↔ size = 0 ∨ maxMessageLength < message.length := by
  cases size with
  | zero => simp [split]
  | succ size =>
    by_cases large : maxMessageLength < message.length
    · simp [split, large]
    · simp [split, large]

end Frame

/-- A package as it is in transit over a line with some limit. -/
structure Package.Underway (package : Package) (mtu : Nat) : Prop where
  suffix : ∃ frames, Frame.split package.message (Frame.sizeForMtu mtu) = .ok frames ∧
    package.pending <:+ frames
  unfinished : package.pending ≠ []

namespace Package.Underway

/-- A frame that still waits for its confirmation is a frame of the message. -/
theorem carries {package : Package} {mtu : Nat} (underway : package.Underway mtu) {frame : Frame}
    (member : frame ∈ package.pending) : Frame.Carries frame.toBytes package.message := by
  obtain ⟨frames, split, suffix⟩ := underway.suffix
  exact ⟨_, frames, split, frame, suffix.mem member, rfl⟩

private theorem confirm {package : Package} {mtu : Nat} (underway : package.Underway mtu)
    (unfinished : package.confirm.pending ≠ []) : package.confirm.Underway mtu := by
  obtain ⟨frames, split, suffix⟩ := underway.suffix
  exact ⟨⟨frames, split, (List.tail_suffix _).trans suffix⟩, unfinished⟩

end Package.Underway

namespace Line

/-- What launching a message does: all its frames are then under way and the first is to be written. -/
theorem launch_eq_ok {line next : Line} {message frame : Bytes}
    (launched : line.launch message = .ok (frame, next)) :
    line.isBusy = false ∧ ∃ first rest,
      Frame.split message (Frame.sizeForMtu line.mtu) = .ok (first :: rest) ∧
        frame = first.toBytes ∧ next = { line with sending := some ⟨message, first :: rest⟩ } := by
  simp only [launch] at launched
  split at launched
  · cases launched
  · next free =>
    refine ⟨by simpa using free, ?_⟩
    cases cut : Frame.split message (Frame.sizeForMtu line.mtu) with
    | error cause => simp [Package.make, cut, Except.map] at launched
    | ok frames =>
      cases frames with
      | nil => exact absurd rfl (Frame.ne_nil_of_split cut)
      | cons first rest =>
        simp only [Package.make, cut, Except.map, Package.waiting?, List.head?_cons,
          Except.ok.injEq, Prod.mk.injEq] at launched
        exact ⟨first, rest, rfl, launched.1.symm, launched.2.symm⟩

/-- A launch is refused by a busy line, and by one on which the message cannot be cut. -/
theorem launch_eq_error_iff (line : Line) (message : Bytes) (cause : LinkError) :
    line.launch message = .error cause ↔
      (line.isBusy = true ∧ cause = .sendingInProgress) ∨
      (line.isBusy = false ∧ cause = .invalidFrame ∧
        (Frame.sizeForMtu line.mtu = 0 ∨ maxMessageLength < message.length)) := by
  rw [← Frame.split_eq_error_iff]
  cases busy : line.isBusy with
  | true => simp [launch, busy, eq_comm]
  | false =>
    cases cut : Frame.split message (Frame.sizeForMtu line.mtu) with
    | error failure => simp [launch, busy, Package.make, cut, Except.map, LinkError.ofFrame, eq_comm]
    | ok frames =>
      cases frames with
      | nil => exact absurd rfl (Frame.ne_nil_of_split cut)
      | cons first rest => simp [launch, busy, Package.make, cut, Except.map, Package.waiting?]

theorem sending_of_not_busy {line : Line} (free : line.isBusy = false) : line.sending = none := by
  simp only [isBusy, Bool.or_eq_false_iff] at free
  simpa using free.1

/-- Of no package under way everything holds. -/
theorem forall_of_vacant {line : Line} {claim : Package → Prop} (vacant : line.sending = none) :
    ∀ package, line.sending = some package → claim package := by
  intro package sending
  cases vacant.symm.trans sending

theorem opens_of_launch {line next : Line} {message frame : Bytes}
    (launched : line.launch message = .ok (frame, next)) : Frame.Opens frame message := by
  obtain ⟨_, first, rest, split, same, _⟩ := launch_eq_ok launched
  exact ⟨_, first, rest, split, same⟩

/-- A launched package is under way with every frame of its message. -/
theorem underway_of_launch {line next : Line} {message frame : Bytes}
    (launched : line.launch message = .ok (frame, next)) {package : Package}
    (sending : next.sending = some package) :
    package.message = message ∧ package.Underway next.mtu ∧
      ∃ first, package.waiting? = some first ∧ frame = first.toBytes := by
  obtain ⟨_, first, rest, split, same, rfl⟩ := launch_eq_ok launched
  cases sending
  exact ⟨rfl, ⟨⟨first :: rest, split, List.suffix_rfl⟩, List.cons_ne_nil _ _⟩, first, rfl, same⟩

/-- Only the package on its way out changes when a message is launched. -/
theorem mtu_of_launch {line next : Line} {message frame : Bytes}
    (launched : line.launch message = .ok (frame, next)) :
    next.mtu = line.mtu ∧ next.defaultMtu = line.defaultMtu := by
  obtain ⟨_, first, rest, _, _, rfl⟩ := launch_eq_ok launched
  exact ⟨rfl, rfl⟩

/-- Giving up what was just launched restores the line. -/
theorem dropSending_launch {line next : Line} {message frame : Bytes}
    (launched : line.launch message = .ok (frame, next)) : next.dropSending.2 = line := by
  obtain ⟨free, first, rest, _, _, rfl⟩ := launch_eq_ok launched
  cases line
  cases sending_of_not_busy free
  rfl

/-- A confirmation that asks for the next frame: the package goes on without the frame before. -/
theorem confirm_eq_next {line next : Line} {frame : Bytes}
    (confirmed : line.confirm = (.next frame, next)) :
    ∃ package first, line.sending = some package ∧ package.confirm.waiting? = some first ∧
      frame = first.toBytes ∧ next = { line with sending := some package.confirm } := by
  simp only [confirm] at confirmed
  split at confirmed
  · cases confirmed
  · next package sending =>
    split at confirmed
    · next first waiting =>
      cases confirmed
      exact ⟨package, first, sending, waiting, rfl, rfl⟩
    · cases confirmed

theorem confirm_eq_complete {line next : Line} {message : Bytes}
    (confirmed : line.confirm = (.complete message, next)) :
    ∃ package, line.sending = some package ∧ package.message = message ∧
      next = { line with sending := none } := by
  simp only [confirm] at confirmed
  split at confirmed
  · cases confirmed
  · next package sending =>
    split at confirmed
    · cases confirmed
    · cases confirmed
      exact ⟨package, sending, rfl, rfl⟩

theorem confirm_eq_idle {line next : Line} (confirmed : line.confirm = (.idle, next)) :
    line.sending = none ∧ next = line := by
  simp only [confirm] at confirmed
  split at confirmed
  · next sending =>
    cases confirmed
    exact ⟨sending, rfl⟩
  · split at confirmed <;> cases confirmed

/-- A package whose next frame is to be written stays under way, and the frame is one of its message. -/
theorem underway_of_next {line next : Line} {frame : Bytes}
    (confirmed : line.confirm = (.next frame, next)) {package : Package}
    (sending : line.sending = some package) (underway : package.Underway line.mtu) :
    Frame.Carries frame package.message ∧ next = { line with sending := some package.confirm } ∧
      package.confirm.Underway line.mtu := by
  obtain ⟨other, first, same, waiting, rfl, rfl⟩ := confirm_eq_next confirmed
  cases sending.symm.trans same
  have member : first ∈ package.confirm.pending := List.mem_of_head? waiting
  have kept : package.confirm.Underway line.mtu := underway.confirm (List.ne_nil_of_mem member)
  exact ⟨kept.carries member, rfl, kept⟩

/-- Receiving a frame concerns the incoming package only. -/
theorem receive_frame {line next : Line} {raw : Bytes} {result : Except LinkError (Option Bytes)}
    (received : line.receive raw = (result, next)) :
    ∃ receiving, next = { line with receiving } := by
  simp only [receive] at received
  split at received
  · cases received
    exact ⟨_, rfl⟩
  · cases received
    exact ⟨_, rfl⟩

end Line

end PhoneKey
