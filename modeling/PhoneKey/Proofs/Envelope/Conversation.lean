import Mathlib.Logic.Function.Basic
import PhoneKey.Proofs.Envelope.Opening

/-! # Sealed conversations

Both ends of a session seal messages, and the envelopes of each direction are delivered in the order in
which they were sealed, with anything that does not open fed in between. Each delivery opens to the
message that was sealed: the envelopes under way are always those that a fresh chain from the receiver's
start would give, and end where the sender's chain is.
-/

namespace PhoneKey

def Direction.opposite : Direction → Direction
  | .toSorc => .toPhone
  | .toPhone => .toSorc

/-- One direction of a conversation. -/
structure Lane where
  /-- Every message that was sealed, oldest first. -/
  said : List Bytes
  /-- Envelopes that were not delivered yet, oldest first. -/
  underway : List Bytes
  /-- What the deliveries opened to, oldest first. -/
  opened : List (Except CipherError Bytes)

/-- Two ends of a session, each named by the direction in which it seals: the phone by the direction to the
peer, and the peer by the direction to the phone. -/
structure Conversation where
  ends : Direction → SealingContext
  lanes : Direction → Lane

namespace Conversation

/-- Both ends hold the key and nothing was sealed. -/
def start (key : Block) : Conversation := ⟨SealingContext.new key, fun _ => ⟨[], [], []⟩⟩

inductive Move where
  /-- The end of a direction seals a message. -/
  | say (direction : Direction) (message : Bytes)
  /-- The oldest envelope of a direction reaches its receiver. -/
  | deliver (direction : Direction)
  /-- Something else reaches the receiver of a direction. -/
  | inject (direction : Direction) (data : Bytes)

def say (conversation : Conversation) (direction : Direction) (message : Bytes) : Conversation :=
  let (envelope, next) := (conversation.ends direction).encrypt message
  let lane := conversation.lanes direction
  { ends := Function.update conversation.ends direction next
    lanes := Function.update conversation.lanes direction
      { lane with said := lane.said ++ [message], underway := lane.underway ++ [envelope] } }

/-- What the receiver of a direction makes of some data. -/
def feed (conversation : Conversation) (direction : Direction) (data : Bytes) :
    Except CipherError Bytes × Conversation :=
  match (conversation.ends direction.opposite).decrypt data with
  | .ok (message, next) =>
    (.ok message, { conversation with ends := Function.update conversation.ends direction.opposite next })
  | .error cause => (.error cause, conversation)

/-- Feeds the oldest envelope of a direction, given the ones behind it. -/
def deliver (conversation : Conversation) (direction : Direction) (envelope : Bytes) (rest : List Bytes) :
    Conversation :=
  let (result, next) := conversation.feed direction envelope
  let lane := conversation.lanes direction
  { next with
    lanes := Function.update next.lanes direction
      { lane with underway := rest, opened := lane.opened ++ [result] } }

/-- Only envelopes that exist are delivered, and what is injected is refused by its receiver. -/
inductive Step : Conversation → Move → Conversation → Prop
  | say (conversation : Conversation) (direction : Direction) (message : Bytes) :
      Step conversation (.say direction message) (conversation.say direction message)
  | deliver {conversation : Conversation} {direction : Direction} {envelope : Bytes} {rest : List Bytes}
      (waiting : (conversation.lanes direction).underway = envelope :: rest) :
      Step conversation (.deliver direction) (conversation.deliver direction envelope rest)
  | inject {conversation : Conversation} {direction : Direction} {data : Bytes} {cause : CipherError}
      (refused : (conversation.feed direction data).1 = .error cause) :
      Step conversation (.inject direction data) (conversation.feed direction data).2

/-- A schedule of moves, and what it leads to. -/
inductive Path : Conversation → List Move → Conversation → Prop
  | nil (conversation : Conversation) : Path conversation [] conversation
  | cons {source middle target : Conversation} {move : Move} {moves : List Move} :
      Step source move middle → Path middle moves target → Path source (move :: moves) target

end Conversation

/-- The envelopes of messages that are sealed one after the other, and the context after them. -/
def SealingContext.sealAll (context : SealingContext) : List Bytes → List Bytes × SealingContext
  | [] => ([], context)
  | message :: rest =>
    let (envelope, next) := context.encrypt message
    let (envelopes, last) := next.sealAll rest
    (envelope :: envelopes, last)

theorem SealingContext.sealAll_concat (context : SealingContext) (messages : List Bytes)
    (message : Bytes) :
    context.sealAll (messages ++ [message]) =
      ((context.sealAll messages).1 ++ [((context.sealAll messages).2.encrypt message).1],
        ((context.sealAll messages).2.encrypt message).2) := by
  induction messages generalizing context with
  | nil => rfl
  | cons first rest ih => simp only [List.cons_append, sealAll, ih]

namespace Conversation

variable {key : Block} {conversation : Conversation} {direction other : Direction}

private theorem opposite_ne (direction : Direction) : direction.opposite ≠ direction := by
  cases direction <;> simp [Direction.opposite]

private theorem eq_opposite_of_ne (different : direction ≠ other) : other = direction.opposite := by
  cases direction <;> cases other <;> first | rfl | exact absurd rfl different

/-- The envelopes under way in a direction are a chain from where the receiver expects it to where the
sender's chain has come, and those before them were opened to what was sealed. -/
structure Faithful (key : Block) (conversation : Conversation) (direction : Direction) : Prop where
  sender : conversation.ends direction =
    ⟨key, (conversation.ends direction).sealStart, (conversation.ends direction).openStart, direction⟩
  chained : ∃ delivered waiting,
    (conversation.lanes direction).said = delivered ++ waiting ∧
      (conversation.lanes direction).opened = delivered.map .ok ∧
      SealingContext.sealAll
          ⟨key, (conversation.ends direction.opposite).openStart, .zero, direction⟩ waiting =
        ((conversation.lanes direction).underway,
          ⟨key, (conversation.ends direction).sealStart, .zero, direction⟩)

private theorem faithful_start (key : Block) (direction : Direction) : Faithful key (start key) direction :=
  ⟨rfl, [], [], rfl, rfl, rfl⟩

/-- What is sealed joins the end of the chain. -/
theorem faithful_say (faithful : Faithful key conversation direction) (message : Bytes) :
    Faithful key (conversation.say direction message) direction := by
  obtain ⟨sender, delivered, waiting, said, opened, chained⟩ := faithful
  have moved : (conversation.say direction message).ends direction =
      ((conversation.ends direction).encrypt message).2 := Function.update_self ..
  have kept : (conversation.say direction message).ends direction.opposite =
      conversation.ends direction.opposite := Function.update_of_ne (opposite_ne direction) ..
  have lane : (conversation.say direction message).lanes direction = _ := Function.update_self ..
  constructor
  · rw [moved, sender]
    rfl
  · refine ⟨delivered, waiting ++ [message], ?_, ?_, ?_⟩
    · rw [lane, said, List.append_assoc]
    · rw [lane, opened]
    · rw [moved, kept, lane, SealingContext.sealAll_concat, chained, sender]
      rfl

/-- Messages of the other direction leave a direction alone. -/
theorem faithful_say_opposite (faithful : Faithful key conversation direction) (message : Bytes) :
    Faithful key (conversation.say direction.opposite message) direction := by
  obtain ⟨sender, chained⟩ := faithful
  have kept : (conversation.say direction.opposite message).ends direction =
      conversation.ends direction := Function.update_of_ne (opposite_ne direction).symm ..
  have moved : (conversation.say direction.opposite message).ends direction.opposite =
      ((conversation.ends direction.opposite).encrypt message).2 := Function.update_self ..
  have lane : (conversation.say direction.opposite message).lanes direction =
      conversation.lanes direction := Function.update_of_ne (opposite_ne direction).symm ..
  constructor
  · rw [kept]
    exact sender
  · rw [kept, moved, lane]
    exact chained

/-- The oldest envelope under way opens to the oldest message that was not delivered, and the receiver
expects the chain to go on behind it. -/
theorem deliver_oldest (faithful : Faithful key conversation direction)
    (shared : (conversation.ends direction.opposite).key = key) {envelope : Bytes} {rest : List Bytes}
    (oldest : (conversation.lanes direction).underway = envelope :: rest) :
    ∃ delivered message waiting next,
      (conversation.lanes direction).said = delivered ++ message :: waiting ∧
      (conversation.lanes direction).opened = delivered.map .ok ∧
      SealingContext.sealAll ⟨key, next, .zero, direction⟩ waiting =
        (rest, ⟨key, (conversation.ends direction).sealStart, .zero, direction⟩) ∧
      conversation.deliver direction envelope rest =
        { ends := Function.update conversation.ends direction.opposite
            { conversation.ends direction.opposite with openStart := next }
          lanes := Function.update conversation.lanes direction
            { conversation.lanes direction with
              underway := rest
              opened := (conversation.lanes direction).opened ++ [.ok message] } } := by
  obtain ⟨_, delivered, waiting, said, opened, chained⟩ := faithful
  rw [oldest] at chained
  cases waiting with
  | nil => cases chained
  | cons message waiting =>
    let sender : SealingContext :=
      ⟨key, (conversation.ends direction.opposite).openStart, .zero, direction⟩
    have opens := @SealingContext.decrypt_encrypt sender _ shared rfl message
    simp only [SealingContext.sealAll, Prod.mk.injEq, List.cons.injEq] at chained
    obtain ⟨⟨same, behind⟩, last⟩ := chained
    refine ⟨delivered, message, waiting, (sender.encrypt message).2.sealStart, said, opened, ?_, ?_⟩
    · exact Prod.ext behind last
    · rw [deliver, feed, ← same, opens]

private theorem faithful_deliver (faithful : Faithful key conversation direction)
    (shared : (conversation.ends direction.opposite).key = key) {envelope : Bytes} {rest : List Bytes}
    (oldest : (conversation.lanes direction).underway = envelope :: rest) :
    Faithful key (conversation.deliver direction envelope rest) direction := by
  obtain ⟨delivered, message, waiting, next, said, opened, chained, turn⟩ :=
    deliver_oldest faithful shared oldest
  have different := opposite_ne direction
  rw [turn]
  constructor
  · simp only [Function.update_of_ne different.symm]
    exact faithful.sender
  · refine ⟨delivered ++ [message], waiting, ?_, ?_, ?_⟩
    · simp only [Function.update_self, said, List.append_assoc, List.singleton_append]
    · simp only [Function.update_self, opened, List.map_append, List.map_singleton]
    · simp only [Function.update_self, Function.update_of_ne different.symm]
      exact chained

/-- A delivery in the other direction moves only what the sender expects to open. -/
theorem faithful_deliver_opposite (faithful : Faithful key conversation direction)
    (answering : Faithful key conversation direction.opposite) {envelope : Bytes} {rest : List Bytes}
    (oldest : (conversation.lanes direction.opposite).underway = envelope :: rest) :
    Faithful key (conversation.deliver direction.opposite envelope rest) direction := by
  have twice : direction.opposite.opposite = direction := by cases direction <;> rfl
  have shared : (conversation.ends direction.opposite.opposite).key = key := by
    rw [twice, faithful.sender]
  obtain ⟨_, _, _, next, _, _, _, turn⟩ := deliver_oldest answering shared oldest
  have different := opposite_ne direction
  rw [turn, twice]
  constructor
  · simp only [Function.update_self]
    rw [faithful.sender]
  · simp only [Function.update_self, Function.update_of_ne different, Function.update_of_ne different.symm]
    exact faithful.chained

/-- Every step keeps both directions faithful. -/
theorem faithful_of_step {following : Conversation} {move : Move} (step : Step conversation move following)
    (faithful : ∀ direction, Faithful key conversation direction) (direction : Direction) :
    Faithful key following direction := by
  cases step with
  | say speaker message =>
    by_cases same : direction = speaker
    · subst same
      exact faithful_say (faithful direction) message
    · rw [eq_opposite_of_ne same]
      exact faithful_say_opposite (faithful direction) message
  | @deliver sender envelope rest oldest =>
    by_cases same : direction = sender
    · subst same
      have shared : (conversation.ends direction.opposite).key = key := by
        rw [(faithful direction.opposite).sender]
      exact faithful_deliver (faithful direction) shared oldest
    · cases eq_opposite_of_ne same
      exact faithful_deliver_opposite (faithful direction) (faithful direction.opposite) oldest
  | @inject sender data cause refused =>
    have unmoved : (conversation.feed sender data).2 = conversation := by
      rw [feed] at refused ⊢
      split at refused
      · cases refused
      · rfl
    rw [unmoved]
    exact faithful direction

theorem faithful_of_path {source target : Conversation} {moves : List Move} (path : Path source moves target)
    (faithful : ∀ direction, Faithful key source direction) (direction : Direction) :
    Faithful key target direction := by
  induction path with
  | nil => exact faithful direction
  | cons step _ ih => exact ih (faithful_of_step step faithful)

/-- What the receiver of a direction has of it. -/
structure Delivers (conversation : Conversation) (direction : Direction) : Prop where
  /-- The deliveries opened, in order, to the first messages that were sealed. -/
  opened : (conversation.lanes direction).opened =
    ((conversation.lanes direction).said.take (conversation.lanes direction).opened.length).map .ok
  /-- Every message was delivered or its envelope is under way. -/
  complete : (conversation.lanes direction).opened.length + (conversation.lanes direction).underway.length =
    (conversation.lanes direction).said.length
  inStep : (conversation.lanes direction).underway = [] →
    (conversation.ends direction).sealStart = (conversation.ends direction.opposite).openStart

private theorem length_sealAll (context : SealingContext) (messages : List Bytes) :
    (context.sealAll messages).1.length = messages.length := by
  induction messages generalizing context with
  | nil => rfl
  | cons message rest ih => simp only [SealingContext.sealAll, List.length_cons, ih]

/-- Whatever the schedule, both directions deliver what was sealed. -/
theorem delivers_of_path (key : Block) {moves : List Move} {conversation : Conversation}
    (path : Path (start key) moves conversation) (direction : Direction) :
    Delivers conversation direction := by
  obtain ⟨_, delivered, waiting, said, opened, chained⟩ :=
    faithful_of_path path (faithful_start key) direction
  have size := length_sealAll
    ⟨key, (conversation.ends direction.opposite).openStart, .zero, direction⟩ waiting
  rw [chained] at size
  constructor
  case opened => rw [opened, said, List.length_map, List.take_left']; rfl
  case complete => rw [opened, said, List.length_map, List.length_append, size]
  case inStep =>
    intro none_left
    rw [none_left] at size
    obtain rfl := List.length_eq_zero_iff.mp size.symm
    exact (congrArg (fun result => result.2.sealStart) chained).symm

/-- Both ends seal one message each, and the peer is fed data without a code and data under a wrong code
before its envelope arrives. -/
def interruptedMoves : List Move :=
  [.say .toSorc [0x0c, 0, 0], .inject .toSorc [1, 2, 3],
    .inject .toSorc (List.replicate 16 0 ++ List.replicate 8 0),
    .say .toPhone [], .deliver .toSorc]

theorem delivers_interrupted : ∃ conversation, Path (start .zero) interruptedMoves conversation ∧
    Delivers conversation .toSorc ∧ Delivers conversation .toPhone := by
  have forged : Envelope.mac (Aes.Cipher.ofKey .zero) .zero (List.replicate 16 0) ≠ List.replicate 8 0 := by
    decide +kernel
  have mismatch : (SealingContext.new .zero .toPhone).decrypt (List.replicate 16 0 ++ List.replicate 8 0) =
      .error .macMismatch :=
    (SealingContext.decrypt_append _ (by decide) (by decide) (by decide)).trans (if_neg forged)
  let spoken := (start .zero).say .toSorc [0x0c, 0, 0]
  have injected : Step spoken (.inject .toSorc (List.replicate 16 0 ++ List.replicate 8 0)) spoken := by
    have fed : spoken.feed .toSorc (List.replicate 16 0 ++ List.replicate 8 0) =
        (.error .macMismatch, spoken) := by
      have receiver : spoken.ends Direction.toSorc.opposite = SealingContext.new .zero .toPhone := rfl
      rw [feed, receiver, mismatch]
    have step := @Step.inject spoken .toSorc (List.replicate 16 0 ++ List.replicate 8 0) .macMismatch
      (by rw [fed])
    rwa [fed] at step
  have path : Path (start .zero) interruptedMoves _ :=
    .cons (.say ..) (.cons (@Step.inject _ _ _ .invalidLength rfl) (.cons injected (.cons (.say ..)
      (.cons (@Step.deliver _ _ ((SealingContext.new .zero .toSorc).encrypt [0x0c, 0, 0]).1 [] rfl)
        (.nil _)))))
  exact ⟨_, path, delivers_of_path .zero path .toSorc, delivers_of_path .zero path .toPhone⟩

end Conversation

end PhoneKey
