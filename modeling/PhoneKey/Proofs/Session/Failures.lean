import PhoneKey.Proofs.Session.Dispatch

/-! # Requests that fail

A request fails when the channel refuses it, when its sending breaks off, or when something arrives that
cannot be read. What is given up then depends on what was outstanding at that moment. A grant that fails
takes every other grant with it and is followed by a heartbeat; a heartbeat that fails makes room for the
request behind it, which may fail within the same call.
-/

namespace PhoneKey

/-- What was outstanding when something failed, and what failed. -/
structure Failure where
  slot : Option Request
  cause : RequestFailure
deriving DecidableEq, Repr

namespace Failure

/-- The grant that has failed. -/
def grant? (failure : Failure) : Option UInt16 := failure.slot.bind Request.grant?

/-- What is published of a failure: if a grant has failed, that none is left. -/
def news? (failure : Failure) : Option GrantChange :=
  failure.grant?.map fun _ => ⟨[], .failed failure.cause⟩

end Failure

/-- The failure that an effect publishes. -/
def Effect.failed? : Effect → Option GrantChange
  | .announce (.grants ⟨listed, .failed cause⟩) => some ⟨listed, .failed cause⟩
  | _ => none

/-- The failures that are published. -/
def failureNews (effects : List Effect) : List GrantChange := effects.filterMap Effect.failed?

/-- Whether effects begin with a write that the radio accepts. -/
def startsWriting : List Effect → Bool
  | .radio (.write _ accepted) :: _ => accepted
  | _ => false

/-- The failures of requests that were given to the channel in vain: no accepted write follows them. -/
def refusals : List Effect → List Failure
  | [] => []
  | .attempt request _ _ :: rest =>
    if startsWriting rest then refusals rest else ⟨some request, .sendingFailed⟩ :: refusals rest
  | _ :: rest => refusals rest

/-- Whether an effect neither publishes a failure nor tries a request. -/
def Effect.isPlain : Effect → Bool
  | .announce (.grants ⟨_, .failed _⟩) => false
  | .attempt _ _ _ => false
  | _ => true

section

variable {effect : Effect} {first second effects : List Effect}

theorem Effect.isPlain_of_isLower (lower : effect.isLower = true) : effect.isPlain = true := by
  cases effect with
  | announce news => cases news <;> trivial
  | attempt request state outstanding => cases lower
  | _ => rfl

theorem Effect.isPlain_of_isConnection (connection : effect.isConnection = true) :
    effect.isPlain = true := by
  cases effect with
  | announce news => cases news <;> trivial
  | attempt request state outstanding => cases connection
  | _ => rfl

theorem failureNews_append (first second : List Effect) :
    failureNews (first ++ second) = failureNews first ++ failureNews second := List.filterMap_append

theorem failureNews_of_plain (plain : ∀ effect ∈ effects, effect.isPlain = true) :
    failureNews effects = [] := by
  refine List.filterMap_eq_nil_iff.mpr fun effect member => ?_
  have spared := plain effect member
  unfold Effect.failed?
  split
  · cases spared
  · rfl

theorem handed_of_plain (plain : ∀ effect ∈ effects, effect.isPlain = true) : handed effects = [] := by
  refine List.filterMap_eq_nil_iff.mpr fun effect member => ?_
  have spared := plain effect member
  unfold Effect.handed?
  split
  · cases spared
  · rfl

/-- What tries no request has none refused. -/
theorem refusals_append_of_plain (plain : ∀ effect ∈ first, effect.isPlain = true)
    (second : List Effect) : refusals (first ++ second) = refusals second := by
  induction first with
  | nil => rfl
  | cons effect rest ih =>
    obtain ⟨spared, later⟩ := List.forall_mem_cons.mp plain
    rw [List.cons_append, refusals, ih later]
    rintro request state outstanding rfl
    cases spared

theorem refusals_of_plain (plain : ∀ effect ∈ effects, effect.isPlain = true) :
    refusals effects = [] := by
  have whole := refusals_append_of_plain plain []
  rwa [List.append_nil] at whole

theorem startsWriting_append (apart : startsWriting second = false) (first : List Effect) :
    startsWriting (first ++ second) = startsWriting first := by
  cases first with
  | nil => exact apart
  | cons effect rest =>
    cases effect with
    | radio call => cases call <;> rfl
    | _ => rfl

/-- What follows the last of the first effects was not written for it. -/
theorem refusals_append (apart : startsWriting second = false) :
    refusals (first ++ second) = refusals first ++ refusals second := by
  fun_induction refusals first with
  | case1 => rfl
  | case2 request state outstanding rest taken ih =>
    have still : startsWriting (rest ++ second) = true := (startsWriting_append apart rest).trans taken
    rw [List.cons_append, refusals, if_pos still, ih]
  | case3 request state outstanding rest refused ih =>
    have still : ¬ startsWriting (rest ++ second) = true := by rwa [startsWriting_append apart]
    rw [List.cons_append, refusals, if_neg still, ih, List.cons_append]
  | case4 effect rest other ih =>
    rw [List.cons_append, refusals, ih]
    exact other

end

namespace Channel

private theorem plain_offer (channel : Channel) (message : Message) :
    ∀ effect ∈ (channel.offer message).effects, effect.isPlain = true := by
  intro effect member
  obtain ⟨call, rfl⟩ := radio_offer channel message effect member
  rfl

/-- A message that is taken is written at once; one that is refused is not. -/
theorem startsWriting_offer (channel : Channel) (message : Message) :
    startsWriting (channel.offer message).effects = (channel.offer message).refusal.isNone := by
  have whole : (channel.offer message).effects =
      (channel.link.offer (channel.protection.protect message).1).effects := rfl
  have told : (channel.offer message).refusal =
      (channel.link.offer (channel.protection.protect message).1).refusal := rfl
  rw [whole, told, Link.offer]
  split
  · cases outcome : (channel.link.start (channel.protection.protect message).1).refusal with
    | none =>
      obtain ⟨frame, line, _, _, same⟩ := Link.start_taken outcome
      rw [same]
      rfl
    | some cause =>
      rcases Link.start_refused outcome with ⟨_, same⟩ | ⟨frame, line, _, _, _, same⟩ <;> rw [same] <;> rfl
  · rfl

end Channel

namespace Session

variable {session : Session} {first turn : SessionTurn} {slot : Option Request} {waiting : OpenGrants}
  {failures : List Failure}

/-- The effects of giving a request to the channel tell whether it was taken. -/
theorem refusals_dispatch (session : Session) (request : Request) :
    refusals (session.dispatch request).2.effects =
      if (session.dispatch request).1 then [] else [⟨some request, .sendingFailed⟩] := by
  have whole : (session.dispatch request).2.effects =
    .attempt request session.state session.outstanding ::
      (session.channel.offer request.message).effects := rfl
  have taken : (session.dispatch request).1 = (session.channel.offer request.message).refusal.isNone := rfl
  rw [whole, taken, refusals, Channel.startsWriting_offer, refusals_of_plain (Channel.plain_offer _ _)]

private theorem refusals_forward (session : Session) (request : Request) (rest : List Request) :
    refusals (session.forward request rest).2.effects =
      if (session.forward request rest).1 then [] else [⟨some request, .sendingFailed⟩] :=
  refusals_dispatch _ request

private theorem failureNews_dispatch (session : Session) (request : Request) :
    failureNews (session.dispatch request).2.effects = [] := by
  have silent : failureNews (session.channel.offer request.message).effects = [] :=
    failureNews_of_plain (Channel.plain_offer _ _)
  exact silent

private theorem handed_dispatch (session : Session) (request : Request) :
    handed (session.dispatch request).2.effects = request.grant?.toList := by
  have silent : handed (session.channel.offer request.message).effects = [] :=
    handed_of_plain (Channel.plain_offer _ _)
  cases request with
  | heartbeat => exact silent
  | grant number => exact congrArg (number :: ·) silent

/-- What is outstanding after a grant has failed, by the failures that follow: a heartbeat, or nothing if
that fails too. -/
inductive Resynced : List Failure → Option Request → Prop
  | asks : Resynced [] (some .heartbeat)
  | fails : Resynced [⟨some .heartbeat, .sendingFailed⟩] none

/-- How a call ends in which a grant fails, given the failures that follow. -/
structure Restart (turn : SessionTurn) (cause : RequestFailure) (later : List Failure) : Prop where
  told : failureNews turn.effects = [⟨[], .failed cause⟩]
  openGrants : turn.state.openGrants = []
  queue : turn.state.queue.items = []
  resynced : Resynced later turn.state.outstanding

theorem Resynced.others {later : List Failure} {outstanding : Option Request}
    (resynced : Resynced later outstanding) : ∀ failure ∈ later, failure.grant? = none := by
  cases resynced <;> simp [Failure.grant?, Request.grant?]

/-- What failures come to, given what was outstanding before them and the grants that waited. -/
inductive Upshot (slot : Option Request) (waiting : OpenGrants) (turn : SessionTurn)
    (failures : List Failure) : Prop
  | spares (untold : failureNews turn.effects = [])
      (others : ∀ failure ∈ failures, failure.grant? = none)
      (kept : waiting = handed turn.effects ++ turn.state.queuedGrants)
  | restarts {earlier later : List Failure} {grant : UInt16} {cause : RequestFailure}
      (split : failures = earlier ++ ⟨some (.grant grant), cause⟩ :: later)
      (others : ∀ failure ∈ earlier, failure.grant? = none)
      (restart : Restart turn cause later)
      (source : earlier = [] ∧ slot = some (.grant grant) ∨
        handed turn.effects = [grant] ∧ ∃ rest, waiting = grant :: rest)

/-- Nothing is outstanding while the queue is served. -/
theorem Upshot.of_free (upshot : Upshot none waiting turn failures) (slot : Option Request) :
    Upshot slot waiting turn failures := by
  cases upshot with
  | spares untold others kept => exact .spares untold others kept
  | restarts split others restart source =>
    exact .restarts split others restart (.inr (source.resolve_left (by simp)))

/-- A failure that is no grant's comes before others. -/
theorem Upshot.cons {failure : Failure} (upshot : Upshot none waiting turn failures)
    (other : failure.grant? = none) : Upshot slot waiting turn (failure :: failures) := by
  cases upshot with
  | spares untold others kept => exact .spares untold (List.forall_mem_cons.mpr ⟨other, others⟩) kept
  | restarts split others restart source =>
    exact .restarts (congrArg (failure :: ·) split) (List.forall_mem_cons.mpr ⟨other, others⟩) restart
      (.inr (source.resolve_left (by simp)))

/-- What neither publishes a failure nor gives a grant to the channel changes nothing about what follows. -/
theorem Upshot.andThen {next : Session → SessionTurn}
    (upshot : Upshot slot waiting (next first.state) failures)
    (untold : failureNews first.effects = []) (kept : handed first.effects = []) :
    Upshot slot waiting (first.andThen next) failures := by
  have news : failureNews (first.andThen next).effects = failureNews (next first.state).effects := by
    rw [Turn.andThen, failureNews_append, untold, List.nil_append]
  have given : handed (first.andThen next).effects = handed (next first.state).effects := by
    rw [Turn.andThen, handed_append, kept, List.nil_append]
  cases upshot with
  | spares untold others kept => exact .spares (news.trans untold) others (given ▸ kept)
  | restarts split others restart source =>
    exact .restarts split others { restart with told := news.trans restart.told } (given ▸ source)

/-- A queue that holds something has room for a heartbeat when it is empty. -/
theorem probe_eq (room : 1 ≤ session.queue.capacity) (empty : session.queue.items = []) :
    session.probe = (session.dispatch .heartbeat).2 := by
  have free : ¬ session.queue.capacity ≤ session.queue.items.length := by
    rw [empty, List.length_nil]
    omega
  rw [probe, Backlog.enqueue, if_neg free]

private theorem startsWriting_probe (session : Session) : startsWriting session.probe.effects = false := by
  rw [probe]
  split <;> rfl

private theorem resynced_probe (room : 1 ≤ session.queue.capacity) (empty : session.queue.items = []) :
    Resynced (refusals session.probe.effects) session.probe.state.outstanding := by
  rw [probe_eq room empty, refusals_dispatch]
  cases outcome : (session.dispatch .heartbeat).1 with
  | true =>
    have taken : (session.dispatch .heartbeat).2.state.outstanding = some .heartbeat :=
      @forward_taken session .heartbeat session.queue.items outcome
    rw [taken]
    exact .asks
  | false =>
    have free : (session.dispatch .heartbeat).2.state.outstanding = none :=
      @forward_refused session .heartbeat session.queue.items outcome
    rw [free]
    exact .fails

/-- Giving up every grant is published, and telemetry is told. -/
theorem effects_surrender (session : Session) (cause : RequestFailure) :
    ∃ told, (session.surrender cause).effects = .announce (.grants ⟨[], .failed cause⟩) :: told ∧
      ∀ effect ∈ told, effect.isPlain = true := by
  refine ⟨_, rfl, ?_⟩
  simp [tell, Effect.isPlain]

/-- Giving up a grant publishes this once and ends with a heartbeat. -/
theorem restart_abandonGrant (room : 1 ≤ session.queue.capacity) (cause : RequestFailure) :
    Restart (session.abandonGrant cause) cause (refusals (session.abandonGrant cause).effects) := by
  obtain ⟨told, surrendered, plain⟩ := session.effects_surrender cause
  have probed := @probe_eq (session.surrender cause).state room rfl
  have published : failureNews (session.surrender cause).effects = [⟨[], .failed cause⟩] := by
    rw [surrendered]
    exact congrArg (_ :: ·) (failureNews_of_plain plain)
  have untried : refusals (session.surrender cause).effects = [] := by
    have silent := refusals_of_plain plain
    rwa [surrendered, refusals]
    simp
  rw [abandonGrant_eq]
  constructor
  case told =>
    rw [Turn.andThen, failureNews_append, published, probed, failureNews_dispatch]
    rfl
  case openGrants =>
    rw [Turn.andThen, probed]
    rfl
  case queue =>
    rw [Turn.andThen, probed]
    rfl
  case resynced =>
    rw [Turn.andThen, refusals_append (startsWriting_probe _), untried]
    exact resynced_probe room rfl

private theorem handed_abandonGrant (room : 1 ≤ session.queue.capacity) (cause : RequestFailure) :
    handed (session.abandonGrant cause).effects = [] := by
  obtain ⟨told, surrendered, plain⟩ := session.effects_surrender cause
  have probed := @probe_eq (session.surrender cause).state room rfl
  have unhanded : handed (session.surrender cause).effects = [] := by
    have silent := handed_of_plain plain
    rw [surrendered]
    exact silent
  rw [abandonGrant_eq, Turn.andThen, handed_append, unhanded, probed, handed_dispatch]
  rfl

private theorem startsWriting_drain (session : Session) (requests : List Request) :
    startsWriting (session.drain requests).effects = false := by
  cases requests with
  | nil => rfl
  | cons request rest =>
    rw [drain_cons]
    split
    · rfl
    · cases request <;> rfl

/-- A heartbeat that is refused makes room for the requests behind it. -/
theorem upshot_drop {rest : List Request} (queued : session.queue.items = .heartbeat :: rest)
    (refused : (session.forward .heartbeat rest).1 = false)
    (following : Upshot none (rest.filterMap Request.grant?) ((session.forward .heartbeat rest).2.state.drain rest)
      (refusals ((session.forward .heartbeat rest).2.state.drain rest).effects)) :
    Upshot none session.queuedGrants ((session.forward .heartbeat rest).2.andThen (drain · rest))
      (refusals ((session.forward .heartbeat rest).2.andThen (drain · rest)).effects) := by
  have waited := queuedGrants_of_waiting queued
  have whole : refusals ((session.forward .heartbeat rest).2.andThen (drain · rest)).effects =
      ⟨some .heartbeat, .sendingFailed⟩ ::
        refusals ((session.forward .heartbeat rest).2.state.drain rest).effects := by
    rw [Turn.andThen, refusals_append (startsWriting_drain _ _), refusals_forward, refused]
    rfl
  rw [whole, waited]
  exact (following.cons rfl).andThen (failureNews_dispatch _ _) (handed_dispatch _ _)

/-- A grant that is refused was the oldest in the queue. -/
theorem upshot_break {grant : UInt16} {rest : List Request} (room : 1 ≤ session.queue.capacity)
    (queued : session.queue.items = .grant grant :: rest)
    (refused : (session.forward (.grant grant) rest).1 = false) :
    Upshot none session.queuedGrants
      ((session.forward (.grant grant) rest).2.andThen (abandonGrant · .sendingFailed))
      (refusals ((session.forward (.grant grant) rest).2.andThen (abandonGrant · .sendingFailed)).effects) := by
  have restart := @restart_abandonGrant (session.forward (.grant grant) rest).2.state room .sendingFailed
  have whole : refusals
        ((session.forward (.grant grant) rest).2.andThen (abandonGrant · .sendingFailed)).effects =
      [] ++ ⟨some (.grant grant), .sendingFailed⟩ :: refusals
        ((session.forward (.grant grant) rest).2.state.abandonGrant .sendingFailed).effects := by
    rw [Turn.andThen, refusals_append rfl, refusals_forward, refused]
    rfl
  have given : handed (session.forward (.grant grant) rest).2.effects = [grant] := handed_dispatch _ _
  have untold : failureNews (session.forward (.grant grant) rest).2.effects = [] := failureNews_dispatch _ _
  refine .restarts whole (by simp) { restart with told := ?_ } (.inr ⟨?_, _, queuedGrants_of_waiting queued⟩)
  · rw [Turn.andThen, failureNews_append, untold]
    exact restart.told
  · have abandoned := @handed_abandonGrant (session.forward (.grant grant) rest).2.state room .sendingFailed
    rw [Turn.andThen, handed_append, given, abandoned]
    rfl

/-- Requests are refused one after the other until one is taken or a grant is among them. -/
theorem upshot_drain {requests : List Request} (room : 1 ≤ session.queue.capacity)
    (queued : session.queue.items = requests) :
    Upshot none session.queuedGrants (session.drain requests)
      (refusals (session.drain requests).effects) := by
  -- On the requests; what a refused heartbeat leaves is a session that drains the rest.
  induction requests generalizing session with
  | nil => exact .spares rfl (by simp [drain, Turn.idle, refusals]) rfl
  | cons request rest ih =>
    rw [drain_cons]
    cases outcome : (session.forward request rest).1 with
    | true =>
      have given : handed (session.forward request rest).2.effects = request.grant?.toList :=
        handed_dispatch _ request
      rw [if_pos rfl, refusals_forward, outcome]
      exact .spares (failureNews_dispatch _ _) (by simp) (given ▸ queuedGrants_of_waiting queued)
    | false =>
      rw [if_neg Bool.false_ne_true]
      cases request with
      | heartbeat => exact upshot_drop queued outcome (@ih (session.forward .heartbeat rest).2.state room rfl)
      | grant number => exact upshot_break room queued outcome

theorem upshot_serve (room : 1 ≤ session.queue.capacity) :
    Upshot none session.queuedGrants session.serve (refusals session.serve.effects) := by
  rw [serve]
  split
  · exact upshot_drain room rfl
  · exact .spares rfl (by simp [Turn.idle, refusals]) rfl

/-- What a failure comes to depends on what was outstanding. -/
theorem upshot_giveUp (room : 1 ≤ session.queue.capacity) (cause : RequestFailure) :
    Upshot session.outstanding session.queuedGrants (session.giveUp cause)
      (⟨session.outstanding, cause⟩ :: refusals (session.giveUp cause).effects) := by
  rw [giveUp]
  cases outstanding : session.outstanding with
  | none => exact .spares rfl (by simp [Turn.idle, refusals, Failure.grant?]) rfl
  | some request =>
    cases request with
    | heartbeat =>
      have served := @upshot_serve { session with outstanding := none } room
      exact served.cons rfl
    | grant number =>
      exact .restarts (List.nil_append _).symm (by simp) (restart_abandonGrant room cause) (.inl ⟨rfl, rfl⟩)

end Session

end PhoneKey
