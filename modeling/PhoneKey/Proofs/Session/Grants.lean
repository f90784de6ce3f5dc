import PhoneKey.Proofs.Channel.Refusal
import PhoneKey.Proofs.Session.Rest

/-! # The published list of grants

The grants that are asked for and not settled are the outstanding one and those queued behind it. The
published list is meant to name them. It does as long as every answer settles the outstanding grant; an
answer that arrives while a heartbeat is outstanding takes the oldest grant off the list although it is
still queued, and the list stays behind until every grant is given up or settled.
-/

namespace PhoneKey

def Request.grant? : Request → Option UInt16
  | .heartbeat => none
  | .grant number => some number

namespace Session

/-- The grants that are asked for and not settled, oldest first. -/
def pendingGrants (session : Session) : OpenGrants :=
  (session.outstanding.toList ++ session.queue.items).filterMap Request.grant?

/-- The published list names exactly the grants that are not settled. -/
def Accurate (session : Session) : Prop := session.openGrants = session.pendingGrants

/-- A call that brings an answer while a heartbeat is outstanding and grants are listed. -/
def Strays (session : Session) (input : Input) : Prop :=
  (session.answer? input).isSome = true ∧ session.outstanding = some .heartbeat ∧ session.openGrants ≠ []

/-- What becomes of the list and of the pending grants unless the peer answers. -/
inductive Tally (session next : Session) : Prop
  | keeps (listed : next.openGrants = session.openGrants)
      (pending : next.pendingGrants = session.pendingGrants)
  | adds (grant : UInt16) (listed : next.openGrants = session.openGrants ++ [grant])
      (pending : next.pendingGrants = session.pendingGrants ++ [grant])
  | clears (listed : next.openGrants = []) (pending : next.pendingGrants = [])

variable {defaultMtu now : Nat} {session next : Session} {turn : SessionTurn} {input : Input}

namespace Tally

private theorem accurate (tally : Tally session next) (accurate : session.Accurate) : next.Accurate := by
  cases tally with
  | keeps listed pending => exact listed.trans (accurate.trans pending.symm)
  | adds grant listed pending => rw [Accurate, listed, pending, accurate]
  | clears listed pending => exact listed.trans pending.symm

private theorem suffix (tally : Tally session next) (suffix : session.openGrants <:+ session.pendingGrants) :
    next.openGrants <:+ next.pendingGrants := by
  cases tally with
  | keeps listed pending => rwa [listed, pending]
  | adds grant listed pending =>
    obtain ⟨earlier, whole⟩ := suffix
    exact ⟨earlier, by rw [listed, pending, ← whole, List.append_assoc]⟩
  | clears listed pending => rw [listed, pending]

end Tally

/-- A request that is taken off the queue is pending still, unless it asked for a sign of life. -/
theorem pendingGrants_of_waiting {request : Request} {rest : List Request}
    (free : session.outstanding = none) (waiting : session.queue.items = request :: rest) :
    session.pendingGrants = request.grant?.toList ++ rest.filterMap Request.grant? := by
  rw [pendingGrants, free, waiting]
  cases request <;> rfl

/-- Unless the peer answers, list and pending grants change together. -/
theorem Move.tally (move : Move now none session turn) : Tally session turn.state := by
  cases move with
  | passes served news => exact .keeps rfl rfl
  | hears served news => exact .keeps rfl rfl
  | advances served news advance reached => exact .keeps rfl rfl
  | establishes served news opening reached => exact .keeps rfl rfl
  | ends served news engaged reached => exact .clears rfl rfl
  | recoils served news advance engaged reached => exact .clears rfl rfl
  | releases waiting =>
    refine .keeps rfl ?_
    rw [pendingGrants, pendingGrants, waiting]
    rfl
  | answers brought connected => cases brought
  | abandons failure waiting => exact .clears rfl rfl
  | queues connected spare single room =>
    obtain ⟨_, rfl⟩ := Backlog.enqueue_eq_ok_iff.mp room
    refine .keeps rfl ?_
    simp [pendingGrants, Turn.idle, Request.grant?]
  | @sends request rest connected free waiting taken =>
    refine .keeps rfl ?_
    rw [pendingGrants_of_waiting free waiting, pendingGrants, forward_taken taken]
    cases request <;> rfl
  | drops connected free waiting refused =>
    refine .keeps rfl ?_
    rw [pendingGrants_of_waiting free waiting, pendingGrants, forward_refused refused]
    rfl
  | breaks connected free waiting refused => exact .clears rfl rfl
  | accepts connected room =>
    obtain ⟨_, rfl⟩ := Backlog.enqueue_eq_ok_iff.mp room
    refine .adds _ rfl ?_
    simp [pendingGrants, register, publishGrants, Turn.andThen, Request.grant?]
  | declines connected full => exact .keeps rfl rfl
  | checks connected => exact .keeps rfl rfl
  | beats connected => exact .keeps rfl rfl

private theorem Moves.accurate (moves : Moves now none session turn) (accurate : session.Accurate) :
    turn.state.Accurate := by
  induction moves with
  | nil session => exact accurate
  | cons first rest ih => exact ih (first.tally.accurate accurate)

private theorem Moves.suffix (moves : Moves now none session turn)
    (suffix : session.openGrants <:+ session.pendingGrants) :
    turn.state.openGrants <:+ turn.state.pendingGrants := by
  induction moves with
  | nil session => exact suffix
  | cons first rest ih => exact ih (first.tally.suffix suffix)

theorem messageReceived_of_answer {message : Message} {sorcId : Uuid} {response : GrantResponse}
    (kind : message.id = .serviceGrantTrigger) (peer : session.state.peer? = some sorcId)
    (read : Grant.response? sorcId message.payload = some response) :
    session.messageReceived message = session.grantAnswered response := by
  simp only [messageReceived, kind, peer, read]

/-- The session as an answer leaves it before it serves the queue: the list has lost its oldest grant, and
the outstanding request is settled if it asked for one. -/
structure Answered (session answered : Session) : Prop where
  listed : answered.openGrants = session.openGrants.tail
  queue : answered.queue = session.queue
  outstanding : answered.outstanding = match session.outstanding with
    | some (.grant _) => none
    | other => other

namespace Answered

variable {answered : Session}

private theorem pending_of_grant (effect : Answered session answered) {grant : UInt16}
    (waiting : session.outstanding = some (.grant grant)) :
    answered.pendingGrants = session.pendingGrants.tail := by
  rw [pendingGrants, pendingGrants, effect.outstanding, effect.queue, waiting]
  rfl

private theorem pending_of_other (effect : Answered session answered)
    (other : ∀ grant, session.outstanding ≠ some (.grant grant)) :
    answered.outstanding = session.outstanding ∧ answered.pendingGrants = session.pendingGrants := by
  have same : answered.outstanding = session.outstanding := by
    rw [effect.outstanding]
    split
    · next grant waiting => exact absurd waiting (other grant)
    · rfl
  exact ⟨same, by rw [pendingGrants, pendingGrants, same, effect.queue]⟩

end Answered

/-- A call that brings an answer takes the oldest grant off the list, whatever is outstanding, and goes on
to serve the queue. -/
theorem act_of_answer {response : GrantResponse} (brought : session.answer? input = some response) :
    ∃ answered, Answered session answered ∧ (session.act input).state = answered.serve.state := by
  obtain ⟨now, action⟩ := input
  cases action with
  | receive result =>
    simp only [answer?, answerIn?] at brought
    split at brought
    · next message reports =>
      split at brought
      · next kind =>
        obtain ⟨sorcId, peer, read⟩ := Option.bind_eq_some_iff.mp brought
        have heard : channelReported now (session.adopt (session.channel.receive result)).state
            (.messageReceived (.ok message)) =
            grantAnswered { (session.adopt (session.channel.receive result)).state with lastHeard := now }
              response := messageReceived_of_answer kind peer read
        have whole : (session.act ⟨now, .receive result⟩).state =
            (Turn.forEach (channelReported now) (session.adopt (session.channel.receive result)).state
              (session.channel.receive result).reports).state := rfl
        rw [whole, reports, Turn.forEach_singleton, heard, grantAnswered_eq]
        exact ⟨(settle { (session.adopt (session.channel.receive result)).state with lastHeard := now }
          response).state, ⟨rfl, rfl, rfl⟩, rfl⟩
      · cases brought
    · cases brought
  | _ => cases brought

/-- A stray answer takes the oldest grant off the list and leaves the pending ones as they are. -/
theorem act_of_strays (strays : session.Strays input) :
    (session.act input).state.openGrants = session.openGrants.tail ∧
      (session.act input).state.pendingGrants = session.pendingGrants := by
  obtain ⟨some, waiting, _⟩ := strays
  obtain ⟨response, brought⟩ := Option.isSome_iff_exists.mp some
  obtain ⟨answered, effect, reached⟩ := act_of_answer brought
  obtain ⟨same, pending⟩ := effect.pending_of_other (by simp [waiting])
  rw [reached, serve_of_waiting (same.trans waiting)]
  exact ⟨effect.listed, pending⟩

/-- A call keeps an accurate list accurate exactly if no answer strays. -/
theorem accurate_act_iff (settled : Settled defaultMtu session) (rested : session.Rested)
    (accurate : session.Accurate) (input : Input) :
    (session.act input).state.Accurate ↔ ¬ session.Strays input := by
  constructor
  · intro kept strays
    obtain ⟨tail, pending⟩ := act_of_strays strays
    rw [Accurate, tail, pending, ← accurate] at kept
    have shorter := congrArg List.length kept
    have listed := List.length_pos_iff.mpr strays.2.2
    rw [List.length_tail] at shorter
    omega
  · intro orderly
    cases brought : session.answer? input with
    | none =>
      have moves := act_moves settled input
      rw [brought] at moves
      exact moves.accurate accurate
    | some response =>
      obtain ⟨answered, effect, reached⟩ := act_of_answer brought
      have moves : Moves input.now none answered answered.serve := serve_moves
      rw [reached]
      apply moves.accurate
      rw [Accurate, effect.listed]
      cases waiting : session.outstanding with
      | none =>
        have empty : session.pendingGrants = [] := by
          rw [pendingGrants, waiting, rested waiting]
          rfl
        rw [(effect.pending_of_other (by simp [waiting])).2, accurate, empty]
        rfl
      | some request =>
        cases request with
        | heartbeat =>
          have unlisted : session.openGrants = [] := by
            by_contra listed
            exact orderly ⟨by simp [brought], waiting, listed⟩
          rw [(effect.pending_of_other (by simp [waiting])).2, ← accurate, unlisted]
          rfl
        | grant number => rw [effect.pending_of_grant waiting, accurate]

private theorem tail_suffix {listed pending : OpenGrants} (suffix : listed <:+ pending) :
    listed.tail <:+ pending.tail := by
  obtain ⟨earlier, rfl⟩ := suffix
  cases earlier with
  | nil => exact List.suffix_rfl
  | cons grant rest => exact (List.tail_suffix listed).trans (List.suffix_append rest listed)

/-- The list never names a grant that is not pending: those it lacks are the oldest. -/
theorem suffix_act (settled : Settled defaultMtu session)
    (suffix : session.openGrants <:+ session.pendingGrants) (input : Input) :
    (session.act input).state.openGrants <:+ (session.act input).state.pendingGrants := by
  cases brought : session.answer? input with
  | none =>
    have moves := act_moves settled input
    rw [brought] at moves
    exact moves.suffix suffix
  | some response =>
    obtain ⟨answered, effect, reached⟩ := act_of_answer brought
    have moves : Moves input.now none answered answered.serve := serve_moves
    rw [reached]
    apply moves.suffix
    rw [effect.listed]
    by_cases waiting : ∃ grant, session.outstanding = some (.grant grant)
    · obtain ⟨grant, waiting⟩ := waiting
      rw [effect.pending_of_grant waiting]
      exact tail_suffix suffix
    · rw [(effect.pending_of_other fun grant held => waiting ⟨grant, held⟩).2]
      exact (List.tail_suffix _).trans suffix

/-- How the published list relates to the pending grants after the calls of a run. -/
structure Ledger (calls : List (Call Session Input)) (session : Session) : Prop where
  suffix : session.openGrants <:+ session.pendingGrants
  /-- An accurate list becomes wrong with a stray answer and with nothing else. -/
  accurate_iff : ∀ call ∈ calls, call.before.Accurate →
    ((call.before.act call.input).state.Accurate ↔ ¬ call.before.Strays call.input)
  strays : ∀ call ∈ calls, call.before.Strays call.input →
    (call.before.act call.input).state.openGrants = call.before.openGrants.tail ∧
      (call.before.act call.input).state.pendingGrants = call.before.pendingGrants
  accurate : (∀ call ∈ calls, ¬ call.before.Strays call.input) → session.Accurate

private theorem ledger_fresh (handset : Handset) (defaultMtu : Nat) (config : Config) :
    Ledger [] (fresh handset defaultMtu config) where
  suffix := List.nil_suffix
  accurate_iff := by simp
  strays := by simp
  accurate _ := rfl

theorem Ledger.act {calls : List (Call Session Input)} (ledger : Ledger calls session)
    (settled : Settled defaultMtu session) (rested : session.Rested) (input : Input) :
    Ledger (calls ++ [⟨session, input⟩]) (session.act input).state where
  suffix := suffix_act settled ledger.suffix input
  accurate_iff := by
    intro call member accurate
    rcases List.mem_append.mp member with earlier | last
    · exact ledger.accurate_iff call earlier accurate
    · cases List.mem_singleton.mp last
      exact accurate_act_iff settled rested accurate input
  strays := by
    intro call member strays
    rcases List.mem_append.mp member with earlier | last
    · exact ledger.strays call earlier strays
    · cases List.mem_singleton.mp last
      exact act_of_strays strays
  accurate := by
    intro orderly
    have accurate := ledger.accurate fun call member => orderly call (List.mem_append_left _ member)
    exact (accurate_act_iff settled rested accurate input).mpr
      (orderly _ (List.mem_append_right _ (List.mem_singleton_self _)))

/-- In every run the list names the newest of the pending grants, and all of them unless an answer has
strayed. -/
theorem ledger_of_run (handset : Handset) (defaultMtu : Nat) (config : Config) (inputs : List Input) :
    Ledger ((fresh handset defaultMtu config).history inputs)
      ((fresh handset defaultMtu config).run inputs).state := by
  have both : ((fresh handset defaultMtu config).run inputs).state.Rested ∧
      Ledger ((fresh handset defaultMtu config).history inputs)
        ((fresh handset defaultMtu config).run inputs).state := by
    apply settled_run_induction (motive := fun calls session => session.Rested ∧ Ledger calls session)
    · exact ⟨fun _ => rfl, ledger_fresh handset defaultMtu config⟩
    · rintro calls session input settled ⟨rested, ledger⟩
      exact ⟨act_rested settled rested input, ledger.act settled rested input⟩
  exact both.2

/-- An answer that nobody asked for, sealed by a peer that drew zeros. -/
def unasked : Bytes :=
  let message : Message := ⟨.serviceGrantTrigger, Grant.answer 9 .success []⟩
  let envelope := ((Channel.zeroSession .toPhone).encrypt message.toBytes).1
  Frame.toBytes ⟨.single, 0, 0, UInt16.ofNat envelope.length, envelope⟩

/-- A session with a peer that draws zeros: a heartbeat is outstanding when a grant is asked for, and the
peer answers a grant that nobody asked for. -/
def strayInputs : List Input :=
  let proof := (Aes.Cipher.ofKey .zero).encrypt (Block.zero.rotate.xor .zero)
  [⟨0, .connect Channel.zeroCredentials⟩, ⟨0, .radioEvent (.connected ⟨.zero⟩)⟩,
    ⟨0, .receive (.ok [0x30, 0, 2, 0, 0x07, 200])⟩, ⟨0, .confirm (.ok ())⟩,
    ⟨0, .receive (.ok ([0x30, 0, 33, 0, 0x02] ++ Block.zero.toList ++ proof.toList))⟩,
    ⟨0, .confirm (.ok ())⟩, ⟨2000, .tick⟩, ⟨2000, .requestGrant 5⟩, ⟨2000, .receive (.ok unasked)⟩]

/-- The list is empty although the grant waits in the queue. -/
theorem not_accurate_after_stray :
    let session := ((fresh (Channel.zeroHandset 8) 200 .standard).run strayInputs).state
    session.openGrants = [] ∧ session.pendingGrants = [5] := by
  decide +kernel

end Session

end PhoneKey
