import Mathlib.Data.List.DropRight
import PhoneKey.Proofs.Session.Grants
import PhoneKey.Proofs.Session.Publications

/-! # Grants in the order in which they were accepted

A grant that is accepted waits until it is given to the channel. What empties the queue is published, as a
failure or as a reset, and from one such flush to the next grants leave the queue in the order in which
they came and none of them twice.
-/

namespace PhoneKey

/-- The grant that is published as accepted. -/
def Effect.accepted? : Effect → Option UInt16
  | .announce (.grants ⟨_, .requested grant true⟩) => some grant
  | _ => none

/-- The grant that is given to the channel. -/
def Effect.handed? : Effect → Option UInt16
  | .attempt (.grant grant) _ _ => some grant
  | _ => none

/-- Whether an effect publishes that every grant is given up or forgotten. -/
def Effect.isFlush : Effect → Bool
  | .announce (.grants ⟨_, .failed _⟩) => true
  | .announce (.grants ⟨_, .reset⟩) => true
  | _ => false

/-- The grants that were accepted, oldest first. -/
def accepted (effects : List Effect) : List UInt16 := effects.filterMap Effect.accepted?

/-- The grants that were given to the channel, oldest first. -/
def handed (effects : List Effect) : List UInt16 := effects.filterMap Effect.handed?

/-- What came after the last flush. -/
def sinceFlush (effects : List Effect) : List Effect := effects.rtakeWhile fun effect => !effect.isFlush

/-- How an effect changes the grants that wait. -/
inductive Shift : OpenGrants → Effect → OpenGrants → Prop
  | accepts (waiting listed : OpenGrants) (grant : UInt16) :
      Shift waiting (.announce (.grants ⟨listed, .requested grant true⟩)) (waiting ++ [grant])
  | hands (waiting : OpenGrants) (grant : UInt16) (state : SessionState) (outstanding : Option Request) :
      Shift (grant :: waiting) (.attempt (.grant grant) state outstanding) waiting
  | flushes {effect : Effect} (waiting : OpenGrants) (flush : effect.isFlush = true) :
      Shift waiting effect []
  | passes {effect : Effect} (waiting : OpenGrants) (spared : effect.isFlush = false)
      (unaccepted : effect.accepted? = none) (unhanded : effect.handed? = none) :
      Shift waiting effect waiting

/-- How effects that come one after the other change the grants that wait. -/
inductive Shifts (before : OpenGrants) : List Effect → OpenGrants → Prop
  | nil : Shifts before [] before
  | concat {effects : List Effect} {effect : Effect} {middle after : OpenGrants} :
      Shifts before effects middle → Shift middle effect after → Shifts before (effects ++ [effect]) after

section

variable {before middle after : OpenGrants} {effect : Effect} {first second effects : List Effect}

theorem accepted_append (first second : List Effect) :
    accepted (first ++ second) = accepted first ++ accepted second := List.filterMap_append

theorem handed_append (first second : List Effect) :
    handed (first ++ second) = handed first ++ handed second := List.filterMap_append

theorem sinceFlush_concat (effects : List Effect) (effect : Effect) :
    sinceFlush (effects ++ [effect]) = if effect.isFlush then [] else sinceFlush effects ++ [effect] := by
  rw [sinceFlush, List.rtakeWhile_concat]
  cases effect.isFlush <;> rfl

/-- What waited and what is accepted is what is handed on and what waits then. -/
theorem Shift.conserves (shift : Shift before effect after) (spared : effect.isFlush = false) :
    before ++ accepted [effect] = handed [effect] ++ after := by
  cases shift with
  | accepts waiting listed grant => rfl
  | hands waiting grant state outstanding => exact List.append_nil _
  | flushes waiting flush => cases spared.symm.trans flush
  | passes waiting spared unaccepted unhanded =>
    simp [accepted, handed, unaccepted, unhanded]

/-- Nothing waits after a flush. -/
theorem Shift.cleared (shift : Shift before effect after) (flush : effect.isFlush = true) : after = [] := by
  cases shift with
  | accepts waiting listed grant => cases flush
  | hands waiting grant state outstanding => cases flush
  | flushes waiting flush => rfl
  | passes waiting spared unaccepted unhanded => cases spared.symm.trans flush

theorem Shifts.append (early : Shifts before first middle) (late : Shifts middle second after) :
    Shifts before (first ++ second) after := by
  induction late with
  | nil =>
    rw [List.append_nil]
    exact early
  | concat _ last ih =>
    rw [← List.append_assoc]
    exact ih.concat last

private theorem Shifts.last (shifts : Shifts before (effects ++ [effect]) after) :
    ∃ middle, Shifts before effects middle ∧ Shift middle effect after := by
  generalize whole : effects ++ [effect] = all at shifts
  cases shifts with
  | nil => exact absurd whole (by simp)
  | concat early last =>
    obtain ⟨rfl, same⟩ := List.append_inj' whole rfl
    cases same
    exact ⟨_, early, last⟩

/-- What waited at an earlier time. -/
theorem Shifts.earlier (shifts : Shifts before (first ++ second) after) :
    ∃ middle, Shifts before first middle := by
  induction second using List.reverseRecOn generalizing after with
  | nil =>
    rw [List.append_nil] at shifts
    exact ⟨after, shifts⟩
  | append_singleton second effect ih =>
    rw [← List.append_assoc] at shifts
    obtain ⟨_, early, _⟩ := shifts.last
    exact ih early

/-- The grants that were accepted since the last flush were handed on since then, or they wait. -/
theorem Shifts.recent (shifts : Shifts [] effects after) :
    accepted (sinceFlush effects) = handed (sinceFlush effects) ++ after := by
  induction shifts with
  | nil => rfl
  | @concat effects effect middle after _ last ih =>
    rw [sinceFlush_concat]
    cases spared : effect.isFlush with
    | true =>
      rw [last.cleared spared]
      rfl
    | false =>
      simp only [Bool.false_eq_true, if_false, accepted_append, handed_append, ih]
      rw [List.append_assoc, last.conserves spared, List.append_assoc]

/-- A grant that is handed on is the oldest one that was accepted since the last flush and not handed on. -/
theorem Shifts.oldest {grant : UInt16} {state : SessionState} {outstanding : Option Request}
    (shifts : Shifts [] (first ++ .attempt (.grant grant) state outstanding :: second) after) :
    ∃ rest, accepted (sinceFlush first) = handed (sinceFlush first) ++ grant :: rest := by
  rw [List.append_cons] at shifts
  obtain ⟨rest, through⟩ := shifts.earlier
  obtain ⟨middle, early, last⟩ := through.last
  cases last with
  | hands waiting => exact ⟨rest, early.recent⟩
  | flushes waiting flush => cases flush
  | passes waiting spared unaccepted unhanded => cases unhanded

/-- Effects none of which accepts, hands on or flushes a grant. -/
theorem shifts_of_other (waiting : OpenGrants)
    (other : ∀ effect ∈ effects,
      effect.isFlush = false ∧ effect.accepted? = none ∧ effect.handed? = none) :
    Shifts waiting effects waiting := by
  induction effects using List.reverseRecOn with
  | nil => exact .nil
  | append_singleton effects effect ih =>
    obtain ⟨early, last⟩ := List.forall_mem_append.mp other
    obtain ⟨spared, unaccepted, unhanded⟩ := last effect (List.mem_singleton_self _)
    exact (ih early).concat (.passes waiting spared unaccepted unhanded)

private theorem shifts_of_lower (waiting : OpenGrants) (lower : ∀ effect ∈ effects, effect.isLower = true) :
    Shifts waiting effects waiting := by
  refine shifts_of_other waiting fun effect member => ?_
  have below := lower effect member
  cases effect with
  | announce news => cases news <;> first | exact ⟨rfl, rfl, rfl⟩ | cases below
  | radio call => exact ⟨rfl, rfl, rfl⟩
  | _ => cases below

private theorem shifts_of_connection (waiting : OpenGrants)
    (connection : ∀ effect ∈ effects, effect.isConnection = true) : Shifts waiting effects waiting := by
  refine shifts_of_other waiting fun effect member => ?_
  have told := connection effect member
  cases effect with
  | announce news => cases news <;> first | exact ⟨rfl, rfl, rfl⟩ | cases told
  | telemetry event => exact ⟨rfl, rfl, rfl⟩
  | _ => cases told

end

namespace Session

variable {defaultMtu now : Nat} {answer : Option GrantResponse} {session : Session} {turn : SessionTurn}

/-- The grants in the queue, oldest first. -/
def queuedGrants (session : Session) : OpenGrants := session.queue.items.filterMap Request.grant?

theorem queuedGrants_of_waiting {request : Request} {rest : List Request}
    (waiting : session.queue.items = request :: rest) :
    session.queuedGrants = request.grant?.toList ++ rest.filterMap Request.grant? := by
  rw [queuedGrants, waiting, List.filterMap_cons]
  cases request <;> rfl

theorem queuedGrants_of_enqueue {request : Request} {queue : Backlog Request}
    (room : session.queue.enqueue request = .ok queue) :
    queuedGrants { session with queue } = session.queuedGrants ++ request.grant?.toList := by
  obtain ⟨_, rfl⟩ := Backlog.enqueue_eq_ok_iff.mp room
  rw [queuedGrants, List.filterMap_append]
  cases request <;> rfl

/-- A request leaves the queue when it is given to the channel. -/
theorem shifts_forward {request : Request} {rest : List Request}
    (waiting : session.queue.items = request :: rest) :
    Shifts session.queuedGrants (session.forward request rest).2.effects
      (rest.filterMap Request.grant?) := by
  obtain ⟨lower, whole, below⟩ := effects_forward session request rest
  rw [whole, queuedGrants_of_waiting waiting]
  have tried : Shift (request.grant?.toList ++ rest.filterMap Request.grant?)
      (.attempt request session.state session.outstanding) (rest.filterMap Request.grant?) := by
    cases request with
    | heartbeat => exact .passes _ rfl rfl rfl
    | grant number => exact .hands _ number _ _
  exact (Shifts.concat .nil tried).append (shifts_of_lower _ below)

private theorem shifts_publish (waiting : OpenGrants) (state : SessionState) (reason : SessionReason) :
    Shifts waiting (session.publish state reason).effects waiting :=
  shifts_of_connection waiting (isConnection_publish session state reason)

private theorem shifts_surrender (waiting : OpenGrants) (failure : RequestFailure) :
    Shifts waiting (session.surrender failure).effects [] := by
  refine Shifts.append (.concat .nil (.flushes waiting rfl)) (shifts_of_other [] ?_)
  simp [tell, Effect.isFlush, Effect.accepted?, Effect.handed?]

private theorem shifts_finish (waiting : OpenGrants) (reason : SessionReason) :
    Shifts waiting (session.finish reason).effects [] :=
  Shifts.append (.concat .nil (.flushes waiting rfl)) (shifts_publish [] _ _)

/-- Every move takes the grants that waited before it to those that wait after it. -/
theorem Move.shifts (move : Move now answer session turn) (settled : Settled defaultMtu session) :
    Shifts session.queuedGrants turn.effects turn.state.queuedGrants := by
  cases move with
  | passes served news => exact shifts_of_lower _ (served.effects settled)
  | hears served news => exact shifts_of_lower _ (served.effects settled)
  | advances served news advance reached =>
    exact (shifts_of_lower _ (served.effects settled)).append (shifts_publish _ _ _)
  | establishes served news opening reached =>
    exact (shifts_of_lower _ (served.effects settled)).append (shifts_publish _ _ _)
  | ends served news engaged reached =>
    exact (shifts_of_lower _ (served.effects settled)).append (shifts_finish _ _)
  | recoils served news advance engaged reached =>
    exact ((shifts_of_lower _ (served.effects settled)).append (shifts_publish _ _ _)).append
      (shifts_finish _ _)
  | releases waiting => exact .nil
  | answers brought connected =>
    refine shifts_of_other _ ?_
    simp [settle, publishGrants, Turn.andThen, Effect.isFlush, Effect.accepted?, Effect.handed?]
  | abandons failure waiting => exact shifts_surrender _ failure
  | queues connected spare single room =>
    rw [Turn.idle, queuedGrants_of_enqueue room, Request.grant?, Option.toList_none, List.append_nil]
    exact .nil
  | sends connected free waiting taken => exact shifts_forward waiting
  | drops connected free waiting refused => exact shifts_forward waiting
  | breaks connected free waiting refused => exact (shifts_forward waiting).append (shifts_surrender _ _)
  | @accepts grant sorcId queue connected room =>
    have queued : (register { session with queue } sorcId grant true
        (session.openGrants ++ [grant])).state.queuedGrants = session.queuedGrants ++ [grant] :=
      queuedGrants_of_enqueue room
    rw [queued]
    refine Shifts.append (.concat .nil (.accepts _ _ _)) (shifts_of_other _ ?_)
    simp [Effect.isFlush, Effect.accepted?, Effect.handed?]
  | declines connected full =>
    refine shifts_of_other _ ?_
    simp [register, publishGrants, Turn.andThen, Effect.isFlush, Effect.accepted?, Effect.handed?]
  | checks connected => exact .nil
  | beats connected => exact .nil

private theorem Moves.shifts (moves : Moves now answer session turn) (settled : Settled defaultMtu session) :
    Shifts session.queuedGrants turn.effects turn.state.queuedGrants := by
  induction moves with
  | nil session => exact .nil
  | cons first rest ih => exact (first.shifts settled).append (ih (first.settled settled))

theorem accepted_of_serving (serving : Serving turn) : accepted turn.effects = [] := by
  refine List.filterMap_eq_nil_iff.mpr fun effect member => ?_
  have served := serving effect member
  unfold Effect.accepted?
  split
  · cases served
  · rfl

end Session

end PhoneKey
