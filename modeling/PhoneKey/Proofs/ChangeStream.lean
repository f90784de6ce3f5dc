import PhoneKey.ChangeStream

/-! # What subscribers hear

Both kinds of streams are followed through any sequence of operations. What happens is written down as it
shows from outside: the number that a subscriber is given and what it is told at once, whether there was
somebody to remove, and who is told about a publication. Both streams keep the same book about their audience
and differ in two points only, in what is replayed to a new subscriber and in the publications that pass.
-/

namespace PhoneKey

namespace Streams

variable {Stream News : Type}

/-- What can be done with a stream. -/
inductive Operation (News : Type) where
  | subscribe
  | unsubscribe (member : Nat)
  | publish (news : News)
deriving Repr

/-- What an operation comes to. -/
inductive Event (News : Type) where
  /-- A subscriber is given a number and told where the stream stands. -/
  | subscribed (member : Nat) (replay : News)
  /-- Whether there was a subscriber of that number. -/
  | unsubscribed (member : Nat) (present : Bool)
  /-- Who is told what on account of a publication, in order. -/
  | published (news : News) (told : List (Nat × News))
deriving DecidableEq, Repr

/-- One operation of a stream. -/
abbrev Step (Stream News : Type) := Stream → Operation News → Event News × Stream

/-- What happens in a sequence of operations. -/
def record (step : Step Stream News) (stream : Stream) : List (Operation News) → List (Event News)
  | [] => []
  | operation :: rest => (step stream operation).1 :: record step (step stream operation).2 rest

/-- The stream after a sequence of operations. -/
def after (step : Step Stream News) (stream : Stream) (operations : List (Operation News)) : Stream :=
  operations.foldl (fun stream operation => (step stream operation).2) stream

end Streams

open Streams

/-- One operation of a stream of changes. -/
def ChangeStream.perform {State Reason : Type} [Replayable Reason] :
    Step (ChangeStream State) (Change State Reason)
  | stream, .subscribe =>
    let (subscriber, next) : (Nat × Change State Reason) × ChangeStream State := stream.subscribe
    (.subscribed subscriber.1 subscriber.2, next)
  | stream, .unsubscribe member =>
    let (present, next) := stream.unsubscribe member
    (.unsubscribed member present, next)
  | stream, .publish change =>
    let (told, next) := stream.publish change
    (.published change told, next)

/-- One operation of a stream of values. -/
def ValueStream.perform {Value : Type} [DecidableEq Value] : Step (ValueStream Value) Value
  | stream, .subscribe =>
    let (subscriber, next) := stream.subscribe
    (.subscribed subscriber.1 subscriber.2, next)
  | stream, .unsubscribe member =>
    let (present, next) := stream.unsubscribe member
    (.unsubscribed member present, next)
  | stream, .publish value =>
    let (told, next) := stream.set value
    (.published value told, next)

namespace Streams

variable {Stream News : Type}

/-- Where the kinds of streams differ. -/
structure Rule (News : Type) where
  /-- What a new subscriber is told, given the latest news. -/
  replay : News → News
  /-- Whether news are told, given those before them. -/
  passes : News → News → Bool

/-- Every change is told. A new subscriber hears of the current state without its reason. -/
def Rule.changes {State Reason : Type} [Replayable Reason] : Rule (Change State Reason) where
  replay latest := ⟨latest.state, Replayable.initial⟩
  passes _ _ := true

/-- A value is told if it differs from the one before. -/
def Rule.values {Value : Type} [DecidableEq Value] : Rule Value where
  replay latest := latest
  passes before value := before ≠ value

/-- The news that pass, given the latest ones before them. -/
def Rule.passing (rule : Rule News) : News → List News → List News
  | _, [] => []
  | before, news :: rest =>
    if rule.passes before news then news :: rule.passing news rest else rule.passing news rest

namespace Event

/-- The operation that came to this. -/
def operation : Event News → Operation News
  | .subscribed _ _ => .subscribe
  | .unsubscribed member _ => .unsubscribe member
  | .published news _ => .publish news

/-- The number that a subscriber is given. -/
def number? : Event News → Option Nat
  | .subscribed member _ => some member
  | _ => none

def news? : Event News → Option News
  | .published news _ => some news
  | _ => none

/-- What the subscriber of a number is told. -/
def heard (member : Nat) : Event News → List News
  | .subscribed other replay => if other = member then [replay] else []
  | .unsubscribed _ _ => []
  | .published _ told => (told.filter fun telling => telling.1 == member).map Prod.snd

/-- The answer to somebody who unsubscribes a number. -/
def answer? (member : Nat) : Event News → Option Bool
  | .unsubscribed other present => if other = member then some present else none
  | _ => none

/-- Those who listen after an event, in the order in which they subscribed. -/
def listeners (members : List Nat) : Event News → List Nat
  | .subscribed member _ => members ++ [member]
  | .unsubscribed member _ => members.filter (· != member)
  | .published _ _ => members

end Event

/-- The numbers that were given to subscribers. -/
def numbers (events : List (Event News)) : List Nat := events.filterMap Event.number?

/-- All news, whether they were told or not. -/
def published (events : List (Event News)) : List News := events.filterMap Event.news?

/-- The latest news. -/
def latest (start : News) (events : List (Event News)) : News := (published events).getLastD start

/-- What the subscriber of a number heard, in order. -/
def heard (member : Nat) (events : List (Event News)) : List News := events.flatMap (Event.heard member)

/-- The answers to those who unsubscribed a number, in order. -/
def answers (member : Nat) (events : List (Event News)) : List Bool := events.filterMap (Event.answer? member)

/-- Those who subscribed and did not unsubscribe since, in the order in which they subscribed. -/
def listeners (events : List (Event News)) : List Nat := events.foldl Event.listeners []

/-- What happens until a number is unsubscribed. -/
def whileListening (member : Nat) (events : List (Event News)) : List (Event News) :=
  events.takeWhile fun event => (event.answer? member).isNone

/-- A stream loses, repeats and misdirects nothing. -/
structure Faithful (rule : Rule News) (start : News) (operations : List (Operation News))
    (events : List (Event News)) (members : List Nat) : Prop where
  /-- Every operation shows. -/
  complete : events.map Event.operation = operations
  /-- A subscriber hears where the stream stands, and then the news that pass until it unsubscribes. -/
  hears : ∀ earlier member replay later, events = earlier ++ .subscribed member replay :: later →
    heard member events = rule.replay (latest start earlier) ::
      rule.passing (latest start earlier) (published (whileListening member later))
  /-- Nobody else hears anything. -/
  unheard : ∀ member ∉ numbers events, heard member events = []
  /-- News that pass are told to everybody who listens, in the order in which they subscribed. -/
  reaches : ∀ earlier news told later, events = earlier ++ .published news told :: later →
    told = if rule.passes (latest start earlier) news then (listeners earlier).map (·, news) else []
  /-- No number is given twice. -/
  fresh : (numbers events).Nodup
  /-- A number can be unsubscribed once, after it was given. -/
  once : ∀ earlier member replay later, events = earlier ++ .subscribed member replay :: later →
    (∀ answer ∈ answers member earlier, answer = false) ∧
      (answers member later = [] ∨ ∃ refusals, answers member later = true :: refusals ∧
        ∀ answer ∈ refusals, answer = false)
  /-- Somebody is removed if the number is that of a listener. -/
  present : ∀ earlier member present later, events = earlier ++ .unsubscribed member present :: later →
    (present = true ↔ member ∈ listeners earlier)
  /-- Those who are left are those who subscribed and did not unsubscribe since. -/
  remaining : members = listeners events

/-- The latest news of a stream, and its audience. -/
structure Station (News : Type) where
  latest : News
  audience : Audience

/-- One operation of a stream, in terms of its rule. -/
def Rule.perform (rule : Rule News) : Step (Station News) News
  | station, .subscribe =>
    (.subscribed station.audience.join.1 (rule.replay station.latest),
      { station with audience := station.audience.join.2 })
  | station, .unsubscribe member =>
    (.unsubscribed member (station.audience.leave member).1,
      { station with audience := (station.audience.leave member).2 })
  | station, .publish news =>
    (.published news (if rule.passes station.latest news then station.audience.tell news else []),
      { station with latest := news })

private theorem record_split {step : Step Stream News} {stream : Stream} {operations : List (Operation News)}
    {earlier later : List (Event News)} {event : Event News}
    (whole : record step stream operations = earlier ++ event :: later) :
    ∃ first operation rest, record step stream first = earlier ∧
      (step (after step stream first) operation).1 = event ∧
      record step (step (after step stream first) operation).2 rest = later := by
  induction earlier generalizing stream operations with
  | nil =>
    cases operations with
    | nil => cases whole
    | cons operation rest =>
      obtain ⟨made, others⟩ := List.cons.inj whole
      exact ⟨[], operation, rest, rfl, made, others⟩
  | cons before earlier ih =>
    cases operations with
    | nil => cases whole
    | cons operation rest =>
      obtain ⟨rfl, others⟩ := List.cons.inj whole
      obtain ⟨first, last, following, early, made, late⟩ := ih others
      exact ⟨operation :: first, last, following, congrArg _ early, made, late⟩

theorem leave_iff (audience : Audience) (member : Nat) :
    (audience.leave member).1 = true ↔ member ∈ audience.members := by
  simp [Audience.leave, List.length_filter_eq_length_iff]

/-- Somebody is told news as often as it is listed. -/
theorem heard_tell (audience : Audience) (news : News) (member : Nat) :
    Event.heard member (.published news (audience.tell news)) =
      List.replicate (audience.members.count member) news := by
  have told : (Prod.snd : Nat × News → News) ∘ (fun other => (other, news)) = fun _ => news := rfl
  have picked : (fun telling : Nat × News => telling.1 == member) ∘ (fun other => (other, news)) =
      (· == member) := rfl
  rw [Event.heard, Audience.tell, List.filter_map, List.map_map, told, picked, List.map_const',
    List.count_eq_length_filter]

section

variable {rule : Rule News} {station : Station News} {operations : List (Operation News)} {member : Nat}

private theorem operations_record :
    (record rule.perform station operations).map Event.operation = operations := by
  induction operations generalizing station with
  | nil => rfl
  | cons operation rest ih => cases operation <;> exact congrArg (List.cons _) ih

private theorem latest_after : (after rule.perform station operations).latest =
    latest station.latest (record rule.perform station operations) := by
  induction operations generalizing station with
  | nil => rfl
  | cons operation rest ih =>
    cases operation with
    | subscribe => exact ih
    | unsubscribe member => exact ih
    | publish news => exact ih.trans (List.getLastD_cons ..).symm

private theorem members_after : (after rule.perform station operations).audience.members =
    (record rule.perform station operations).foldl Event.listeners station.audience.members := by
  induction operations generalizing station with
  | nil => rfl
  | cons operation rest ih => cases operation <;> exact ih

/-- The numbers that are given follow each other. -/
theorem numbers_record : numbers (record rule.perform station operations) =
    List.range' station.audience.next (numbers (record rule.perform station operations)).length := by
  induction operations generalizing station with
  | nil => rfl
  | cons operation rest ih =>
    cases operation with
    | subscribe => exact congrArg (station.audience.next :: ·) ih
    | unsubscribe member => exact ih
    | publish news => exact ih

/-- Everybody who listens was given a number, or listened before. -/
theorem mem_listeners {events : List (Event News)} {members : List Nat}
    (listens : member ∈ events.foldl Event.listeners members) :
    member ∈ members ∨ member ∈ numbers events := by
  induction events generalizing members with
  | nil => exact .inl listens
  | cons event rest ih =>
    rcases ih listens with listed | given
    · cases event with
      | subscribed other replay =>
        rcases List.mem_append.mp listed with before | new
        · exact .inl before
        · exact .inr (List.mem_cons.mpr (.inl (List.mem_singleton.mp new)))
      | unsubscribed other present => exact .inl (List.mem_filter.mp listed).1
      | published news told => exact .inl listed
    · exact .inr (((List.sublist_cons_self event rest).filterMap _).subset given)

/-- A publication is told to whoever listens, if it passes. -/
theorem heard_publish (station : Station News) (news : News) (member : Nat) :
    (rule.perform station (.publish news)).1.heard member =
      if rule.passes station.latest news then
        List.replicate (station.audience.members.count member) news
      else [] := by
  rw [← heard_tell, Rule.perform]
  split <;> rfl

/-- The next number is given to somebody else. -/
theorem count_join {audience : Audience} (other : member ≠ audience.next) :
    audience.join.2.members.count member = audience.members.count member := by
  simp [Audience.join, Ne.symm other]

private theorem count_leave {audience : Audience} {number : Nat} (other : member ≠ number) :
    (audience.leave number).2.members.count member = audience.members.count member := by
  simp [Audience.leave, List.count_filter, other]

private theorem count_left (audience : Audience) (member : Nat) :
    (audience.leave member).2.members.count member = 0 := by
  simp [Audience.leave, List.count_eq_zero]

/-- Nobody comes back by somebody else's leaving. -/
theorem count_leave_of_absent {audience : Audience} (absent : audience.members.count member = 0)
    (number : Nat) : (audience.leave number).2.members.count member = 0 :=
  Nat.le_zero.mp (absent ▸ List.filter_sublist.count_le member)

/-- Whoever does not listen and does not come to listen hears nothing. -/
theorem heard_of_absent (absent : station.audience.members.count member = 0)
    (unmet : member ∉ numbers (record rule.perform station operations)) :
    heard member (record rule.perform station operations) = [] := by
  induction operations generalizing station with
  | nil => rfl
  | cons operation rest ih =>
    rw [record, heard, List.flatMap_cons, ← heard]
    cases operation with
    | subscribe =>
      obtain ⟨other, later⟩ := not_or.mp (mt List.mem_cons.mpr unmet)
      rw [@ih (rule.perform station .subscribe).2 ((count_join other).trans absent) later,
        List.append_nil]
      exact if_neg (Ne.symm other)
    | unsubscribe number =>
      exact @ih (rule.perform station (.unsubscribe number)).2 (count_leave_of_absent absent number) unmet
    | publish news =>
      rw [heard_publish, absent, List.replicate_zero, ite_self]
      exact @ih (rule.perform station (.publish news)).2 absent unmet

/-- A listener hears the news that pass until it unsubscribes. -/
theorem heard_of_listening (listening : station.audience.members.count member = 1)
    (unmet : member ∉ numbers (record rule.perform station operations)) :
    heard member (record rule.perform station operations) =
      rule.passing station.latest
        (published (whileListening member (record rule.perform station operations))) := by
  induction operations generalizing station with
  | nil => rfl
  | cons operation rest ih =>
    rw [record, heard, List.flatMap_cons, ← heard]
    cases operation with
    | subscribe =>
      obtain ⟨other, later⟩ := not_or.mp (mt List.mem_cons.mpr unmet)
      have following := @ih (rule.perform station .subscribe).2 ((count_join other).trans listening) later
      have silent : (rule.perform station .subscribe).1.heard member = [] := if_neg (Ne.symm other)
      rw [silent, following]
      rfl
    | unsubscribe number =>
      by_cases same : number = member
      · subst same
        have silent := @heard_of_absent _ rule (rule.perform station (.unsubscribe number)).2 rest number
          (count_left station.audience number) unmet
        have ended : whileListening number ((rule.perform station (.unsubscribe number)).1 ::
            record rule.perform (rule.perform station (.unsubscribe number)).2 rest) = [] :=
          List.takeWhile_cons_of_neg (by simp [Rule.perform, Event.answer?])
        rw [silent, ended]
        rfl
      · have still := (count_leave (Ne.symm same)).trans listening
        have goesOn : whileListening member ((rule.perform station (.unsubscribe number)).1 ::
            record rule.perform (rule.perform station (.unsubscribe number)).2 rest) =
            (rule.perform station (.unsubscribe number)).1 :: whileListening member
              (record rule.perform (rule.perform station (.unsubscribe number)).2 rest) :=
          List.takeWhile_cons_of_pos (by simp [Rule.perform, Event.answer?, same])
        rw [goesOn]
        exact @ih (rule.perform station (.unsubscribe number)).2 still unmet
    | publish news =>
      have following := @ih (rule.perform station (.publish news)).2 listening unmet
      rw [heard_publish, listening, following]
      cases passes : rule.passes station.latest news with
      | true => exact (if_pos passes).symm
      | false => exact (if_neg (by simp [passes])).symm

/-- The answer to whoever unsubscribes a number, if that is what is done. -/
theorem answer_perform (rule : Rule News) (station : Station News) (number member : Nat) :
    (rule.perform station (.unsubscribe number)).1.answer? member =
      if number = member then some (station.audience.leave number).1 else none := rfl

/-- A number that nobody has cannot be unsubscribed. -/
theorem answers_of_absent (absent : station.audience.members.count member = 0)
    (unmet : member ∉ numbers (record rule.perform station operations)) :
    ∀ answer ∈ answers member (record rule.perform station operations), answer = false := by
  induction operations generalizing station with
  | nil => nofun
  | cons operation rest ih =>
    cases operation with
    | subscribe =>
      obtain ⟨other, later⟩ := not_or.mp (mt List.mem_cons.mpr unmet)
      exact @ih (rule.perform station .subscribe).2 ((count_join other).trans absent) later
    | unsubscribe number =>
      have later := @ih (rule.perform station (.unsubscribe number)).2
        (count_leave_of_absent absent number) unmet
      by_cases same : number = member
      · subst same
        have refused : (station.audience.leave number).1 = false :=
          Bool.eq_false_iff.mpr (mt (leave_iff _ _).mp (List.count_eq_zero.mp absent))
        rw [record, answers, List.filterMap_cons, answer_perform, if_pos rfl, refused]
        exact List.forall_mem_cons.mpr ⟨rfl, later⟩
      · rw [record, answers, List.filterMap_cons, answer_perform, if_neg same]
        exact later
    | publish news => exact @ih (rule.perform station (.publish news)).2 absent unmet

/-- A listener can be unsubscribed once. -/
theorem answers_of_listening (listening : station.audience.members.count member = 1)
    (unmet : member ∉ numbers (record rule.perform station operations)) :
    answers member (record rule.perform station operations) = [] ∨
      ∃ refusals, answers member (record rule.perform station operations) = true :: refusals ∧
        ∀ answer ∈ refusals, answer = false := by
  induction operations generalizing station with
  | nil => exact .inl rfl
  | cons operation rest ih =>
    cases operation with
    | subscribe =>
      obtain ⟨other, later⟩ := not_or.mp (mt List.mem_cons.mpr unmet)
      exact @ih (rule.perform station .subscribe).2 ((count_join other).trans listening) later
    | unsubscribe number =>
      by_cases same : number = member
      · subst same
        have refused := @answers_of_absent _ rule (rule.perform station (.unsubscribe number)).2 rest number
          (count_left station.audience number) unmet
        have left : (station.audience.leave number).1 = true :=
          (leave_iff _ _).mpr (List.count_pos_iff.mp (by omega))
        refine .inr ⟨_, ?_, refused⟩
        rw [record, answers, List.filterMap_cons, answer_perform, if_pos rfl, left]
        rfl
      · have still := (count_leave (Ne.symm same)).trans listening
        have other : answers member (record rule.perform station (.unsubscribe number :: rest)) =
            answers member (record rule.perform (rule.perform station (.unsubscribe number)).2 rest) := by
          rw [record, answers, List.filterMap_cons, answer_perform, if_neg same]
          rfl
        rw [other]
        exact @ih (rule.perform station (.unsubscribe number)).2 still unmet
    | publish news => exact @ih (rule.perform station (.publish news)).2 listening unmet

/-- No number is given twice. -/
theorem nodup_numbers : (numbers (record rule.perform station operations)).Nodup := by
  rw [numbers_record]
  exact List.nodup_range'

end

section

variable {rule : Rule News} {start : News} {operations : List (Operation News)}
  {earlier later : List (Event News)}

/-- Those who listen to a stream are its audience. -/
theorem members_of_new : (after rule.perform ⟨start, .empty⟩ operations).audience.members =
    listeners (record rule.perform ⟨start, .empty⟩ operations) := members_after

/-- Whoever subscribes listens from then on, and nobody had or gets the same number. -/
theorem subscription {member : Nat} {replay : News}
    (whole : record rule.perform ⟨start, .empty⟩ operations = earlier ++ .subscribed member replay :: later) :
    ∃ (first rest : List (Operation News)) (station : Station News),
      earlier = record rule.perform ⟨start, .empty⟩ first ∧ later = record rule.perform station rest ∧
        station.latest = latest start earlier ∧ replay = rule.replay station.latest ∧
        station.audience.members.count member = 1 ∧ member ∉ numbers earlier ∧ member ∉ numbers later := by
  have fresh : (numbers (earlier ++ .subscribed member replay :: later)).Nodup := whole ▸ nodup_numbers
  rw [numbers, List.filterMap_append, List.nodup_append] at fresh
  obtain ⟨_, others, apart⟩ := fresh
  have unmet : member ∉ numbers earlier := fun given => apart member given member List.mem_cons_self rfl
  obtain ⟨first, operation, rest, rfl, made, rfl⟩ := record_split whole
  cases operation with
  | subscribe =>
    cases made
    refine ⟨first, rest, _, rfl, rfl, latest_after, rfl, ?_, unmet, (List.nodup_cons.mp others).1⟩
    generalize joined : after rule.perform ⟨start, .empty⟩ first = station at unmet
    have absent : station.audience.next ∉ station.audience.members := by
      intro listed
      rw [← joined, members_of_new] at listed
      rcases mem_listeners listed with before | given
      · cases before
      · exact unmet (joined ▸ given)
    simp [Rule.perform, Audience.join, List.count_eq_zero.mpr absent]
  | unsubscribe number => cases made
  | publish news => cases made

/-- A stream that follows its rule is faithful. -/
theorem faithful_record (rule : Rule News) (start : News) (operations : List (Operation News)) :
    Faithful rule start operations (record rule.perform ⟨start, .empty⟩ operations)
      (after rule.perform ⟨start, .empty⟩ operations).audience.members where
  complete := operations_record
  hears earlier member replay later whole := by
    obtain ⟨first, rest, station, rfl, rfl, stands, told, listening, unmet, single⟩ := subscription whole
    have joining : Event.heard member (.subscribed member replay) = [replay] := if_pos rfl
    rw [whole, heard, List.flatMap_append, List.flatMap_cons, ← heard, ← heard,
      heard_of_absent rfl unmet, heard_of_listening listening single, ← stands, ← told, joining]
    rfl
  unheard member unmet := heard_of_absent rfl unmet
  reaches earlier news told later whole := by
    obtain ⟨first, operation, rest, rfl, made, rfl⟩ := record_split whole
    cases operation with
    | publish other =>
      cases made
      have stands : (after rule.perform ⟨start, .empty⟩ first).latest = _ := latest_after
      rw [← members_of_new, ← stands]
      rfl
    | subscribe => cases made
    | unsubscribe number => cases made
  fresh := nodup_numbers
  once earlier member replay later whole := by
    obtain ⟨first, rest, station, rfl, rfl, _, _, listening, unmet, single⟩ := subscription whole
    exact ⟨answers_of_absent rfl unmet, answers_of_listening listening single⟩
  present earlier member present later whole := by
    obtain ⟨first, operation, rest, rfl, made, rfl⟩ := record_split whole
    cases operation with
    | unsubscribe number =>
      cases made
      rw [← members_of_new]
      exact leave_iff _ _
    | subscribe => cases made
    | publish news => cases made
  remaining := members_of_new

end

/-- A stream that does what another one does has the same record. -/
theorem record_view {Other : Type} {step : Step Stream News} {other : Step Other News}
    (view : Other → Stream) (same : ∀ stream operation, step (view stream) operation =
      ((other stream operation).1, view (other stream operation).2))
    (stream : Other) (operations : List (Operation News)) :
    record step (view stream) operations = record other stream operations ∧
      after step (view stream) operations = view (after other stream operations) := by
  induction operations generalizing stream with
  | nil => exact ⟨rfl, rfl⟩
  | cons operation rest ih =>
    obtain ⟨events, last⟩ := ih (other stream operation).2
    rw [record, after, List.foldl_cons, ← after, same, events, last]
    exact ⟨rfl, rfl⟩

/-- A stream of changes keeps the state of the latest one. -/
def Station.toChanges {State Reason : Type} (station : Station (Change State Reason)) : ChangeStream State :=
  ⟨station.latest.state, station.audience⟩

def Station.toValues {Value : Type} (station : Station Value) : ValueStream Value :=
  ⟨station.latest, station.audience⟩

private theorem perform_toChanges {State Reason : Type} [Replayable Reason]
    (station : Station (Change State Reason)) (operation : Operation (Change State Reason)) :
    ChangeStream.perform station.toChanges operation =
      ((Rule.changes.perform station operation).1, (Rule.changes.perform station operation).2.toChanges) := by
  cases operation <;> rfl

/-- A value that is repeated is told to nobody, and the stream stays as it is. -/
theorem perform_toValues {Value : Type} [DecidableEq Value] (station : Station Value)
    (operation : Operation Value) :
    ValueStream.perform station.toValues operation =
      ((Rule.values.perform station operation).1, (Rule.values.perform station operation).2.toValues) := by
  cases operation with
  | publish value =>
    by_cases same : station.latest = value <;>
      simp [ValueStream.perform, ValueStream.set, Station.toValues, Rule.perform, Rule.values, same]
  | _ => rfl

/-- Whatever is done with a stream of changes or of values, its subscribers hear where it stands when they
subscribe and then what passes until they unsubscribe: every change, and every value that differs from the
one before. -/
theorem streams_faithful {State Reason Value : Type} [Replayable Reason] [DecidableEq Value]
    (state : State) (changing : List (Operation (Change State Reason)))
    (value : Value) (setting : List (Operation Value)) :
    Faithful .changes ⟨state, Replayable.initial⟩ changing
        (record ChangeStream.perform (.new state) changing)
        (after ChangeStream.perform (.new state) changing).audience.members ∧
      Faithful .values value setting
        (record ValueStream.perform (.new value) setting)
        (after ValueStream.perform (.new value) setting).audience.members := by
  constructor
  · obtain ⟨events, last⟩ := record_view Station.toChanges perform_toChanges
      ⟨⟨state, Replayable.initial⟩, .empty⟩ changing
    have begun : ChangeStream.new state =
      Station.toChanges (⟨⟨state, Replayable.initial⟩, .empty⟩ : Station (Change State Reason)) := rfl
    rw [begun, events, last]
    exact faithful_record _ _ _
  · obtain ⟨events, last⟩ := record_view Station.toValues perform_toValues ⟨value, .empty⟩ setting
    have begun : ValueStream.new value = Station.toValues ⟨value, .empty⟩ := rfl
    rw [begun, events, last]
    exact faithful_record _ _ _

/-- A value that is repeated is not told again, a value that comes back is. -/
example : heard 1 (record ValueStream.perform (.new false) [.subscribe, .publish true, .subscribe,
    .publish true, .publish false, .publish true, .unsubscribe 1, .publish false]) =
      [true, false, true] := by
  decide

end Streams

end PhoneKey
