import PhoneKey.Proofs.Link

/-! # Writes on the air

A faithful radio completes every write that it accepted once and in order, at any later moment, and
forgets the writes of a connection that has ended. Completions carry no name: a line credits each to the
frame that it wrote last. That is the right one as long as at most one write is uncompleted, which one
event upsets. The peer's limit may arrive before the request for it is completed, and frees the line; the
next frame is then written ahead of the completion, and from that moment on until nothing is uncompleted
one write more is on the air than the line knows of, so that each completion is credited one write early.
-/

namespace PhoneKey

/-- What a faithful radio owes to the connection at hand. -/
structure Air where
  /-- The accepted writes that are not completed, oldest first. -/
  waiting : List Bytes
  /-- The writes that were completed, oldest first. -/
  completed : List Bytes
  /-- Whether the link was established over an uncompleted write and one has been left at all times since. -/
  overtaken : Bool

namespace Air

/-- Nothing was written. -/
def clear : Air := ⟨[], [], false⟩

def note (air : Air) : Effect → Air
  | .radio (.write frame true) => { air with waiting := air.waiting ++ [frame] }
  | .announce (.link change) =>
    match change.state with
    | .disconnected => clear
    | .connecting _ _ => air
    | .connected _ => { air with overtaken := !air.waiting.isEmpty }
  | _ => air

/-- After some effects. -/
def after (air : Air) (effects : List Effect) : Air := effects.foldl note air

/-- The oldest write is completed. -/
def complete (air : Air) : Air :=
  match air.waiting with
  | [] => air
  | frame :: rest => ⟨rest, air.completed ++ [frame], air.overtaken && !rest.isEmpty⟩

/-- What a faithful radio may report about the frame that was written last, if anything. -/
def Allows (air : Air) : Option (Except LinkError Unit) → Prop
  | none => True
  | some (.ok ()) => air.waiting ≠ []
  | some (.error _) => False

instance (air : Air) (report : Option (Except LinkError Unit)) : Decidable (air.Allows report) :=
  match report with
  | none => .isTrue trivial
  | some (.ok ()) => inferInstanceAs (Decidable (air.waiting ≠ []))
  | some (.error _) => .isFalse id

/-- After what the radio reported, if anything. -/
def take (air : Air) : Option (Except LinkError Unit) → Air
  | some (.ok ()) => air.complete
  | _ => air

/-- At most one write is uncompleted, or two if the completion of one was overtaken. -/
def Bounded (air : Air) : Prop := air.waiting.length ≤ if air.overtaken then 2 else 1

/-- Whether a claim holds before and after each of some effects. -/
def Throughout (claim : Air → Prop) (air : Air) : List Effect → Prop
  | [] => claim air
  | effect :: rest => claim air ∧ Throughout claim (air.note effect) rest

/-- Whether the write that is to be completed next carries the last frame of a message and all frames
before it were completed just before. -/
def Finishes (air : Air) (mtu : Nat) (message : Bytes) : Prop :=
  ∃ frames last, Frame.split message (Frame.sizeForMtu mtu) = .ok (frames ++ [last]) ∧
    air.waiting = [last.toBytes] ∧ frames.map Frame.toBytes <:+ air.completed

/-- Whether the write that is to be completed next is the one ahead of the last frame of a message, and all
frames before the last were completed just before or are that write. -/
def Anticipates (air : Air) (mtu : Nat) (message : Bytes) : Prop :=
  ∃ frames last stale, Frame.split message (Frame.sizeForMtu mtu) = .ok (frames ++ [last]) ∧
    air.waiting = [stale, last.toBytes] ∧ frames.map Frame.toBytes <:+ air.completed ++ [stale]

/-- Runs of a layer over a faithful radio, with what the radio owes at their ends. -/
inductive Runs {State Report Input : Type} (step : State → Input → Turn State Report)
    (report : Input → Option (Except LinkError Unit)) (start : State) : State → Air → Prop
  | start : Runs step report start start .clear
  | next {state : State} {air : Air} (input : Input) (earlier : Runs step report start state air)
      (allowed : air.Allows (report input)) :
      Runs step report start (step state input).state
        ((air.take (report input)).after (step state input).effects)

theorem after_append (air : Air) (first second : List Effect) :
    air.after (first ++ second) = (air.after first).after second := List.foldl_append

/-- A completion moves a write from those on the air to those completed. -/
theorem written_complete (air : Air) :
    air.complete.completed ++ air.complete.waiting = air.completed ++ air.waiting := by
  rcases air with ⟨waiting, completed, overtaken⟩
  cases waiting with
  | nil => rfl
  | cons frame rest => simp [complete]

theorem Throughout.append {claim : Air → Prop} {air : Air} {first second : List Effect}
    (early : air.Throughout claim first) (late : (air.after first).Throughout claim second) :
    air.Throughout claim (first ++ second) := by
  induction first generalizing air with
  | nil => exact late
  | cons effect rest ih => exact ⟨early.1, ih early.2 late⟩

/-- Whether an effect leaves the air as it is. -/
def Neutral (effect : Effect) : Prop := ∀ air : Air, air.note effect = air

private theorem after_neutral {effects : List Effect} (neutral : ∀ effect ∈ effects, Neutral effect)
    (air : Air) : air.after effects = air := by
  induction effects with
  | nil => rfl
  | cons effect rest ih =>
    obtain ⟨first, others⟩ := List.forall_mem_cons.mp neutral
    rw [after, List.foldl_cons, first air]
    exact ih others

private theorem Throughout.of_neutral {claim : Air → Prop} {air : Air} {effects : List Effect}
    (neutral : ∀ effect ∈ effects, Neutral effect) (holds : claim air) : air.Throughout claim effects := by
  induction effects with
  | nil => exact holds
  | cons effect rest ih =>
    obtain ⟨first, others⟩ := List.forall_mem_cons.mp neutral
    exact ⟨holds, (first air).symm ▸ ih others⟩

end Air

/-- The write of a line that is to be confirmed next. -/
def Line.unconfirmed (line : Line) : List Bytes :=
  ((line.sending.bind Package.waiting?).map Frame.toBytes).toList

/-- Whether the writes on the air are the one that a line is to be told of next, with one more ahead of it
while a completion is overtaken. -/
def Air.Owes (air : Air) (line : Line) : Prop :=
  if air.overtaken then ∃ stale, air.waiting = stale :: line.unconfirmed else air.waiting = line.unconfirmed

/-- How the writes on the air relate to the package that a link has under way. -/
structure Link.Tracks (link : Link) (air : Air) : Prop where
  unfinished : ∀ package, link.line.sending = some package → package.pending ≠ []
  overtaken : air.overtaken = true → link.state.isConnected = true ∧
    ∃ frame, air.waiting = frame :: link.line.unconfirmed
  waiting : air.overtaken = false → air.waiting = link.line.unconfirmed
  /-- The frames of the package that are not pending were completed just before, or are the write ahead. -/
  done : ∀ package, link.line.sending = some package →
    ∃ frames, Frame.split package.message (Frame.sizeForMtu link.line.mtu) =
      .ok (frames ++ package.pending) ∧ frames.map Frame.toBytes <:+ air.completed ++ air.waiting.dropLast

namespace Link.Tracks

variable {link : Link} {air : Air}

theorem clear (handset : Handset) (defaultMtu : Nat) (state : LinkState) :
    Tracks ⟨handset, .new defaultMtu, state⟩ .clear where
  unfinished := nofun
  overtaken := nofun
  waiting _ := rfl
  done := nofun

private theorem length_unconfirmed_le (line : Line) : line.unconfirmed.length ≤ 1 := by
  rw [Line.unconfirmed]
  cases (line.sending.bind Package.waiting?).map Frame.toBytes <;> simp

theorem bounded (tracks : link.Tracks air) : air.Bounded := by
  have single := length_unconfirmed_le link.line
  rw [Air.Bounded]
  cases overtaken : air.overtaken with
  | true =>
    obtain ⟨_, frame, same⟩ := tracks.overtaken overtaken
    rw [same, List.length_cons]
    simp only [if_true]
    omega
  | false =>
    rw [tracks.waiting overtaken]
    simpa using single

theorem owes (tracks : link.Tracks air) : air.Owes link.line := by
  rw [Air.Owes]
  split
  · next overtaken => exact (tracks.overtaken overtaken).2
  · next orderly => exact tracks.waiting (by simpa using orderly)

/-- Only the package under way, the limit and whether the link is up matter. -/
theorem of_same (tracks : link.Tracks air) {next : Link} (sending : next.line.sending = link.line.sending)
    (mtu : next.line.mtu = link.line.mtu)
    (connected : link.state.isConnected = true → next.state.isConnected = true) : next.Tracks air where
  unfinished := by
    rw [sending]
    exact tracks.unfinished
  overtaken set := by
    obtain ⟨linked, same⟩ := tracks.overtaken set
    exact ⟨connected linked, by rwa [Line.unconfirmed, sending]⟩
  waiting unset := by
    rw [Line.unconfirmed, sending]
    exact tracks.waiting unset
  done := by
    rw [sending, mtu]
    exact tracks.done

private theorem unconfirmed_of_vacant {line : Line} (vacant : line.sending = none) :
    line.unconfirmed = [] := by
  simp [Line.unconfirmed, vacant]

/-- The first frame of a message is written. -/
theorem launch (tracks : link.Tracks air) {message frame : Bytes} {line : Line}
    (launched : link.line.launch message = .ok (frame, line)) (handset : Handset) :
    Tracks ⟨handset, line, link.state⟩ (air.note (.radio (.write frame true))) := by
  obtain ⟨free, first, rest, split, rfl, rfl⟩ := Line.launch_eq_ok launched
  have vacant := unconfirmed_of_vacant (Line.sending_of_not_busy free)
  refine ⟨?_, ?_, ?_, ?_⟩
  · rintro package ⟨⟩
    exact List.cons_ne_nil _ _
  · intro overtaken
    obtain ⟨linked, frame, same⟩ := tracks.overtaken overtaken
    rw [vacant] at same
    exact ⟨linked, frame, by rw [Air.note, same]; rfl⟩
  · intro orderly
    have same := tracks.waiting orderly
    rw [vacant] at same
    rw [Air.note, same]
    rfl
  · rintro package ⟨⟩
    exact ⟨[], split, List.nil_suffix⟩

/-- What is on the air while a package is under way: its first pending frame comes last. -/
theorem waiting_of_sending (tracks : link.Tracks air) {package : Package}
    (sending : link.line.sending = some package) :
    ∃ first rest, package.pending = first :: rest ∧ link.line.unconfirmed = [first.toBytes] ∧
      air.waiting = air.waiting.dropLast ++ [first.toBytes] := by
  obtain ⟨first, rest, pending⟩ := List.exists_cons_of_ne_nil (tracks.unfinished package sending)
  have single : link.line.unconfirmed = [first.toBytes] := by
    simp [Line.unconfirmed, sending, Package.waiting?, pending]
  refine ⟨first, rest, pending, single, ?_⟩
  cases overtaken : air.overtaken with
  | true =>
    obtain ⟨_, stale, same⟩ := tracks.overtaken overtaken
    rw [same, single]
    rfl
  | false =>
    rw [tracks.waiting overtaken, single]
    rfl

/-- A completion while nothing is under way. -/
theorem completeIdle (tracks : link.Tracks air) (vacant : link.line.sending = none) :
    link.Tracks air.complete := by
  have none := unconfirmed_of_vacant vacant
  refine ⟨tracks.unfinished, ?_, ?_, by simp [vacant]⟩
  all_goals
    cases overtaken : air.overtaken with
    | true =>
      obtain ⟨_, frame, same⟩ := tracks.overtaken overtaken
      rw [none] at same
      simp [Air.complete, same, none]
    | false =>
      have same := tracks.waiting overtaken
      rw [none] at same
      simp [Air.complete, same, none, overtaken]

/-- A completion while a package is under way leaves the frame that it is credited to on the air if it was
overtaken, and nothing otherwise. -/
private theorem complete_of_unconfirmed (tracks : link.Tracks air) {frame : Bytes}
    (single : link.line.unconfirmed = [frame]) :
    (link.state.isConnected = true ∧ ∃ stale, air.complete = ⟨[frame], air.completed ++ [stale], true⟩) ∨
      air.complete = ⟨[], air.completed ++ [frame], false⟩ := by
  cases overtaken : air.overtaken with
  | true =>
    obtain ⟨linked, stale, both⟩ := tracks.overtaken overtaken
    rw [single] at both
    exact .inl ⟨linked, stale, by simp [Air.complete, both, overtaken]⟩
  | false =>
    have alone := (tracks.waiting overtaken).trans single
    exact .inr (by simp [Air.complete, alone, overtaken])

/-- A completion that is credited to a frame of the package under way, which is then given up. -/
theorem completeDropped (tracks : link.Tracks air) {package : Package}
    (sending : link.line.sending = some package) (handset : Handset) :
    Tracks ⟨handset, link.line.dropSending.2, link.state⟩ air.complete := by
  obtain ⟨first, rest, _, single, _⟩ := tracks.waiting_of_sending sending
  have vacant : link.line.dropSending.2.unconfirmed = [] := unconfirmed_of_vacant rfl
  rcases tracks.complete_of_unconfirmed single with ⟨linked, stale, left⟩ | left
  · rw [left]
    exact ⟨nofun, fun _ => ⟨linked, first.toBytes, by rw [vacant]⟩, nofun, nofun⟩
  · rw [left]
    exact ⟨nofun, nofun, fun _ => vacant.symm, nofun⟩

/-- A completion that is credited to the last frame of the package under way. -/
theorem completeLast (tracks : link.Tracks air) {message : Bytes} {line : Line}
    (confirmed : link.line.confirm = (.complete message, line)) : Tracks { link with line } air.complete := by
  obtain ⟨package, sending, _, rfl⟩ := Line.confirm_eq_complete confirmed
  exact tracks.completeDropped sending link.handset

/-- A message is complete for the line once it is told of the last frame. The frames before it are completed
by then, but for the last of them if that is still ahead on the air. -/
private theorem last_of_complete (tracks : link.Tracks air) {message : Bytes} {line : Line}
    (confirmed : link.line.confirm = (.complete message, line)) :
    ∃ frames last, Frame.split message (Frame.sizeForMtu link.line.mtu) = .ok (frames ++ [last]) ∧
      link.line.unconfirmed = [last.toBytes] ∧
      frames.map Frame.toBytes <:+ air.completed ++ air.waiting.dropLast := by
  obtain ⟨package, sending, carried, rfl⟩ := Line.confirm_eq_complete confirmed
  obtain ⟨first, rest, pending, single, _⟩ := tracks.waiting_of_sending sending
  obtain ⟨frames, split, done⟩ := tracks.done package sending
  have last : rest = [] := by
    simp only [Line.confirm, sending, Package.waiting?, Package.confirm, pending, List.tail_cons] at confirmed
    cases rest with
    | nil => rfl
    | cons next others => simp at confirmed
  rw [pending, last, carried] at split
  exact ⟨frames, first, split, single, done⟩

theorem finishes (tracks : link.Tracks air) {message : Bytes} {line : Line}
    (confirmed : link.line.confirm = (.complete message, line)) (orderly : air.overtaken = false) :
    air.Finishes link.line.mtu message := by
  obtain ⟨frames, last, split, single, done⟩ := tracks.last_of_complete confirmed
  have alone : air.waiting = [last.toBytes] := (tracks.waiting orderly).trans single
  rw [alone] at done
  exact ⟨frames, last, split, alone, by simpa using done⟩

theorem anticipates (tracks : link.Tracks air) {message : Bytes} {line : Line}
    (confirmed : link.line.confirm = (.complete message, line)) (overtaken : air.overtaken = true) :
    air.Anticipates link.line.mtu message := by
  obtain ⟨frames, last, split, single, done⟩ := tracks.last_of_complete confirmed
  obtain ⟨_, stale, both⟩ := tracks.overtaken overtaken
  rw [single] at both
  rw [both] at done
  exact ⟨frames, last, stale, split, both, done⟩

/-- A completion that is credited to an earlier frame, after which the next one is written. -/
theorem completeNext (tracks : link.Tracks air) {frame : Bytes} {line : Line}
    (confirmed : link.line.confirm = (.next frame, line)) (handset : Handset) :
    Tracks ⟨handset, line, link.state⟩ (air.complete.note (.radio (.write frame true))) := by
  obtain ⟨package, next, sending, waiting, rfl, rfl⟩ := Line.confirm_eq_next confirmed
  obtain ⟨first, rest, pending, single, latest⟩ := tracks.waiting_of_sending sending
  have following : Line.unconfirmed { link.line with sending := some package.confirm } = [next.toBytes] := by
    simp [Line.unconfirmed, waiting]
  refine ⟨?_, ?_, ?_, ?_⟩
  · rintro _ ⟨⟩ none
    simp [Package.waiting?, none] at waiting
  · rcases tracks.complete_of_unconfirmed single with ⟨linked, stale, left⟩ | left
    · exact fun _ => ⟨linked, first.toBytes, by rw [left, following]; rfl⟩
    · intro overtaken
      rw [left] at overtaken
      cases overtaken
  · rcases tracks.complete_of_unconfirmed single with ⟨linked, stale, left⟩ | left
    · intro orderly
      rw [left] at orderly
      cases orderly
    · exact fun _ => by rw [left, following]; rfl
  · rintro _ ⟨⟩
    obtain ⟨frames, split, earlier, whole⟩ := tracks.done package sending
    refine ⟨frames ++ [first], by simpa [Package.confirm, pending] using split, earlier, ?_⟩
    have onAir : (air.complete.note (.radio (.write next.toBytes true))).waiting.dropLast =
        air.complete.waiting := List.dropLast_concat
    calc earlier ++ (frames ++ [first]).map Frame.toBytes
      _ = air.completed ++ air.waiting.dropLast ++ [first.toBytes] := by simp [← whole]
      _ = air.completed ++ air.waiting := by rw [List.append_assoc, ← latest]
      _ = air.complete.completed ++ air.complete.waiting := air.written_complete.symm
      _ = _ := by rw [onAir]; rfl

/-- The peer's limit frees the line, whatever is uncompleted. -/
theorem settle (tracks : link.Tracks air) (down : link.state.isConnected = false) {next : Link}
    (sending : next.line.sending = none) {sorcId : Uuid} (connected : next.state = .connected sorcId)
    (reason : LinkReason) : next.Tracks (air.note (.announce (.link ⟨.connected sorcId, reason⟩))) := by
  have orderly : air.overtaken = false := by
    cases overtaken : air.overtaken with
    | false => rfl
    | true => cases down.symm.trans (tracks.overtaken overtaken).1
  have same := tracks.waiting orderly
  have single := length_unconfirmed_le link.line
  rw [← same] at single
  have vacant := unconfirmed_of_vacant sending
  refine ⟨by simp [sending], ?_, ?_, by simp [sending]⟩
  all_goals
    cases uncompleted : air.waiting with
    | nil => simp [Air.note, uncompleted, vacant]
    | cons frame rest =>
      rw [uncompleted] at single
      cases rest with
      | nil => simp [Air.note, uncompleted, vacant, connected, ConnectionState.isConnected]
      | cons other others => simp at single

end Link.Tracks

/-- The writes on the air stay within bounds throughout some effects, and belong to a link at their end. -/
structure Link.Keeps (air : Air) (effects : List Effect) (link : Link) : Prop where
  bounded : air.Throughout Air.Bounded effects
  tracks : link.Tracks (air.after effects)

namespace Link.Keeps

variable {link next : Link} {air : Air} {effects later : List Effect}

theorem of_neutral (tracks : link.Tracks air) (neutral : ∀ effect ∈ effects, Air.Neutral effect) :
    Keeps air effects link :=
  ⟨.of_neutral neutral tracks.bounded, (Air.after_neutral neutral air).symm ▸ tracks⟩

theorem silent (tracks : link.Tracks air) : Keeps air [] link := of_neutral tracks (List.forall_mem_nil _)

theorem andThen (first : Keeps air effects link) (second : Keeps (air.after effects) later next) :
    Keeps air (effects ++ later) next :=
  ⟨first.bounded.append second.bounded, (Air.after_append air effects later).symm ▸ second.tracks⟩

theorem single (bounded : air.Bounded) {effect : Effect} (tracks : link.Tracks (air.note effect)) :
    Keeps air [effect] link := ⟨⟨bounded, tracks.bounded⟩, tracks⟩

/-- The end of a connection: what the radio still owes is dropped. -/
theorem finish (bounded : air.Bounded) (handset : Handset) (defaultMtu : Nat) (reason : LinkReason) :
    Keeps air [.announce (.link ⟨.disconnected, reason⟩)] (.new handset defaultMtu) :=
  .single bounded (.clear handset defaultMtu _)

/-- A message is given to the link, which may refuse it. -/
theorem start (tracks : link.Tracks air) (message : Bytes) :
    Keeps air (link.start message).effects (link.start message).link := by
  cases outcome : (link.start message).refusal with
  | none =>
    obtain ⟨frame, line, launched, _, same⟩ := start_taken outcome
    rw [same]
    exact .single tracks.bounded (tracks.launch launched _)
  | some cause =>
    rcases start_refused outcome with ⟨_, same⟩ | ⟨frame, line, _, _, _, same⟩
    · rw [same]
      exact .silent tracks
    · rw [same]
      exact .single tracks.bounded (tracks.of_same rfl rfl id)

end Link.Keeps

end PhoneKey
