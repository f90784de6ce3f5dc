import PhoneKey.Proofs.Simulation.Sorc

/-! # What is to come

Frames that have been written reach the peer in order, so what it will make of them is settled from the
moment they are written. A prospect is the peer as it will be then, with everything that will be on its way
back to the phone.
-/

namespace PhoneKey

structure Prospect where
  /-- Frames on their way to the phone, oldest first. -/
  frames : List Bytes
  peer : Sorc
  /-- The nonces that the peer is going to draw. -/
  nonces : Nonces

namespace Prospect

/-- The peer takes one more frame, and what it answers goes behind the other frames. -/
def take (prospect : Prospect) (raw : Bytes) : Prospect :=
  let (replies, peer, nonces) := prospect.peer.receive prospect.nonces raw
  ⟨prospect.frames ++ replies, peer, nonces⟩

/-- The peer takes more frames, oldest first. -/
def takeAll (prospect : Prospect) (raws : List Bytes) : Prospect := raws.foldl take prospect

/-- A prospect in which more frames are on their way before the others. -/
def behind (earlier : List Bytes) (prospect : Prospect) : Prospect :=
  { prospect with frames := earlier ++ prospect.frames }

theorem takeAll_append (prospect : Prospect) (first second : List Bytes) :
    prospect.takeAll (first ++ second) = (prospect.takeAll first).takeAll second :=
  List.foldl_append

private theorem take_behind (earlier : List Bytes) (prospect : Prospect) (raw : Bytes) :
    (prospect.behind earlier).take raw = (prospect.take raw).behind earlier := by
  simp only [take, behind, List.append_assoc]

/-- What the peer answers does not depend on what is on its way already. -/
theorem takeAll_behind (earlier : List Bytes) (prospect : Prospect) (raws : List Bytes) :
    (prospect.behind earlier).takeAll raws = (prospect.takeAll raws).behind earlier := by
  induction raws generalizing prospect with
  | nil => rfl
  | cons raw rest ih =>
    have step : (prospect.behind earlier).takeAll (raw :: rest) =
      ((prospect.behind earlier).take raw).takeAll rest := rfl
    rw [step, take_behind, ih]
    rfl

/-- The peer has collected the frames that leave their package open. -/
theorem takeAll_leaves (prospect : Prospect) {frames : List Frame}
    (leaves : ∀ frame ∈ frames, frame.type.closes = false) (plain : ∀ frame ∈ frames, frame.flags = 0) :
    prospect.takeAll (frames.map Frame.toBytes) =
      { prospect with
        peer := { prospect.peer with assembler := prospect.peer.assembler.gather frames } } := by
  induction frames generalizing prospect with
  | nil => rfl
  | cons frame rest ih =>
    have taken : prospect.take frame.toBytes =
        { prospect with
          peer := { prospect.peer with
            assembler := prospect.peer.assembler.append frame.payload } } := by
      rw [take, Sorc.receive_leaves (leaves frame List.mem_cons_self) (plain frame List.mem_cons_self)]
      simp only [List.append_nil]
    have following := ih (prospect.take frame.toBytes)
      (fun other member => leaves other (List.mem_cons_of_mem frame member))
      (fun other member => plain other (List.mem_cons_of_mem frame member))
    rw [taken] at following
    exact (congrArg (takeAll · (rest.map Frame.toBytes)) taken).trans following

/-- The peer takes a whole package, opens what it carries and answers the message. -/
theorem takeAll_package (prospect : Prospect) {data : Bytes} {opening : List Frame} {last : Frame}
    {message : Message} {reply : Option Message} {opened next : Sorc} {rest : Nonces}
    (whole : Frame.Whole data opening last) (vacant : prospect.peer.assembler = .empty)
    (opens : prospect.peer.open? data = some (message, opened))
    (responded : Sorc.respond { opened with received := opened.received ++ [message] } prospect.nonces
      message = (reply, next, rest)) :
    prospect.takeAll ((opening ++ [last]).map Frame.toBytes) =
      ⟨prospect.frames ++ (next.sayAny reply).1, (next.sayAny reply).2, rest⟩ := by
  have collected := prospect.takeAll_leaves whole.leaves
    fun frame member => whole.plain frame (List.mem_append_left _ member)
  have cleared : { prospect.peer with assembler := .empty } = prospect.peer := by rw [← vacant]
  have answered := @Sorc.receive_closing
    { prospect.peer with assembler := prospect.peer.assembler.gather opening } prospect.nonces last opening
    message data reply opened next rest whole (by rw [vacant]) (by rw [cleared, opens]) responded
  rw [List.map_append, takeAll_append, collected]
  simp only [takeAll, List.map_cons, List.map_nil, List.foldl_cons, List.foldl_nil, take, answered]

end Prospect

/-- What the profile of a peer can have become: a blob that it asked for may have arrived. -/
def SorcProfile.Remains (profile later : SorcProfile) : Prop :=
  later = profile ∨ later = profile.satisfied

namespace SorcProfile.Remains

variable {profile later last : SorcProfile}

theorem refl (profile : SorcProfile) : profile.Remains profile := .inl rfl

theorem trans (first : profile.Remains later) (second : later.Remains last) : profile.Remains last := by
  rcases first with rfl | rfl
  · exact second
  · rcases second with rfl | rfl
    · exact .inr rfl
    · exact .inr rfl

theorem honest {token : LeaseToken} (remains : profile.Remains later) (honest : profile.Honest token) :
    later.Honest token := by
  rcases remains with rfl | rfl
  · exact honest
  · exact honest.satisfied

end SorcProfile.Remains

namespace Sorc

variable (sorc : Sorc) (nonces : Nonces)

private theorem profile_say (message : Message) : (sorc.say message).2.profile = sorc.profile := by
  rw [say]
  split <;> rfl

private theorem profile_open? {sorc opened : Sorc} {data : Bytes} {message : Message}
    (opens : sorc.open? data = some (message, opened)) : opened.profile = sorc.profile := by
  rw [open?] at opens
  split at opens
  · cases opens
    rfl
  · split at opens
    · cases opens
      rfl
    · cases opens

private theorem profile_verify (payload : Bytes) : (sorc.verify payload).profile = sorc.profile := by
  rw [verify]
  split
  · rfl
  · dsimp only
    split <;> rfl

private theorem profile_meetChallenge (payload : Bytes) :
    (sorc.meetChallenge nonces payload).2.1.profile = sorc.profile := by
  rw [meetChallenge]
  split
  · rfl
  · rfl
  · split
    · rfl
    · split <;> rfl

/-- A message changes the profile of the peer only by bringing the blob. -/
theorem remains_respond (message : Message) :
    sorc.profile.Remains (sorc.respond nonces message).2.1.profile := by
  rw [respond]
  split
  · exact .refl _
  · exact .inl (profile_meetChallenge _ _ _)
  · exact .inl (profile_verify _ _)
  · exact .inr rfl
  · exact .refl _
  · exact .refl _
  · exact .refl _

theorem remains_receive (raw : Bytes) :
    sorc.profile.Remains (sorc.receive nonces raw).2.1.profile := by
  rw [receive]
  split
  · exact .refl _
  · next frame _ =>
    dsimp only
    split
    · exact .refl _
    · next message opened opens =>
      have kept : sorc.profile.Remains opened.profile := by
        cases collected : (sorc.assembler.push frame).1 with
        | none => simp [collected] at opens
        | some data =>
          rw [collected, Option.bind_some] at opens
          have same := profile_open? opens
          exact .inl same
      have responds := remains_respond { opened with received := opened.received ++ [message] } nonces message
      split
      · next outcome =>
        rw [outcome] at responds
        exact kept.trans responds
      · next reply next rest outcome =>
        rw [outcome] at responds
        exact (kept.trans responds).trans (.inl (profile_say next reply))

end Sorc

end PhoneKey
