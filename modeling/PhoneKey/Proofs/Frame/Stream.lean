import PhoneKey.Proofs.Frame

/-! # Streams of frames

A receiver has the frames of a sender one after the other and nothing else. Each message may have been cut
for another frame size; its last frame still completes it, no other frame completes anything, and the
assembler goes on with the next message as if it were the first.
-/

namespace PhoneKey

namespace Frame

private theorem Whole.ofBytes {message : Bytes} {opening : List Frame} {last : Frame}
    (whole : Whole message opening last) {frame : Frame} (member : frame ∈ opening ++ [last]) :
    Frame.ofBytes frame.toBytes = .ok frame := ofBytes_toBytes_of_plain (whole.plain frame member)

end Frame

namespace Assembler

/-- What shows of an assembler after a frame: the message that the frame completed, and whether a package
is open. -/
structure Answer where
  message : Option Bytes
  isOpen : Bool
deriving DecidableEq, Repr

/-- Reads frames as they were written, one after the other, up to the first that is none. -/
def readAll (assembler : Assembler) : List Bytes → Except FrameError (List Answer × Assembler)
  | [] => .ok ([], assembler)
  | raw :: rest => do
    let frame ← Frame.ofBytes raw
    let (message, next) := assembler.push frame
    let (later, last) ← next.readAll rest
    return (⟨message, next.isOpen⟩ :: later, last)

/-- One answer for each frame of a package: nothing and an open package, until the last frame brings the
message. -/
def answersTo (package : Package) : List Answer :=
  package.pending.dropLast.map (fun _ => ⟨none, true⟩) ++ [⟨some package.message, false⟩]

variable {assembler : Assembler}

/-- The rest of a stream is read from what its first frame leaves. -/
theorem readAll_cons {frame : Frame} {raw : Bytes} (read : Frame.ofBytes raw = .ok frame)
    {rest : List Bytes} {later : List Answer} {last : Assembler}
    (following : (assembler.push frame).2.readAll rest = .ok (later, last)) :
    assembler.readAll (raw :: rest) =
      .ok (⟨(assembler.push frame).1, (assembler.push frame).2.isOpen⟩ :: later, last) := by
  rw [readAll, read]
  simp only [bind, Except.bind, following]
  rfl

theorem readAll_append {middle last : Assembler} {first second : List Bytes} {answers later : List Answer}
    (early : assembler.readAll first = .ok (answers, middle))
    (late : middle.readAll second = .ok (later, last)) :
    assembler.readAll (first ++ second) = .ok (answers ++ later, last) := by
  induction first generalizing assembler answers with
  | nil =>
    cases early
    exact late
  | cons raw rest ih =>
    cases parsed : Frame.ofBytes raw with
    | error cause => simp [readAll, parsed, bind, Except.bind] at early
    | ok frame =>
      cases others : (assembler.push frame).2.readAll rest with
      | error cause => simp [readAll, parsed, others, bind, Except.bind] at early
      | ok answered =>
        obtain ⟨following, left⟩ := answered
        have whole := readAll_cons parsed others
        cases early.symm.trans whole
        exact readAll_cons parsed (ih others)

/-- Frames that leave their package open complete nothing. -/
theorem readAll_leaves {frames : List Frame} (leaves : ∀ frame ∈ frames, frame.type.closes = false)
    (plain : ∀ frame ∈ frames, Frame.ofBytes frame.toBytes = .ok frame) :
    assembler.readAll (frames.map Frame.toBytes) =
      .ok (frames.map fun _ => ⟨none, true⟩, assembler.gather frames) := by
  induction frames generalizing assembler with
  | nil => rfl
  | cons frame rest ih =>
    obtain ⟨leaves, others⟩ := List.forall_mem_cons.mp leaves
    obtain ⟨plain, following⟩ := List.forall_mem_cons.mp plain
    have step := push_of_leaves leaves assembler
    have remaining := @ih (assembler.push frame).2 others following
    have read := readAll_cons plain remaining
    rw [step] at read
    exact read

/-- The frames of a package, read by an assembler on which no package is open, are answered with the
message at the last one and leave the assembler as it was. -/
theorem readAll_package {package : Package} {opening : List Frame} {last : Frame}
    (frames : package.pending = opening ++ [last]) (whole : Frame.Whole package.message opening last) :
    empty.readAll (package.pending.map Frame.toBytes) = .ok (answersTo package, empty) := by
  have opened := @readAll_leaves empty opening whole.leaves
    fun frame member => whole.ofBytes (List.mem_append_left _ member)
  have closed : (empty.gather opening).readAll [last.toBytes] =
      .ok ([⟨some package.message, false⟩], empty) := by
    have parsed := whole.ofBytes (List.mem_append_right _ (List.mem_singleton_self last))
    have read := @readAll_cons (empty.gather opening) last _ parsed [] [] _ rfl
    rwa [push_last whole] at read
  rw [answersTo, frames, List.map_append, List.map_singleton, List.dropLast_concat]
  exact readAll_append opened closed

/-- Messages of at most the largest length, each cut for a frame size of its own, are cut into packages
whose frames, one after the other, are read as exactly these messages: each with the last frame of its
package, none with another one, and with nothing open behind it. -/
theorem readAll_conversation (parcels : List (Bytes × Nat))
    (fits : ∀ parcel ∈ parcels, parcel.1.length ≤ maxMessageLength ∧ 0 < parcel.2) :
    ∃ packages, parcels.mapM (fun parcel => Package.make parcel.1 parcel.2) = .ok packages ∧
      packages.map Package.message = parcels.map Prod.fst ∧
      (∀ package ∈ packages, package.pending ≠ []) ∧
      empty.readAll (packages.flatMap fun package => package.pending.map Frame.toBytes) =
        .ok (packages.flatMap answersTo, empty) ∧
      (packages.flatMap answersTo).filterMap Answer.message = parcels.map Prod.fst := by
  induction parcels with
  | nil => exact ⟨[], rfl, rfl, nofun, rfl, rfl⟩
  | cons parcel rest ih =>
    obtain ⟨⟨fit, room⟩, others⟩ := List.forall_mem_cons.mp fits
    obtain ⟨packages, made, messages, filled, read, heard⟩ := ih others
    obtain ⟨opening, last, split, whole⟩ := Frame.split_whole room fit
    have cut : Package.make parcel.1 parcel.2 = .ok ⟨parcel.1, opening ++ [last]⟩ := by
      rw [Package.make, split]
      rfl
    have first := @readAll_package ⟨parcel.1, opening ++ [last]⟩ opening last rfl whole
    refine ⟨⟨parcel.1, opening ++ [last]⟩ :: packages, ?_, ?_, ?_, ?_, ?_⟩
    · rw [List.mapM_cons, cut, made]
      rfl
    · rw [List.map_cons, messages, List.map_cons]
    · exact List.forall_mem_cons.mpr ⟨by simp, filled⟩
    · rw [List.flatMap_cons, List.flatMap_cons]
      exact readAll_append first read
    · have single : (answersTo ⟨parcel.1, opening ++ [last]⟩).filterMap Answer.message = [parcel.1] := by
        simp [answersTo]
      rw [List.flatMap_cons, List.filterMap_append, heard, single]
      rfl

/-- An empty message, one of more frames than there are sequence numbers, one that fills its frames, and
one that does not. -/
theorem readAll_conversation_uneven :
    let parcels := [([], 1), (List.replicate 300 7, 1), ([1, 2, 3, 4], 2), ([5, 6, 7], 2)]
    (∀ parcel ∈ parcels, parcel.1.length ≤ maxMessageLength ∧ 0 < parcel.2) ∧
      ∃ packages, parcels.mapM (fun parcel => Package.make parcel.1 parcel.2) = .ok packages ∧
        empty.readAll (packages.flatMap fun package => package.pending.map Frame.toBytes) =
          .ok (packages.flatMap answersTo, empty) ∧
        (packages.flatMap answersTo).filterMap Answer.message = parcels.map Prod.fst := by
  intro parcels
  have fits : ∀ parcel ∈ parcels, parcel.1.length ≤ maxMessageLength ∧ 0 < parcel.2 := by
    rw [List.forall_mem_cons, List.forall_mem_cons, List.length_replicate]
    decide
  obtain ⟨packages, made, _, _, read, heard⟩ := readAll_conversation parcels fits
  exact ⟨fits, packages, made, read, heard⟩

end Assembler

end PhoneKey
