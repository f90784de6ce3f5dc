import PhoneKey.Proofs.Simulation.Service

/-! # The peer's side of the handshake

A peer that serves answers each message of the phone's handshake in its turn: with its limit, with a proof
that it holds the key or a turn to the blob, with an acknowledgement of the blob, and at last with a session
of its own.
-/

namespace PhoneKey

variable {credentials : Credentials} {profile : SorcProfile} {nonce : Block}
  {nonces : Nonces} {peer : Sorc} {opening : List Frame} {last : Frame}

/-- What the peer has answered to the phone's last message of the handshake, and how many messages of it the
phone may go on to send. -/
inductive Answers (credentials : Credentials) (profile : SorcProfile) (nonce : Block) (peer : Sorc) :
    Nat → Message → Prop
  | proves {sorcNonce : Block}
      (waiting : peer.handshake =
        some ⟨nonce, sorcNonce, (credentials.token.begin nonce).secondBlock sorcNonce⟩) :
      Answers credentials profile nonce peer 1 ((credentials.token.begin nonce).proof sorcNonce)
  | acknowledges (satisfied : peer.profile = profile.satisfied) :
      Answers credentials profile nonce peer 2 (.empty .ltAck)
  | requires {least : UInt32} (required : profile.requiredBlob = some least) :
      Answers credentials profile nonce peer 3
        ⟨.badChallengeSorcResponse, 0 :: Bytes.bigEndian 4 least.toNat⟩
  | requests {known : UInt32} (unrequired : profile.requiredBlob = none)
      (requested : profile.requestedBlob = some known) :
      Answers credentials profile nonce peer 3 ⟨.ltBlobRequest, Bytes.littleEndian 4 known.toNat⟩

/-- The peer of a challenge proves that it holds the key, or turns to the blob unless it has one. -/
theorem answers_challenge (serves : profile.Serves credentials) (remains : profile.Remains peer.profile)
    (listens : peer.Listens none)
    (whole : Frame.Whole (credentials.token.challenge nonce).toBytes opening last) :
    ∃ rank answer frames next rest,
      Prospect.takeAll ⟨[], peer, nonces⟩ ((opening ++ [last]).map Frame.toBytes) =
        ⟨frames, next, rest⟩ ∧
      Awaits .empty frames answer.toBytes ∧ Answers credentials profile nonce next rank answer ∧
      next.Listens none ∧ rank ≤ 3 ∧ (peer.profile = profile.satisfied → rank ≤ 1) := by
  have honest := remains.honest serves.honest
  let heard : Sorc := { peer with received := peer.received ++ [credentials.token.challenge nonce] }
  cases required : peer.profile.requiredBlob with
  | some least =>
    have asking : peer.profile ≠ profile.satisfied := by
      intro satisfied
      simp [satisfied, SorcProfile.satisfied] at required
    have kept : peer.profile = profile := remains.resolve_right asking
    obtain ⟨frames, taken, awaits⟩ := @Prospect.takeAll_clear ⟨[], peer, nonces⟩ opening last _ _ _ _ whole
      listens (@Sorc.respond_requiring heard nonces least credentials.token nonce required) listens.session
      honest.room (by simp [Message.toBytes, maxMessageLength])
    exact ⟨3, _, frames, _, _, taken, awaits, .requires (kept ▸ required),
      ⟨listens.session, listens.vacant⟩, Nat.le_refl 3, fun satisfied => absurd satisfied asking⟩
  | none =>
    cases requested : peer.profile.requestedBlob with
    | some known =>
      have asking : peer.profile ≠ profile.satisfied := by
        intro satisfied
        simp [satisfied, SorcProfile.satisfied] at requested
      have kept : peer.profile = profile := remains.resolve_right asking
      obtain ⟨frames, taken, awaits⟩ := @Prospect.takeAll_clear ⟨[], peer, nonces⟩ opening last _ _ _ _ whole
        listens (@Sorc.respond_requesting heard nonces known credentials.token nonce required requested)
        listens.session honest.room (by simp [Message.toBytes, maxMessageLength])
      exact ⟨3, _, frames, _, _, taken, awaits, .requests (kept ▸ required) (kept ▸ requested),
        ⟨listens.session, listens.vacant⟩, Nat.le_refl 3, fun satisfied => absurd satisfied asking⟩
    | none =>
      obtain ⟨frames, taken, awaits⟩ := @Prospect.takeAll_clear ⟨[], peer, nonces⟩ opening last _ _ _ _ whole
        listens
        (@Sorc.respond_challenge heard nonces credentials.token honest nonce required requested)
        listens.session honest.room (by simp [Message.toBytes, Handshake.proof, maxMessageLength])
      exact ⟨1, _, frames, _, _, taken, awaits, .proves rfl, ⟨listens.session, listens.vacant⟩, by omega,
        fun _ => Nat.le_refl 1⟩

/-- The peer of a blob acknowledges it. -/
theorem answers_blob {payload : Bytes} (serves : profile.Serves credentials)
    (remains : profile.Remains peer.profile) (listens : peer.Listens none)
    (whole : Frame.Whole (Message.toBytes ⟨.ltBlob, payload⟩) opening last) :
    ∃ frames next rest,
      Prospect.takeAll ⟨[], peer, nonces⟩ ((opening ++ [last]).map Frame.toBytes) =
        ⟨frames, next, rest⟩ ∧
      Awaits .empty frames (Message.empty .ltAck).toBytes ∧
      Answers credentials profile nonce next 2 (.empty .ltAck) ∧ next.Listens none := by
  have honest := remains.honest serves.honest
  let heard : Sorc := { peer with received := peer.received ++ [⟨.ltBlob, payload⟩] }
  have satisfied : peer.profile.satisfied = profile.satisfied := by
    rcases remains with same | same
    · rw [same]
    · rw [same]
      rfl
  obtain ⟨frames, taken, awaits⟩ := @Prospect.takeAll_clear ⟨[], peer, nonces⟩ opening last _ _ _ _ whole
    listens (@Sorc.respond_blob heard nonces payload) listens.session honest.room
    (by simp [Message.toBytes, Message.empty, maxMessageLength])
  exact ⟨frames, _, _, taken, awaits, .acknowledges satisfied, listens.session, listens.vacant⟩

/-- The peer takes the answer to its proof, and the session is up on its side. -/
theorem takeAll_reply {sorcNonce : Block} (honest : peer.profile.Honest credentials.token)
    (listens : peer.Listens none)
    (waiting : peer.handshake =
      some ⟨nonce, sorcNonce, (credentials.token.begin nonce).secondBlock sorcNonce⟩)
    (whole : Frame.Whole ((credentials.token.begin nonce).reply sorcNonce).toBytes opening last) :
    ∃ next, Prospect.takeAll ⟨[], peer, nonces⟩ ((opening ++ [last]).map Frame.toBytes) =
        ⟨[], next, nonces⟩ ∧
      next.Listens (some (.new (Handshake.sessionKey sorcNonce nonce) .toPhone)) := by
  let heard : Sorc :=
    { peer with received := peer.received ++ [(credentials.token.begin nonce).reply sorcNonce] }
  have opens : peer.open? ((credentials.token.begin nonce).reply sorcNonce).toBytes =
      some ((credentials.token.begin nonce).reply sorcNonce, peer) := by
    rw [Sorc.open?, listens.session, Message.ofBytes_toBytes]
  have responded := @Sorc.respond_reply heard nonces credentials.token nonce sorcNonce honest.key waiting
  have taken := Prospect.takeAll_package ⟨[], peer, nonces⟩ whole listens.vacant opens responded
  exact ⟨_, taken, rfl, listens.vacant⟩

/-- The peer tells its limit. -/
theorem takeAll_limitRequest (honest : peer.profile.Honest credentials.token) (listens : peer.Listens none)
    (whole : Frame.Whole Channel.limitRequest.toBytes opening last) :
    ∃ frames next rest,
      Prospect.takeAll ⟨[], peer, nonces⟩ ((opening ++ [last]).map Frame.toBytes) =
        ⟨frames, next, rest⟩ ∧
      Awaits .empty frames (Message.toBytes ⟨.mtuReceive, [peer.profile.mtu, 0]⟩) ∧ next.Listens none := by
  let heard : Sorc := { peer with received := peer.received ++ [Channel.limitRequest] }
  obtain ⟨frames, taken, awaits⟩ := @Prospect.takeAll_clear ⟨[], peer, nonces⟩ opening last _ _ _ _ whole
    listens (@Sorc.respond_limitRequest heard nonces) listens.session honest.room
    (by simp [Message.toBytes, maxMessageLength])
  exact ⟨frames, _, _, taken, awaits, listens.session, listens.vacant⟩

end PhoneKey
