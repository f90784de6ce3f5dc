import PhoneKey.Proofs.Phone.Run
import PhoneKey.Proofs.Session.Radio

/-! # The radio under a phone

A phone owns its radio link exactly. It writes frames only while the link is open, it hangs up exactly once when
it ends a connection itself, and it never hangs up otherwise.
-/

namespace PhoneKey

private theorem Effect.isOfLink_of_isAside {state : SessionState} {effect : Effect}
    (aside : effect.IsAside state) : effect.isOfLink = false := by
  cases effect with
  | radio call => cases call <;> trivial
  | announce news => cases news <;> trivial
  | _ => rfl

private theorem Effect.connectionChange?_of_isAside {state : SessionState} {effect : Effect}
    (aside : effect.IsAside state) : effect.connectionChange? = none := by
  cases effect with
  | announce news => cases news <;> trivial
  | _ => rfl

namespace Phone

variable {defaultMtu : Nat} {phone : Phone} {turn : PhoneTurn} {below : SessionTurn}

private theorem Carries.tended (carries : Carries below turn) {before : LinkState}
    (tended : Tended before below.effects below.state.channel.link.state) :
    Tended before turn.effects turn.state.session.channel.link.state := by
  obtain ⟨aside, same, among⟩ := carries.effects
  rw [same, carries.session]
  exact tended.append (.of_beside _ fun effect member => Effect.isOfLink_of_isAside (among effect member))

private theorem Carries.parting (carries : Carries below turn) {reported : Prop}
    (parting : Parting reported (endCauses (connectionChanges below.effects)) (hangUps below.effects)) :
    Parting reported (endCauses (connectionChanges turn.effects)) (hangUps turn.effects) := by
  obtain ⟨aside, same, among⟩ := carries.effects
  have silent : connectionChanges aside = [] := List.filterMap_eq_nil_iff.mpr fun effect member =>
    Effect.connectionChange?_of_isAside (among effect member)
  have never : hangUps aside = 0 := hangUps_of_beside fun effect member =>
    Effect.isOfLink_of_isAside (among effect member)
  rw [same, connectionChanges_append, silent, List.append_nil, hangUps_append, never]
  exact parting

/-- Whether a call is the radio's report that the peer is gone or was never there. -/
def Input.ReportsLoss (input : Input) : Prop := ∃ event, input.action = .radioEvent event ∧ event.isLoss = true

theorem reportsLoss_iff {input : Input} {action : Session.Action} (same : input.action.session? = some action) :
    input.ReportsLoss ↔ Session.Input.ReportsLoss ⟨input.now, action⟩ := by
  obtain ⟨now, whole⟩ := input
  cases whole <;> cases same <;> simp [Input.ReportsLoss, Session.Input.ReportsLoss]

private theorem tended_below (settled : Session.Settled defaultMtu phone.session) (input : Input) :
    Tended phone.session.channel.link.state (phone.below input).effects
      (phone.below input).state.channel.link.state := by
  unfold below
  split
  · exact (Session.act_moves settled _).tended settled
  · exact .nil _

private theorem parting_below (settled : Session.Settled defaultMtu phone.session) (input : Input) :
    Parting input.ReportsLoss (endCauses (connectionChanges (phone.below input).effects))
      (hangUps (phone.below input).effects) := by
  unfold below
  split
  · next action same =>
    rw [propext (reportsLoss_iff same)]
    exact Session.parting_act settled _
  · exact .lasts

/-- After any inputs, frames were written only while the link was open, as its stream announced it; and in each
call the radio was told to hang up exactly once if the phone ended the connection, and not at all otherwise. -/
theorem ownsLink_of_run (handset : Handset) (config : Config) (inputs : List Input) :
    Tended .disconnected ((fresh handset config).run inputs).effects
        ((fresh handset config).run inputs).state.session.channel.link.state ∧
      ∀ call ∈ (fresh handset config).history inputs, Parting call.input.ReportsLoss
        (endCauses (connectionChanges (call.before.act call.input).effects))
        (hangUps (call.before.act call.input).effects) := by
  constructor
  · induction inputs using List.reverseRecOn with
    | nil => exact .nil _
    | append_singleton inputs input ih =>
      have settled := settled_of_run handset config inputs
      have carries := carries_act ((fresh handset config).run inputs).state input
      rw [run, Turn.effects_forEach_concat, Turn.state_forEach_concat]
      exact ih.append (carries.tended (tended_below settled input))
  · intro call made
    exact (carries_act call.before call.input).parting (parting_below (settled_of_mem_history made) call.input)

/-- The peer was reached, but the radio declines the question for its limit. -/
example :
    hangUps ((fresh (Channel.zeroHandset 0) .standard).run [⟨0, .connect Channel.zeroCredentials⟩,
      ⟨0, .radioEvent (.connected ⟨.zero⟩)⟩]).effects = 1 := by
  decide +kernel

end Phone

end PhoneKey
