import PhoneKey.Simulation.Bench

/-! # Runs of a bench

What a layer does on a bench depends on the layer and on the radio; streams, journal and clock only
record it. Exchanges that follow each other lead to the bench at which settling stops, whatever limit of
exchanges it was given beyond theirs.
-/

namespace PhoneKey

namespace Radio

/-- Does what the effects of a turn ask for, in order. -/
def perform (radio : Radio) (effects : List Effect) : Radio :=
  effects.foldl (fun radio effect =>
    match effect with
    | .radio call => radio.apply call
    | _ => radio) radio

/-- No layer makes the radio refuse writes. -/
theorem failsWrites_perform (effects : List Effect) (radio : Radio) :
    (radio.perform effects).failsWrites = radio.failsWrites := by
  induction effects generalizing radio with
  | nil => rfl
  | cons effect rest ih =>
    refine (ih _).trans ?_
    cases effect with
    | radio call =>
      cases call with
      | write frame accepted => cases accepted <;> rfl
      | _ => rfl
    | _ => rfl

end Radio

namespace Bench

variable {Layer Report : Type} [Drivable Layer Report] {bench next last : Bench Layer}
  {layer : Layer} {radio : Radio}

theorem layer_foldl_perform (effects : List Effect) (bench : Bench Layer) :
    (effects.foldl perform bench).layer = bench.layer := by
  induction effects generalizing bench with
  | nil => rfl
  | cons effect rest ih =>
    rw [List.foldl_cons, ih]
    cases effect <;> rfl

theorem radio_foldl_perform (effects : List Effect) (bench : Bench Layer) :
    (effects.foldl perform bench).radio = bench.radio.perform effects := by
  induction effects generalizing bench with
  | nil => rfl
  | cons effect rest ih =>
    rw [List.foldl_cons, ih]
    cases effect <;> rfl

theorem clock_foldl_perform (effects : List Effect) (bench : Bench Layer) :
    (effects.foldl perform bench).clock = bench.clock := by
  induction effects generalizing bench with
  | nil => rfl
  | cons effect rest ih =>
    rw [List.foldl_cons, ih]
    cases effect <;> rfl

/-- A bench on which layer and radio have gone on, and the observers have heard of some effects. -/
def later (bench : Bench Layer) (layer : Layer) (radio : Radio) (effects : List Effect) : Bench Layer :=
  { effects.foldl perform bench with layer, radio }

@[simp] theorem layer_later (effects : List Effect) : (bench.later layer radio effects).layer = layer := rfl

@[simp] theorem radio_later (effects : List Effect) : (bench.later layer radio effects).radio = radio := rfl

@[simp] theorem clock_later (effects : List Effect) : (bench.later layer radio effects).clock = bench.clock :=
  clock_foldl_perform effects bench

/-- What the observers hear does not depend on how layer and radio stand. -/
theorem later_with (effects : List Effect) (bench : Bench Layer) (layer final : Layer) (radio quiet : Radio) :
    later { bench with layer, radio } final quiet effects = bench.later final quiet effects := by
  induction effects generalizing bench layer radio with
  | nil => rfl
  | cons effect rest ih =>
    cases effect with
    | radio call =>
      exact (ih bench layer (radio.apply call)).trans (ih bench bench.layer (bench.radio.apply call)).symm
    | announce news => exact ih (bench.perform (.announce news)) layer radio
    | telemetry event => exact ih (bench.perform (.telemetry event)) layer radio
    | attempt request state outstanding => exact ih bench layer radio

@[simp] theorem later_later {final : Layer} {quiet : Radio} (first second : List Effect) :
    (bench.later layer radio first).later final quiet second = bench.later final quiet (first ++ second) := by
  have whole := later_with second (first.foldl perform bench) layer final radio quiet
  have joined : bench.later final quiet (first ++ second) =
      (first.foldl perform bench).later final quiet second := by
    rw [later, List.foldl_append, later]
  exact whole.trans joined.symm

private theorem foldl_perform_eq_later (effects : List Effect) (bench : Bench Layer) :
    effects.foldl perform bench = bench.later bench.layer (bench.radio.perform effects) effects := by
  rw [later, ← radio_foldl_perform, ← layer_foldl_perform effects bench]

/-- The layer knows how the radio takes writes. -/
def Prepared (layer : Layer) (radio : Radio) : Prop :=
  Drivable.withHandset layer
    { Drivable.handset layer with accepts := fun _ => !radio.failsWrites } = layer

/-- A turn leads to the bench with the state of the turn and with what it asked of the radio. -/
theorem act_of_prepared (prepared : Prepared bench.layer bench.radio) {taken : Turn Layer Report}
    {turn : Layer → Nat → Turn Layer Report} (same : turn bench.layer bench.clock = taken) :
    bench.act turn =
      (taken.reports, bench.later taken.state (bench.radio.perform taken.effects) taken.effects) := by
  have ready : bench.ready = bench.layer := prepared
  have performed := foldl_perform_eq_later taken.effects { bench with layer := taken.state }
  rw [act, ready, same, performed, later_with taken.effects bench]

/-- A layer and a radio as they stand on a bench. -/
structure Stands (bench : Bench Layer) (layer : Layer) (radio : Radio) : Prop where
  layer_eq : bench.layer = layer
  radio_eq : bench.radio = radio
  prepared : Prepared layer radio

/-- A turn leaves the bench with the state of the turn and with what it asked of the radio. -/
theorem Stands.act (stands : Stands bench layer radio) (turn : Layer → Nat → Turn Layer Report)
    {taken : Turn Layer Report} (same : ∀ now, turn layer now = taken)
    (prepared : Prepared taken.state (radio.perform taken.effects)) :
    (bench.act turn).1 = taken.reports ∧
      Stands (bench.act turn).2 taken.state (radio.perform taken.effects) := by
  obtain ⟨rfl, rfl, ready⟩ := stands
  rw [act_of_prepared ready (same bench.clock)]
  exact ⟨rfl, rfl, rfl, prepared⟩

/-- Exchanges that follow each other. -/
inductive Exchanges : Bench Layer → List (Exchange Report) → Bench Layer → Prop
  | nil (bench : Bench Layer) : Exchanges bench [] bench
  | cons {bench next last : Bench Layer} {exchange : Exchange Report}
      {following : List (Exchange Report)} (first : bench.exchange? = some (exchange, next))
      (rest : Exchanges next following last) : Exchanges bench (exchange :: following) last

namespace Exchanges

variable {first second : List (Exchange Report)}

theorem append (left : Exchanges bench first next) (right : Exchanges next second last) :
    Exchanges bench (first ++ second) last := by
  induction left with
  | nil => exact right
  | cons exchanged _ ih => exact .cons exchanged (ih right)

/-- Settling goes through the exchanges and stops once nothing is parked. -/
theorem settle (exchanges : Exchanges bench first last) (quiet : last.radio.parked = []) (more : Nat) :
    bench.settle (first.length + more) = (first, last) := by
  induction exchanges with
  | nil bench =>
    cases more with
    | zero => rfl
    | succ more =>
      have none : bench.exchange? = none := by simp [exchange?, Radio.nextWrite?, quiet]
      simp [Bench.settle, none]
  | @cons bench next last exchange following exchanged _ ih =>
    have longer : (exchange :: following).length + more = following.length + more + 1 := by
      rw [List.length_cons]
      omega
    rw [longer, Bench.settle, exchanged]
    simp only [ih quiet]

theorem of_settle {limit : Nat} (settled : bench.settle limit = (first, last)) :
    Exchanges bench first last := by
  induction limit generalizing bench first with
  | zero =>
    cases settled
    exact .nil _
  | succ limit ih =>
    rw [Bench.settle] at settled
    split at settled
    · cases settled
      exact .nil _
    · next exchange next exchanged =>
      cases settled
      exact .cons exchanged (ih rfl)

/-- Exchanges that go on until nothing is parked lead to one bench. -/
theorem unique {other : Bench Layer} (left : Exchanges bench first last) (quiet : last.radio.parked = [])
    (right : Exchanges bench second other) (still : other.radio.parked = []) : other = last := by
  have stops : ∀ {stopped : Bench Layer}, stopped.radio.parked = [] → stopped.exchange? = none :=
    fun stopped => by simp [exchange?, Radio.nextWrite?, stopped]
  induction left generalizing second with
  | nil bench =>
    cases right with
    | nil => rfl
    | cons exchanged _ => cases (stops quiet).symm.trans exchanged
  | cons exchanged _ ih =>
    cases right with
    | nil => cases (stops still).symm.trans exchanged
    | cons others rest =>
      cases exchanged.symm.trans others
      exact ih quiet rest

end Exchanges

/-- Through exchanges with these reports the bench comes to one with a property. -/
def Leads (bench : Bench Layer) (reports : List Report) (reached : Bench Layer → Prop) : Prop :=
  ∃ exchanges last, Exchanges bench exchanges last ∧ exchanges.flatMap Exchange.reports = reports ∧
    reached last

/-- From some number of exchanges on, settling goes through the same ones and stops at the same bench, on
which nothing is parked. -/
def Settles (bench : Bench Layer) (reports : List Report) (last : Bench Layer) : Prop :=
  last.radio.parked = [] ∧ ∃ exchanges, exchanges.flatMap Exchange.reports = reports ∧
    ∀ limit, exchanges.length ≤ limit → bench.settle limit = (exchanges, last)

/-- However many exchanges were allowed, a bench on which nothing is parked is the one that was settled at. -/
theorem Settles.eq_of_quiet {reports : List Report} {limit : Nat} (settles : Settles bench reports last)
    (quiet : (bench.settle limit).2.radio.parked = []) : (bench.settle limit).2 = last := by
  obtain ⟨still, exchanges, _, stops⟩ := settles
  exact (Exchanges.of_settle (stops exchanges.length (Nat.le_refl _))).unique still (.of_settle rfl) quiet

namespace Leads

variable {reports following : List Report} {between reached : Bench Layer → Prop}

theorem here (stands : reached bench) : Leads bench [] reached := ⟨[], bench, .nil bench, rfl, stands⟩

theorem append (first : Leads bench reports between)
    (rest : ∀ next, between next → Leads next following reached) :
    Leads bench (reports ++ following) reached := by
  obtain ⟨opening, next, path, rfl, met⟩ := first
  obtain ⟨closing, last, others, rfl, stands⟩ := rest next met
  exact ⟨opening ++ closing, last, path.append others, List.flatMap_append, stands⟩

theorem imp (leads : Leads bench reports between) (weaker : ∀ next, between next → reached next) :
    Leads bench reports reached := by
  obtain ⟨exchanges, last, path, told, met⟩ := leads
  exact ⟨exchanges, last, path, told, weaker last met⟩

/-- A bench settles where nothing is parked any more. -/
theorem stops (leads : Leads bench reports reached) (quiet : ∀ last, reached last → last.radio.parked = []) :
    ∃ last, Settles bench reports last ∧ reached last := by
  obtain ⟨exchanges, last, path, told, met⟩ := leads
  refine ⟨last, ⟨quiet last met, exchanges, told, fun limit enough => ?_⟩, met⟩
  obtain ⟨more, rfl⟩ := Nat.exists_eq_add_of_le enough
  exact path.settle (quiet last met) more

theorem settles {layer : Layer} {radio : Radio} (leads : Leads bench reports (Stands · layer radio))
    (quiet : radio.parked = []) :
    ∃ last, Settles bench reports last ∧ last.layer = layer ∧ last.radio = radio := by
  obtain ⟨last, settles, stands⟩ := leads.stops fun last stands => by rw [stands.radio_eq, quiet]
  exact ⟨last, settles, stands.layer_eq, stands.radio_eq⟩

end Leads

/-- Nothing is brought back. -/
theorem Stands.notify_nil (stands : Stands bench layer radio) :
    (bench.notifyPhone []).1 = [] ∧ Stands (bench.notifyPhone []).2 layer radio := ⟨rfl, stands⟩

/-- The peer takes the oldest write, which is then confirmed, and its answers are brought back. -/
theorem leads_exchange (radio : Radio) {frame : Bytes} {parked replies : List Bytes} {sorc : Sorc}
    {nonces : Nonces} {sent : Turn Layer Report} {reports : List Report} {reached : Layer}
    {goal : Bench Layer → Prop} (waiting : bench.radio = { radio with parked := frame :: parked })
    (answered : radio.sorc.receive (Drivable.handset bench.layer).nonces frame = (replies, sorc, nonces))
    (drawn : Drivable.withHandset bench.layer { Drivable.handset bench.layer with nonces } = reached)
    (ready : Prepared reached radio) (confirmed : Drivable.confirm reached bench.clock (.ok ()) = sent)
    (notified : ∀ between, between = bench.later sent.state ({ radio with parked, sorc }.perform sent.effects)
        sent.effects → (between.notifyPhone replies).1 = reports ∧ goal (between.notifyPhone replies).2) :
    Leads bench (sent.reports ++ reports) goal := by
  have taken : bench.radio.nextWrite? = some (frame, { radio with parked }) := by
    rw [waiting]
    rfl
  have drop : { bench with radio := { radio with parked } }.reach frame =
      (replies, { bench with layer := reached, radio := { radio with parked, sorc } }) := by
    simp only [reach, answered, drawn]
  have acted := @act_of_prepared _ _ _ { bench with layer := reached, radio := { radio with parked, sorc } }
    ready sent (fun layer now => Drivable.confirm layer now (.ok ())) confirmed
  rw [later_with sent.effects bench] at acted
  obtain ⟨others, last⟩ := notified _ rfl
  refine ⟨[⟨frame, replies, sent.reports ++ reports⟩], _, .cons ?_ (.nil _), List.flatMap_singleton _ _, last⟩
  simp only [exchange?, taken, drop, acted, others]

theorem Stands.exchange (radio : Radio) {frame : Bytes} {parked replies : List Bytes} {sorc : Sorc}
    {nonces : Nonces} {sent : Turn Layer Report} {reports : List Report} {reached final : Layer}
    {quiet : Radio} (stands : Stands bench layer { radio with parked := frame :: parked })
    (answered : radio.sorc.receive (Drivable.handset layer).nonces frame = (replies, sorc, nonces))
    (drawn : Drivable.withHandset layer { Drivable.handset layer with nonces } = reached)
    (ready : Prepared reached radio)
    (confirmed : ∀ now, Drivable.confirm reached now (.ok ()) = sent)
    (prepared : Prepared sent.state ({ radio with parked, sorc }.perform sent.effects))
    (notified : ∀ between : Bench Layer,
      Stands between sent.state ({ radio with parked, sorc }.perform sent.effects) →
        (between.notifyPhone replies).1 = reports ∧ Stands (between.notifyPhone replies).2 final quiet) :
    Leads bench (sent.reports ++ reports) (Stands · final quiet) := by
  obtain ⟨rfl, waiting, _⟩ := stands
  refine leads_exchange radio waiting answered drawn ready (confirmed bench.clock) ?_
  rintro _ rfl
  exact notified _ ⟨rfl, rfl, prepared⟩

end Bench

end PhoneKey
