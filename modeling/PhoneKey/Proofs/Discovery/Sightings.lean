import Mathlib.Data.List.Nodup
import PhoneKey.Discovery.Sightings

/-! # Looking up sightings

The sightings of a state are in strictly ascending order of their peers, so a peer has at most one of them
and looking up every peer tells all of them.
-/

namespace PhoneKey

namespace Bytes

theorem ofLittleEndian_injective {first second : Bytes} (aligned : first.length = second.length)
    (same : ofLittleEndian first = ofLittleEndian second) : first = second := by
  induction first generalizing second with
  | nil => exact (List.length_eq_zero_iff.mp aligned.symm).symm
  | cons byte rest ih =>
    cases second with
    | nil => cases aligned
    | cons other remaining =>
      simp only [ofLittleEndian] at same
      have small := byte.toNat_lt
      have low := other.toNat_lt
      have digit : byte = other := UInt8.toNat_inj.mp (by omega)
      rw [digit, ih (Nat.succ.inj aligned) (by omega)]

end Bytes

theorem Uuid.toNat_injective : Function.Injective Uuid.toNat := by
  intro first second same
  have bytes : first.toBytes = second.toBytes :=
    List.reverse_inj.mp (Bytes.ofLittleEndian_injective (by simp [toBytes]) same)
  simpa using congrArg Uuid.ofBytes? bytes

namespace DiscoveryState

variable {state other : DiscoveryState} {sighting : Sighting} {sorcId : Uuid}

/-- The sightings stand in strictly ascending order of their peers. -/
def Ordered (state : DiscoveryState) : Prop :=
  state.sightings.Pairwise fun earlier later => earlier.sorcId.toNat < later.sorcId.toNat

theorem sorcId_of_find? (found : state.find? sorcId = some sighting) : sighting.sorcId = sorcId :=
  by simpa using List.find?_some found

theorem contains_eq_false_iff : state.contains sorcId = false ↔ state.find? sorcId = none := by
  simp [contains]

theorem contains_iff : state.contains sorcId = true ↔ ∃ sighting ∈ state.sightings, sighting.sorcId = sorcId := by
  simp [contains, find?]

/-! ### Lookup after a change -/

private theorem find?_place (sighting : Sighting) (sightings : List Sighting) (sorcId : Uuid) :
    (place sighting sightings).find? (·.sorcId = sorcId) =
      if sighting.sorcId = sorcId then some sighting else sightings.find? (·.sorcId = sorcId) := by
  induction sightings with
  | nil => by_cases hit : sighting.sorcId = sorcId <;> simp [place, hit]
  | cons other rest ih =>
    rw [place]
    split
    · next same => by_cases hit : sighting.sorcId = sorcId <;> simp [hit, ← same]
    · split
      · by_cases hit : sighting.sorcId = sorcId <;> simp [hit]
      · by_cases hit : other.sorcId = sorcId
        · have missed : sighting.sorcId ≠ sorcId := fun same => absurd (same.trans hit.symm) ‹_›
          simp [hit, missed]
        · simp [hit, ih]

theorem find?_insert (state : DiscoveryState) (sighting : Sighting) (sorcId : Uuid) :
    (state.insert sighting).find? sorcId =
      if sighting.sorcId = sorcId then some sighting else state.find? sorcId :=
  find?_place sighting state.sightings sorcId

theorem find?_eraseAll (state : DiscoveryState) (gone : List Uuid) (sorcId : Uuid) :
    (state.eraseAll gone).find? sorcId = if sorcId ∈ gone then none else state.find? sorcId := by
  rw [find?, eraseAll, List.find?_filter]
  split
  · next listed => simpa using fun _ _ kept same => kept (same ▸ listed)
  · next unlisted =>
    refine congrArg (state.sightings.find? ·) (funext fun sighting => ?_)
    by_cases hit : sighting.sorcId = sorcId <;> simp [hit, unlisted]

theorem erase_eq_eraseAll (state : DiscoveryState) (gone : Uuid) : state.erase gone = state.eraseAll [gone] := by
  simp [erase, eraseAll]

theorem find?_erase (state : DiscoveryState) (gone sorcId : Uuid) :
    (state.erase gone).find? sorcId = if sorcId = gone then none else state.find? sorcId := by
  simp [erase_eq_eraseAll, find?_eraseAll]

theorem mem_outdated_iff {window now : Nat} {inTouch : Option Uuid} :
    sorcId ∈ state.outdated window now inTouch ↔
      ∃ sighting ∈ state.sightings, sighting.sorcId = sorcId ∧ window < now - sighting.seenAt ∧
        inTouch ≠ some sorcId := by
  simp only [outdated, List.mem_map, List.mem_filter, Sighting.isOutdated, Bool.and_eq_true, decide_eq_true_eq]
  constructor
  · rintro ⟨sighting, ⟨kept, old, other⟩, rfl⟩
    exact ⟨sighting, kept, rfl, old, other⟩
  · rintro ⟨sighting, kept, rfl, old, other⟩
    exact ⟨sighting, ⟨kept, old, other⟩, rfl⟩

/-- Whoever is outdated was known, and the phone is not in touch with it. -/
theorem of_mem_outdated {window now : Nat} {inTouch : Option Uuid}
    (listed : sorcId ∈ state.outdated window now inTouch) :
    state.contains sorcId = true ∧ inTouch ≠ some sorcId := by
  obtain ⟨sighting, kept, rfl, -, spared⟩ := mem_outdated_iff.mp listed
  exact ⟨contains_iff.mpr ⟨sighting, kept, rfl⟩, spared⟩

/-! ### The order of sightings -/

theorem ordered_empty : empty.Ordered := .nil

private theorem mem_place {other sighting : Sighting} {sightings : List Sighting}
    (member : other ∈ place sighting sightings) : other = sighting ∨ other ∈ sightings := by
  induction sightings with
  | nil => exact .inl (List.mem_singleton.mp member)
  | cons head rest ih =>
    rw [place] at member
    grind

private theorem pairwise_place (sighting : Sighting) {sightings : List Sighting}
    (ordered : sightings.Pairwise fun earlier later => earlier.sorcId.toNat < later.sorcId.toNat) :
    (place sighting sightings).Pairwise fun earlier later => earlier.sorcId.toNat < later.sorcId.toNat := by
  induction sightings with
  | nil => exact List.pairwise_singleton _ _
  | cons head rest ih =>
    obtain ⟨least, sorted⟩ := List.pairwise_cons.mp ordered
    rw [place]
    split
    · next same => exact List.pairwise_cons.mpr ⟨fun later member => same ▸ least later member, sorted⟩
    · next different =>
      split
      · next smaller =>
        refine List.pairwise_cons.mpr ⟨fun later member => ?_, ordered⟩
        rcases List.mem_cons.mp member with rfl | further
        · exact smaller
        · exact Nat.lt_trans smaller (least later further)
      · next larger =>
        have apart : sighting.sorcId.toNat ≠ head.sorcId.toNat := fun same =>
          different (Uuid.toNat_injective same)
        refine List.pairwise_cons.mpr ⟨fun later member => ?_, ih sorted⟩
        rcases mem_place member with rfl | further
        · omega
        · exact least later further

theorem Ordered.insert (ordered : state.Ordered) (sighting : Sighting) : (state.insert sighting).Ordered :=
  pairwise_place sighting ordered

theorem Ordered.eraseAll (ordered : state.Ordered) (gone : List Uuid) : (state.eraseAll gone).Ordered :=
  ordered.filter _

theorem Ordered.erase (ordered : state.Ordered) (gone : Uuid) : (state.erase gone).Ordered :=
  ordered.filter _

private theorem Ordered.nodup (ordered : state.Ordered) : (state.sightings.map (·.sorcId)).Nodup :=
  List.pairwise_map.mpr (ordered.imp fun smaller same => Nat.ne_of_lt smaller (congrArg Uuid.toNat same))

/-- In order, a peer that has a sighting has no other. -/
theorem Ordered.find?_of_mem (ordered : state.Ordered) (member : sighting ∈ state.sightings) :
    state.find? sighting.sorcId = some sighting := by
  obtain ⟨found, hit⟩ := Option.isSome_iff_exists.mp (contains_iff.mpr ⟨sighting, member, rfl⟩)
  have same := List.inj_on_of_nodup_map ordered.nodup (List.mem_of_find?_eq_some hit) member (sorcId_of_find? hit)
  rw [hit, same]

/-- States in order that agree on every peer have the same sightings. -/
theorem Ordered.sightings_eq (ordered : state.Ordered) (arranged : other.Ordered)
    (same : ∀ sorcId, state.find? sorcId = other.find? sorcId) : state.sightings = other.sightings := by
  have included {first second : DiscoveryState} (sorted : first.Ordered)
      (agree : ∀ sorcId, first.find? sorcId = second.find? sorcId) : ∀ sighting ∈ first.sightings,
      sighting ∈ second.sightings := fun sighting member =>
    List.mem_of_find?_eq_some ((agree sighting.sorcId).symm.trans (sorted.find?_of_mem member))
  refine List.Perm.eq_of_pairwise (fun _ _ _ _ smaller larger => absurd smaller (Nat.lt_asymm larger)) ordered arranged ?_
  exact (List.perm_ext_iff_of_nodup ordered.nodup.of_map arranged.nodup.of_map).mpr fun sighting =>
    ⟨included ordered same sighting, included arranged (fun sorcId => (same sorcId).symm) sighting⟩

end DiscoveryState

end PhoneKey
