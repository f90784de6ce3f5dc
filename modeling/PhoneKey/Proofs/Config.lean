import Mathlib.Tactic.SplitIfs
import PhoneKey.Config

/-! # Usable configurations

What passes the check of a configuration is known of every setting that the check looks at.
-/

namespace PhoneKey

namespace Config

/-- The settings of a configuration that the stack can run with. -/
structure Usable (config : Config) : Prop where
  interval : 0 < config.heartbeatInterval.toNat
  timeout : config.heartbeatInterval.toNat < config.heartbeatTimeout.toNat
  queue : 0 < config.maxEnqueuedMessages.toNat
  room : Frame.headerSize < config.defaultMtu.toNat
  window : 0 < config.sorcOutdatedDuration.toNat
  sweeps : 0 < config.removeOutdatedInterval.toNat

theorem usable_of_check {config : Config} (valid : config.check = .ok ()) : config.Usable := by
  have faultless : config.fault? = none := by
    cases fault : config.fault? with
    | none => rfl
    | some setting => simp [check, fault] at valid
  rw [fault?] at faultless
  split_ifs at faultless with interval timeout queue room window sweeps
  have positive {setting : UInt32} (set : setting ≠ 0) : 0 < setting.toNat :=
    Nat.pos_of_ne_zero fun zero => set (UInt32.toNat_inj.mp zero)
  exact {
    interval := positive interval
    timeout := UInt32.lt_iff_toNat_lt.mp (UInt32.not_le.mp timeout)
    queue := Nat.pos_of_ne_zero fun zero => queue (UInt16.toNat_inj.mp zero)
    room := Nat.not_le.mp room
    window := positive window
    sweeps := positive sweeps }

end Config

end PhoneKey
