import PhoneKey.Error
import PhoneKey.Frame
import PhoneKey.Uuid

/-! # Configuration

Times are whole milliseconds. A configuration is usable when its times are positive, a session
outlasts the interval of its heartbeats, the queue holds something and a frame has room for payload.
-/

namespace PhoneKey

structure Config where
  heartbeatInterval : UInt32
  heartbeatTimeout : UInt32
  maxEnqueuedMessages : UInt16
  defaultMtu : UInt16
  serviceId : Uuid
  notifyCharacteristicId : Uuid
  writeCharacteristicId : Uuid
  sorcOutdatedDuration : UInt32
  removeOutdatedInterval : UInt32
deriving DecidableEq, Repr

namespace Config

def standardService : Uuid :=
  ⟨⟨⟨0xd1, 0xcf, 0x06, 0x03⟩, ⟨0xb5, 0x01, 0x45, 0x69⟩,
    ⟨0xa4, 0xb9, 0xe4, 0x7a⟩, ⟨0xd3, 0xf6, 0x28, 0xa5⟩⟩⟩

def standardNotifyCharacteristic : Uuid :=
  ⟨⟨⟨0xd1, 0xd7, 0xa6, 0xb6⟩, ⟨0x45, 0x7e, 0x45, 0x8a⟩,
    ⟨0xb2, 0x37, 0xa9, 0xdf⟩, ⟨0x99, 0xb3, 0xd9, 0x8b⟩⟩⟩

def standardWriteCharacteristic : Uuid :=
  ⟨⟨⟨0xc8, 0xe5, 0x8f, 0x23⟩, ⟨0x94, 0x17, 0x41, 0xc6⟩,
    ⟨0x97, 0xa8, 0x70, 0xf6⟩, ⟨0xb2, 0xc8, 0xca, 0xb9⟩⟩⟩

def standard : Config where
  heartbeatInterval := 2000
  heartbeatTimeout := 6000
  maxEnqueuedMessages := 10
  defaultMtu := 20
  serviceId := standardService
  notifyCharacteristicId := standardNotifyCharacteristic
  writeCharacteristicId := standardWriteCharacteristic
  sorcOutdatedDuration := 5000
  removeOutdatedInterval := 2000

instance : Inhabited Config := ⟨standard⟩

/-- The first setting that the stack cannot run with. -/
def fault? (config : Config) : Option Setting :=
  if config.heartbeatInterval = 0 then some .heartbeatInterval
  else if config.heartbeatTimeout ≤ config.heartbeatInterval then some .heartbeatTimeout
  else if config.maxEnqueuedMessages = 0 then some .maxEnqueuedMessages
  else if config.defaultMtu.toNat ≤ Frame.headerSize then some .defaultMtu
  else if config.sorcOutdatedDuration = 0 then some .sorcOutdatedDuration
  else if config.removeOutdatedInterval = 0 then some .removeOutdatedInterval
  else none

def check (config : Config) : Except ConfigError Unit :=
  match config.fault? with
  | some setting => .error (.validationFailed setting)
  | none => .ok ()

end Config

end PhoneKey
