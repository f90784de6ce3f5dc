import PhoneKey.Config
import PhoneKey.Varint

/-! # Persisted configuration

The settings stand one after the other: numbers as variable-length integers of their width, and
identifiers as their bytes behind a length. Bytes after the last setting are ignored, and what is
read has to be usable.
-/

namespace PhoneKey.Config

def writeUuid (id : Uuid) : Bytes := Varint.write 64 Block.size ++ id.toBytes

def readUuid? (bytes : Bytes) : Option (Uuid × Bytes) := do
  let (length, rest) ← Varint.read? 64 bytes
  if length ≤ rest.length then
    let id ← Uuid.ofBytes? (rest.take length)
    some (id, rest.drop length)
  else none

def toBytes (config : Config) : Bytes :=
  Varint.write 32 config.heartbeatInterval.toNat ++ Varint.write 32 config.heartbeatTimeout.toNat ++
    Varint.write 16 config.maxEnqueuedMessages.toNat ++ Varint.write 16 config.defaultMtu.toNat ++
    writeUuid config.serviceId ++ writeUuid config.notifyCharacteristicId ++
    writeUuid config.writeCharacteristicId ++ Varint.write 32 config.sorcOutdatedDuration.toNat ++
    Varint.write 32 config.removeOutdatedInterval.toNat

/-- The settings at the front of a byte string. -/
def read? (bytes : Bytes) : Option Config := do
  let (heartbeatInterval, rest) ← Varint.read? 32 bytes
  let (heartbeatTimeout, rest) ← Varint.read? 32 rest
  let (maxEnqueuedMessages, rest) ← Varint.read? 16 rest
  let (defaultMtu, rest) ← Varint.read? 16 rest
  let (serviceId, rest) ← readUuid? rest
  let (notifyCharacteristicId, rest) ← readUuid? rest
  let (writeCharacteristicId, rest) ← readUuid? rest
  let (sorcOutdatedDuration, rest) ← Varint.read? 32 rest
  let (removeOutdatedInterval, _) ← Varint.read? 32 rest
  some
    { heartbeatInterval := .ofNat heartbeatInterval
      heartbeatTimeout := .ofNat heartbeatTimeout
      maxEnqueuedMessages := .ofNat maxEnqueuedMessages
      defaultMtu := .ofNat defaultMtu
      serviceId
      notifyCharacteristicId
      writeCharacteristicId
      sorcOutdatedDuration := .ofNat sorcOutdatedDuration
      removeOutdatedInterval := .ofNat removeOutdatedInterval }

def ofBytes (bytes : Bytes) : Except ConfigError Config :=
  match read? bytes with
  | none => .error .corrupted
  | some config =>
    match config.fault? with
    | some setting => .error (.validationFailed setting)
    | none => .ok config

end PhoneKey.Config
