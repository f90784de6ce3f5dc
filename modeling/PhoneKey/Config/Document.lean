import PhoneKey.Config
import PhoneKey.Json

/-! # Configuration documents

A configuration as a JSON record of all its settings. Reading does not ask whether the settings are
usable.
-/

namespace PhoneKey.Config

def fieldNames : List String :=
  [Setting.heartbeatInterval.name, Setting.heartbeatTimeout.name, Setting.maxEnqueuedMessages.name,
   Setting.defaultMtu.name, "service_id", "notify_characteristic_id", "write_characteristic_id",
   Setting.sorcOutdatedDuration.name, Setting.removeOutdatedInterval.name]

/-- The written values of the settings, in the order of their names. -/
def fieldTexts (config : Config) : List String :=
  let quoted (id : Uuid) := "\"" ++ id.text ++ "\""
  [toString config.heartbeatInterval.toNat, toString config.heartbeatTimeout.toNat,
   toString config.maxEnqueuedMessages.toNat, toString config.defaultMtu.toNat, quoted config.serviceId,
   quoted config.notifyCharacteristicId, quoted config.writeCharacteristicId,
   toString config.sorcOutdatedDuration.toNat, toString config.removeOutdatedInterval.toNat]

def toJson (config : Config) : String :=
  "\x7b" ++ ",".intercalate (fieldNames.zipWith (fun name text => "\"" ++ name ++ "\":" ++ text)
    config.fieldTexts) ++ "\x7d"

private def number32? (value : Json.Value) : Option UInt32 := (value.natBelow? UInt32.size).map .ofNat

private def number16? (value : Json.Value) : Option UInt16 := (value.natBelow? UInt16.size).map .ofNat

private def identifier? (value : Json.Value) : Option Uuid := value.text?.bind Uuid.ofText?

def ofJson? (document : String) : Option Config := do
  let record ← Json.parse? document
  match ← record.fields? fieldNames with
  | [interval, timeout, queue, mtu, service, notify, write, outdated, sweep] =>
    some
      { heartbeatInterval := ← number32? interval
        heartbeatTimeout := ← number32? timeout
        maxEnqueuedMessages := ← number16? queue
        defaultMtu := ← number16? mtu
        serviceId := ← identifier? service
        notifyCharacteristicId := ← identifier? notify
        writeCharacteristicId := ← identifier? write
        sorcOutdatedDuration := ← number32? outdated
        removeOutdatedInterval := ← number32? sweep }
  | _ => none

end PhoneKey.Config
