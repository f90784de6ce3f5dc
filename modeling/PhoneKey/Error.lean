/-! # Failures of single operations

Each layer has its own causes of failure, and `AccessError` joins them. A connection that ends is no
failure in this sense: it shows as a change on the connection stream. `message` gives the wording.
-/

namespace PhoneKey

inductive FrameError where
  | emptyFrameSize
  | messageTooLarge
  | truncated
  | unknownType
deriving DecidableEq, Repr, Inhabited

def FrameError.message : FrameError → String
  | .emptyFrameSize => "frame size must be non-zero"
  | .messageTooLarge => "message exceeds 65535 bytes"
  | .truncated => "frame shorter than header"
  | .unknownType => "unknown frame type"

/-- Failures of the radio link. -/
inductive LinkError where
  | sendingInProgress
  | notConnected
  | writeFailed
  | receiveFailed
  | invalidFrame
deriving DecidableEq, Repr, Inhabited

def LinkError.message : LinkError → String
  | .sendingInProgress => "sending in progress"
  | .notConnected => "not connected"
  | .writeFailed => "characteristic write failed"
  | .receiveFailed => "notification receive failed"
  | .invalidFrame => "invalid frame"

/-- A frame that cannot be made or read is an invalid frame to the link, whatever the cause. -/
def LinkError.ofFrame (_ : FrameError) : LinkError := .invalidFrame

/-- Failures of one message on the secure channel. -/
inductive ChannelError where
  | decryptionFailed
  | encryptionFailed
  | link (cause : LinkError)
deriving DecidableEq, Repr, Inhabited

def ChannelError.message : ChannelError → String
  | .decryptionFailed => "decryption failed"
  | .encryptionFailed => "encryption failed"
  | .link cause => cause.message

/-- Failures of the handshake. -/
inductive HandshakeError where
  | responseDoNotMatch
  | responseWasNotAccepted
  | responseIsCorrupt
  | cipherNotInitialised
  | encryptionFailed
  | decryptionFailed
  | noChallengeMessage
deriving DecidableEq, Repr, Inhabited

def HandshakeError.message : HandshakeError → String
  | .responseDoNotMatch => "challenge response does not match"
  | .responseWasNotAccepted => "challenge response was not accepted"
  | .responseIsCorrupt => "challenge response is corrupt"
  | .cipherNotInitialised => "AES cipher not initialised"
  | .encryptionFailed => "AES encryption failed"
  | .decryptionFailed => "AES decryption failed"
  | .noChallengeMessage => "not a challenge message"

/-- The name under which a log line mentions the failure. -/
def HandshakeError.name : HandshakeError → String
  | .responseDoNotMatch => "ResponseDoNotMatch"
  | .responseWasNotAccepted => "ResponseWasNotAccepted"
  | .responseIsCorrupt => "ResponseIsCorrupt"
  | .cipherNotInitialised => "AesCryptoNotInitialised"
  | .encryptionFailed => "AesEncryptionFailed"
  | .decryptionFailed => "AesDecryptionFailed"
  | .noChallengeMessage => "NoChallengeMessage"

inductive CipherError where
  | invalidKey
  | macMismatch
  | invalidLength
deriving DecidableEq, Repr, Inhabited

def CipherError.message : CipherError → String
  | .invalidKey => "invalid key"
  | .macMismatch => "MAC mismatch"
  | .invalidLength => "invalid ciphertext length"

inductive BacklogError where
  | maximumElementsReached
deriving DecidableEq, Repr, Inhabited

def BacklogError.message : BacklogError → String
  | .maximumElementsReached => "maximum elements reached"

inductive LeaseError where
  | emptyAccessKey
  | invalidAccessKey
  | invalidBlob
deriving DecidableEq, Repr, Inhabited

def LeaseError.message : LeaseError → String
  | .emptyAccessKey => "access key is empty"
  | .invalidAccessKey => "access key is not 128-bit hex"
  | .invalidBlob => "lease token blob is invalid"

/-- The settings whose values are checked. -/
inductive Setting where
  | heartbeatInterval
  | heartbeatTimeout
  | maxEnqueuedMessages
  | defaultMtu
  | sorcOutdatedDuration
  | removeOutdatedInterval
deriving DecidableEq, Repr, Inhabited

/-- The name of a setting in documents and messages. -/
def Setting.name : Setting → String
  | .heartbeatInterval => "heartbeat_interval_ms"
  | .heartbeatTimeout => "heartbeat_timeout_ms"
  | .maxEnqueuedMessages => "max_enqueued_messages"
  | .defaultMtu => "default_mtu"
  | .sorcOutdatedDuration => "sorc_outdated_duration_ms"
  | .removeOutdatedInterval => "remove_outdated_sorcs_interval_ms"

inductive ConfigError where
  | validationFailed (setting : Setting)
  | corrupted
deriving DecidableEq, Repr, Inhabited

def ConfigError.message : ConfigError → String
  | .validationFailed setting => "validation failed: " ++ setting.name
  | .corrupted => "config corrupted"

/-- Why an outstanding request was given up. -/
inductive RequestFailure where
  | sendingFailed
  | receivedInvalidData
deriving DecidableEq, Repr, Inhabited

def RequestFailure.message : RequestFailure → String
  | .sendingFailed => "sending failed"
  | .receivedInvalidData => "received invalid data"

/-- The name under which a log line mentions the failure. -/
def RequestFailure.name : RequestFailure → String
  | .sendingFailed => "SendingFailed"
  | .receivedInvalidData => "ReceivedInvalidData"

/-- Any failure of a single operation, with the layer it arose in. -/
inductive AccessError where
  | frame (cause : FrameError)
  | link (cause : LinkError)
  | channel (cause : ChannelError)
  | handshake (cause : HandshakeError)
  | cipher (cause : CipherError)
  | backlog (cause : BacklogError)
  | lease (cause : LeaseError)
  | config (cause : ConfigError)
deriving DecidableEq, Repr, Inhabited

namespace AccessError

/-- The layer that a failure arose in. -/
def layer : AccessError → String
  | .frame _ => "frame"
  | .link _ => "transport"
  | .channel _ => "security"
  | .handshake _ => "challenge"
  | .cipher _ => "crypto"
  | .backlog _ => "queue"
  | .lease _ => "lease"
  | .config _ => "config"

/-- The wording of the failure itself. -/
def causeMessage : AccessError → String
  | .frame cause => cause.message
  | .link cause => cause.message
  | .channel cause => cause.message
  | .handshake cause => cause.message
  | .cipher cause => cause.message
  | .backlog cause => cause.message
  | .lease cause => cause.message
  | .config cause => cause.message

def message (error : AccessError) : String := error.layer ++ ": " ++ error.causeMessage

end AccessError

instance : Coe FrameError AccessError := ⟨.frame⟩

instance : Coe LinkError AccessError := ⟨.link⟩

instance : Coe ChannelError AccessError := ⟨.channel⟩

instance : Coe HandshakeError AccessError := ⟨.handshake⟩

instance : Coe CipherError AccessError := ⟨.cipher⟩

instance : Coe BacklogError AccessError := ⟨.backlog⟩

instance : Coe LeaseError AccessError := ⟨.lease⟩

instance : Coe ConfigError AccessError := ⟨.config⟩

end PhoneKey
