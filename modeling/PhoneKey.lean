import PhoneKey.Backlog
import PhoneKey.Broadcast
import PhoneKey.Config.Document
import PhoneKey.Config.Persisted
import PhoneKey.Lease.Document
import PhoneKey.Phone
import PhoneKey.Proofs.Air
import PhoneKey.Proofs.Backlog
import PhoneKey.Proofs.Channel.Completion
import PhoneKey.Proofs.Channel.Confidentiality
import PhoneKey.Proofs.Channel.Freshness
import PhoneKey.Proofs.Channel.Invariant
import PhoneKey.Proofs.Channel.KeyProof
import PhoneKey.Proofs.Channel.News
import PhoneKey.Proofs.Channel.Phases
import PhoneKey.Proofs.Channel.Presentation
import PhoneKey.Proofs.Channel.Progress
import PhoneKey.Proofs.Channel.Reachable
import PhoneKey.Proofs.Channel.Refusal
import PhoneKey.Proofs.Channel.Results
import PhoneKey.Proofs.Channel.Steps
import PhoneKey.Proofs.Channel.Transition
import PhoneKey.Proofs.Channel.Writes
import PhoneKey.Proofs.Config
import PhoneKey.Proofs.Discovery.Actions
import PhoneKey.Proofs.Discovery.Ageing
import PhoneKey.Proofs.Envelope
import PhoneKey.Proofs.Envelope.Authenticity
import PhoneKey.Proofs.Envelope.Conversation
import PhoneKey.Proofs.Envelope.Opening
import PhoneKey.Proofs.Envelope.Reflection
import PhoneKey.Proofs.Frame.Codec
import PhoneKey.Proofs.Frame.Shape
import PhoneKey.Proofs.Frame.Stream
import PhoneKey.Proofs.Handshake.Agreement
import PhoneKey.Proofs.Line.Reception
import PhoneKey.Proofs.Line.Transmission
import PhoneKey.Proofs.Link
import PhoneKey.Proofs.Link.Completion
import PhoneKey.Proofs.Link.Negotiation
import PhoneKey.Proofs.Link.Phases
import PhoneKey.Proofs.Phone.Discovery
import PhoneKey.Proofs.Phone.Radio
import PhoneKey.Proofs.Run
import PhoneKey.Proofs.Session.Calls
import PhoneKey.Proofs.Session.Clockwork
import PhoneKey.Proofs.Session.Connecting
import PhoneKey.Proofs.Session.Course
import PhoneKey.Proofs.Session.Dispatch
import PhoneKey.Proofs.Session.Endings
import PhoneKey.Proofs.Session.Grants
import PhoneKey.Proofs.Session.Layers
import PhoneKey.Proofs.Session.Progress
import PhoneKey.Proofs.Session.Publications
import PhoneKey.Proofs.Session.Queue
import PhoneKey.Proofs.Session.Radio
import PhoneKey.Proofs.Session.Reflection
import PhoneKey.Proofs.Session.Renewal
import PhoneKey.Proofs.Session.Resync
import PhoneKey.Proofs.Session.Silence
import PhoneKey.Proofs.Session.Stale
import PhoneKey.Proofs.Session.Telemetry
import PhoneKey.Proofs.Session.Timeouts
import PhoneKey.Proofs.Session.Verdicts
import PhoneKey.Proofs.Simulation.Answers
import PhoneKey.Proofs.Simulation.Bench
import PhoneKey.Proofs.Simulation.Commands
import PhoneKey.Proofs.Simulation.Granting
import PhoneKey.Proofs.Simulation.Handshake
import PhoneKey.Proofs.Simulation.Hearing
import PhoneKey.Proofs.Simulation.Heartbeats
import PhoneKey.Proofs.Simulation.Interleaving
import PhoneKey.Proofs.Simulation.Joining
import PhoneKey.Proofs.Simulation.Lifting
import PhoneKey.Proofs.Simulation.Outcome
import PhoneKey.Proofs.Simulation.Overtaking
import PhoneKey.Proofs.Simulation.Prospect
import PhoneKey.Proofs.Simulation.Replies
import PhoneKey.Proofs.Simulation.Requests
import PhoneKey.Proofs.Simulation.Service
import PhoneKey.Proofs.Simulation.Stages
import PhoneKey.Proofs.Simulation.World
import PhoneKey.Proofs.Timer
import PhoneKey.Proofs.Timer.Firings
import PhoneKey.Simulation.Bench
import PhoneKey.Simulation.Entropy
import PhoneKey.Proofs.Config.Persisted
import PhoneKey.Proofs.ChangeStream
import PhoneKey.Proofs.Session.Nesting
