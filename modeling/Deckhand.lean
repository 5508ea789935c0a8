import Deckhand.Lib.Interleave
import Deckhand.Lib.Txn
import Deckhand.Lib.Table
import Deckhand.Lib.Chain
import Deckhand.Lib.Tenure
import Deckhand.StateMachine
import Deckhand.Adapters
import Deckhand.Catalog
import Deckhand.Digests
import Deckhand.Lib.Canonical
import Deckhand.DigestFields
import Deckhand.JobContext
import Deckhand.Policy
import Deckhand.Resilience
import Deckhand.Store.Schema
import Deckhand.Store.Audit
import Deckhand.Store.JobSpec
import Deckhand.Store.Confirmations
import Deckhand.Store.Ops
import Deckhand.Store.History
import Deckhand.Store.Tamper
import Deckhand.Store.Challenge
import Deckhand.Store.Attempts
import Deckhand.Store.Budget
import Deckhand.Store.Progress
import Deckhand.Store.TextOrder
import Deckhand.Starvation
import Deckhand.Circuit
import Deckhand.Probe
import Deckhand.Lib.Bucket
import Deckhand.RateLimit
import Deckhand.GuardOutcomes
import Deckhand.Broker
import Deckhand.Worker
import Deckhand.Reconciler
import Deckhand.Cancellation
import Deckhand.Api
import Deckhand.System
import Deckhand.Sample
import Deckhand.Scenario
import Deckhand.Fencing
import Deckhand.Gate
import Deckhand.Mediation
import Deckhand.Agreement
import Deckhand.Inventory
import Deckhand.Churn
import Deckhand.Waiting
import Deckhand.Door
import Deckhand.PolicyServer
import Deckhand.Wasm.Lifecycle
import Deckhand.Wasm.Boundary
import Deckhand.Terminal
import Deckhand.Leases
import Deckhand.Lib.Timed
import Deckhand.Timing
import Deckhand.Applied
import Deckhand.Evidence
import Deckhand.Queue
import Deckhand.Races
import Deckhand.Lib.Alone
import Deckhand.Resolution
import Deckhand.Resend
import Deckhand.Feed
import Deckhand.Lib.EventStream
import Deckhand.Store.EventTypes
import Deckhand.Reconnect
import Deckhand.CatchUp
import Deckhand.Domains
import Deckhand.Candidates
import Deckhand.PublicSurface
import Deckhand.Identity
import Deckhand.Issuers
import Deckhand.TokenErrors
import Deckhand.Supervision
import Deckhand.Wasm.Admission
import Deckhand.Wasm.Ambiguity
import Deckhand.Plugins.Extensions
import Deckhand.Plugins.SocketPath
import Deckhand.Lib.Host
import Deckhand.Lib.Utf16
import Deckhand.Lib.Regex
import Deckhand.Mac.Executor
import Deckhand.Mac.Aliases
import Deckhand.StreamDeck.Visual
import Deckhand.StreamDeck.KeyImage
import Deckhand.StreamDeck.TypedAction
import Deckhand.StreamDeck.Presses
import Deckhand.StreamDeck.LostResponses
import Deckhand.StreamDeck.Challenges
import Deckhand.StreamDeck.StatusAction
import Deckhand.StreamDeck.Timers
import Deckhand.StreamDeck.IdentityTokens
