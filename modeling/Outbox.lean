import Outbox.Main
import Outbox.Enrichment
import Outbox.Proofs.Reading
import Outbox.Proofs.Action
import Outbox.Proofs.Table
import Outbox.Proofs.Memory.Index
import Outbox.Proofs.Memory.Queue
import Outbox.Proofs.Memory.Store
import Outbox.Proofs.Memory.Traffic
import Outbox.Proofs.Memory.Safety
import Outbox.Proofs.Indexer
import Outbox.Proofs.Disposition
import Outbox.Proofs.Reconciler.References
import Outbox.Proofs.Reconciler.Tick
import Outbox.Proofs.Reconciler.FailedTick
import Outbox.Proofs.Reconciler.Stage
import Outbox.Proofs.Fleet.Basic
import Outbox.Proofs.Fleet.Steps
import Outbox.Proofs.Fleet.Scene
import Outbox.Proofs.Fleet.Sound
import Outbox.Proofs.Fleet.Consumers
import Outbox.Proofs.Fleet.Producers
import Outbox.Proofs.Fleet.Convergence
import Outbox.Proofs.Reconciler.Healthy
import Outbox.Proofs.Redelivery.Attempt
import Outbox.Proofs.Redelivery.Harmless
import Outbox.Proofs.Reconciler.Journal
import Outbox.Proofs.Database.Exchange
import Outbox.Proofs.Session.Discipline
import Outbox.Proofs.Search.Client
import Outbox.Proofs.Search.Rejection
import Outbox.Proofs.Search.FailedIds
import Outbox.Proofs.Time.Relaxed
import Outbox.Proofs.Task
import Outbox.Proofs.Text.Utf8
import Outbox.Proofs.Decimal.Digits
import Outbox.Proofs.Decimal.Shortest
import Outbox.Proofs.Uuid.Text
import Outbox.Proofs.Time.Calendar
import Outbox.Proofs.Time.Version
import Outbox.Proofs.Json.Numeral
import Outbox.Proofs.Json.Roundtrip
import Outbox.Proofs.Search.Bulk
import Outbox.Proofs.Search.Server
import Outbox.Proofs.Search.Agreement
import Outbox.Proofs.Memory.Order
import Outbox.Proofs.Reconciler.Outcome
import Outbox.Proofs.Distinct
import Outbox.Proofs.Time.Order
import Outbox.Proofs.Reconciler.Drain
import Outbox.Proofs.Search.Notes
import Outbox.Proofs.Simulation.Tick
import Outbox.Proofs.Search.Skipping
import Outbox.Proofs.Table.Order
import Outbox.Proofs.Lockstep
import Outbox.Proofs.Simulation.Blind
import Outbox.Proofs.Simulation.InMemory
import Outbox.Proofs.Search.Hosting
import Outbox.Proofs.Simulation.Enrichment
import Outbox.Proofs.Simulation.Sources
import Outbox.Proofs.Memory.Unguarded
import Outbox.Proofs.Memory.Claiming
import Outbox.Proofs.Memory.Committing
import Outbox.Proofs.Search.Marker
import Outbox.Proofs.Reconciler.Starvation
import Outbox.Proofs.Indexer.Calls
import Outbox.Proofs.Indexer.Written
import Outbox.Proofs.Indexer.Partition
import Outbox.Proofs.Reconciler.Malformed
import Outbox.Proofs.Search.Retry
import Outbox.Proofs.Search.Resending
import Outbox.Proofs.Config.Retry
import Outbox.Proofs.Uuid.Spelling
import Outbox.Proofs.Registry
import Outbox.Proofs.Database.Column
import Outbox.Proofs.Database.Insertion
import Outbox.Proofs.Database.Reindex
import Outbox.Proofs.Decoding
import Outbox.Proofs.Search.Framing
import Outbox.Proofs.Time.Spelling
import Outbox.Proofs.Decimal.Integer
import Outbox.Proofs.TableName
import Outbox.Proofs.Config.Accepted
import Outbox.Proofs.Database.Lookup
import Outbox.Proofs.Database.Naming
