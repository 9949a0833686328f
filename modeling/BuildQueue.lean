import BuildQueue.Json.Parser
import BuildQueue.Main
import BuildQueue.Serializer.Timeline
import BuildQueue.Simulation.Session
import BuildQueue.Simulation.Shell
import BuildQueue.Wire.Config
import BuildQueue.Wire.Dependency
import BuildQueue.Proofs.Prog
import BuildQueue.Proofs.Text.Percent
import BuildQueue.Proofs.Text.Number
import BuildQueue.Proofs.Job.Key
import BuildQueue.Proofs.Job.WrittenForm
import BuildQueue.Proofs.Store.Lane
import BuildQueue.Proofs.Store.Admission
import BuildQueue.Proofs.Store.Structure
import BuildQueue.Proofs.Store.Departures
import BuildQueue.Proofs.Store.Commands
import BuildQueue.Proofs.Store.Mirror
import BuildQueue.Proofs.Store.Bounds
import BuildQueue.Proofs.Store.Replies
import BuildQueue.Proofs.Store.Equivalence
import BuildQueue.Proofs.Store.Writes
import BuildQueue.Proofs.Store.Changes
import BuildQueue.Proofs.Store.History
import BuildQueue.Proofs.Store.Cells
import BuildQueue.Proofs.Store.Origin
import BuildQueue.Proofs.Ledger.Clients
import BuildQueue.Proofs.Ledger.Paths
import BuildQueue.Proofs.Ledger.Requests
import BuildQueue.Proofs.Ledger.Agreement
import BuildQueue.Proofs.Ledger.Calls
import BuildQueue.Proofs.Ledger.SoleOccupant
import BuildQueue.Proofs.Ledger.PushStages
import BuildQueue.Proofs.Ledger.NewestPush
import BuildQueue.Proofs.Ledger.History
import BuildQueue.Proofs.Ledger.Acceptance
import BuildQueue.Proofs.Ledger.Postings
import BuildQueue.Proofs.Ledger.Deployments
import BuildQueue.Proofs.Orchestrator.Tasks
import BuildQueue.Proofs.Orchestrator.Requests
import BuildQueue.Proofs.Orchestrator.Journal
import BuildQueue.Proofs.Orchestrator.Course
import BuildQueue.Proofs.Orchestrator.Success
import BuildQueue.Proofs.Orchestrator.HandOff
import BuildQueue.Proofs.Orchestrator.Acts
import BuildQueue.Proofs.Orchestrator.Sites
import BuildQueue.Proofs.Orchestrator.Effects
import BuildQueue.Proofs.Orchestrator.WorkConservation
import BuildQueue.Proofs.Orchestrator.Policy
import BuildQueue.Proofs.Orchestrator.Quiescence
import BuildQueue.Proofs.Orchestrator.Redelivery
import BuildQueue.Proofs.Orchestrator.Deeds
import BuildQueue.Proofs.Orchestrator.Preparation
import BuildQueue.Proofs.Serializer.Slots
import BuildQueue.Proofs.Serializer.Turns
import BuildQueue.Proofs.Store.Shares
import BuildQueue.Proofs.Store.Lazy
import BuildQueue.Proofs.Store.Commutation
import BuildQueue.Proofs.Store.Deadlines
import BuildQueue.Proofs.Json.RoundTrip
import BuildQueue.Proofs.Json.Forms
import BuildQueue.Proofs.Wire.Forms
import BuildQueue.Proofs.Store.Retirement
import BuildQueue.Proofs.Ledger.Atomicity
import BuildQueue.Proofs.Store.Oldest
import BuildQueue.Proofs.Text.ByteOrder
import BuildQueue.Proofs.Orchestrator.Pipeline
import BuildQueue.Proofs.Store.Names
import BuildQueue.Proofs.Job.Grammar
import BuildQueue.Proofs.Dependency
import BuildQueue.Proofs.Pattern.Anchored
import BuildQueue.Proofs.Config.Document
import BuildQueue.Job.Hash
import BuildQueue.Proofs.Job.Identity
import BuildQueue.Proofs.Orchestrator.Turns
import BuildQueue.Proofs.Serializer.Endings
import BuildQueue.Proofs.Serializer.Isolation
import BuildQueue.Proofs.Serializer.Table
import BuildQueue.Proofs.Version.Tags
import BuildQueue.Proofs.Version.Bumps
