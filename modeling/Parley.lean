import Parley.Execution.Snapshot
import Parley.Main
import Parley.Model.Writing
import Parley.Proofs.Atomicity
import Parley.Proofs.Attempts
import Parley.Proofs.Choice
import Parley.Proofs.Conversions
import Parley.Proofs.Custody
import Parley.Proofs.Decisions
import Parley.Proofs.Eviction
import Parley.Proofs.Finality
import Parley.Proofs.Flash
import Parley.Proofs.Frames
import Parley.Proofs.Guards
import Parley.Proofs.Handover
import Parley.Proofs.History
import Parley.Proofs.Holes
import Parley.Proofs.Idling
import Parley.Proofs.Integers
import Parley.Proofs.Keys
import Parley.Proofs.Mappers
import Parley.Proofs.Models
import Parley.Proofs.Naming
import Parley.Proofs.Patterns
import Parley.Proofs.Pausing
import Parley.Proofs.Refreshing
import Parley.Proofs.Reloading
import Parley.Proofs.Represented
import Parley.Proofs.Restoring
import Parley.Proofs.Resumable
import Parley.Proofs.Retention
import Parley.Proofs.Routing
import Parley.Proofs.Separation
import Parley.Proofs.Serialization
import Parley.Proofs.Sources
import Parley.Proofs.Stays
import Parley.Proofs.Targets
import Parley.Proofs.Templates
import Parley.Proofs.Tracing
import Parley.Proofs.Turns
import Parley.Proofs.Visits
import Parley.Proofs.Legibility
