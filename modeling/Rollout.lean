import Rollout.Main
import Rollout.Proofs.Cluster.Clearing
import Rollout.Proofs.Cluster.Deadlines
import Rollout.Proofs.Cluster.Installation
import Rollout.Proofs.Cluster.Prefix
import Rollout.Proofs.Cluster.Removal
import Rollout.Proofs.Cluster.Waiting
import Rollout.Proofs.FrameworkApp.Changes
import Rollout.Proofs.Orchestrator.Submission
import Rollout.Proofs.Program.Verdict
import Rollout.Proofs.Run.Forms
import Rollout.Proofs.Run.Sampling
import Rollout.Proofs.Run.Script
import Rollout.Proofs.Scenario.Cleanup
import Rollout.Proofs.Scenario.Endpoint
import Rollout.Proofs.Scenario.Errands
import Rollout.Proofs.Scenario.Readiness
import Rollout.Proofs.Scenario.Tokens
import Rollout.Proofs.Watch.Absence
import Rollout.Proofs.Watch.Assertions
import Rollout.Proofs.Watch.Verdict
import Rollout.Proofs.Wire.Flattened
import Rollout.Proofs.Wire.Objects
import Rollout.Proofs.Wire.RoundTrip
import Rollout.Proofs.Run.Numbered
import Rollout.Proofs.Cluster.Upkeep
