import Rollout.Fault
import Rollout.Run.Basic
import Rollout.Wire.Deployment
/-!
# Orchestrators

What an orchestrator does for those who watch deployments, and where the orchestrators of a
cluster are reached.
-/

namespace Rollout

open Wire

/-- Submissions answer with the id of the deployment they start. A deployment that is no longer
listed has completed or was cancelled. -/
structure Orchestrator (σ : Type) where
  addApp : App → Run σ Fault String
  removeApp : String → Bool → Run σ Fault String
  getDeployment : String → Run σ Fault (Option Deployment)

/-- Which orchestrator of a cluster is meant. -/
inductive Context where
  /-- The cluster's own. -/
  | root
  /-- One that is installed as a package, with apps of its own and no framework endpoints. -/
  | nested (serviceName : String)
  deriving DecidableEq, Repr

namespace Context

/-- Path of the API, relative to the URL of the cluster. -/
def basePath : Context → String
  | root => "marathon/"
  | nested name => "service/" ++ name ++ "/"

def text : Context → String
  | root => "marathon"
  | nested name => "mom:" ++ name

end Context

end Rollout
