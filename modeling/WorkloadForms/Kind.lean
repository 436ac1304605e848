import WorkloadForms.Vocabulary
import WorkloadForms.Text.Ascii

/-!
# Workload kinds

The kinds of workload a manifest can be made for. Every kind has a shape of its own: where the
pod specification lies in its manifest, where the job specification lies if it has one, and
whether it has a number of replicas.
-/

namespace WorkloadForms

/-- A kind of workload. -/
inductive Kind where
  | deployment
  | statefulSet
  | daemonSet
  | job
  | cronJob
  | rollout
  deriving DecidableEq, Repr, Inhabited

namespace Kind

instance : Vocabulary Kind where
  word
    | .deployment => "Deployment"
    | .statefulSet => "StatefulSet"
    | .daemonSet => "DaemonSet"
    | .job => "Job"
    | .cronJob => "CronJob"
    | .rollout => "Rollout"
  all := [.deployment, .statefulSet, .daemonSet, .job, .cronJob, .rollout]

/-- The canonical name. -/
def name (k : Kind) : String := Vocabulary.word k

/-- All kinds in the order in which they are listed. -/
def all : List Kind := Vocabulary.all

/-- The kind that a name means, without regard to the case of ASCII letters. -/
def ofName? (s : String) : Option Kind := all.find? fun k => Text.sameIgnoringCase k.name s

/-- The version of the interface that the kind belongs to. -/
def apiVersion : Kind → String
  | .deployment | .statefulSet | .daemonSet => "apps/v1"
  | .job | .cronJob => "batch/v1"
  | .rollout => "argoproj.io/v1alpha1"

/-- Whether a manifest of the kind has a number of replicas. -/
def hasReplicas : Kind → Bool
  | .deployment | .statefulSet | .rollout => true
  | _ => false

/-- Whether the kind runs its pods to completion. -/
def isBatch : Kind → Bool
  | .job | .cronJob => true
  | _ => false

/-- The keys from the root of a manifest to the pod specification. -/
def podSpecPath : Kind → List String
  | .cronJob => ["spec", "jobTemplate", "spec", "template", "spec"]
  | _ => ["spec", "template", "spec"]

/-- The keys from the root of a manifest to the job specification of a batch kind. -/
def jobSpecPath? : Kind → Option (List String)
  | .job => some ["spec"]
  | .cronJob => some ["spec", "jobTemplate", "spec"]
  | _ => none

end Kind

end WorkloadForms
