import WorkloadForms.Vocabulary

/-!
# Vocabularies of workloads

The closed vocabularies that the fields of a workload take their values from.
-/

namespace WorkloadForms.Form

/-- When the image of a container is pulled. -/
inductive PullPolicy where
  | always
  | never
  | ifNotPresent
  deriving DecidableEq, Repr, Inhabited

instance : Vocabulary PullPolicy where
  word
    | .always => "Always"
    | .never => "Never"
    | .ifNotPresent => "IfNotPresent"
  all := [.always, .never, .ifNotPresent]

/-- The order in which the pods of a stateful set start and stop. -/
inductive PodManagement where
  | orderedReady
  | parallel
  deriving DecidableEq, Repr, Inhabited

instance : Vocabulary PodManagement where
  word
    | .orderedReady => "OrderedReady"
    | .parallel => "Parallel"
  all := [.orderedReady, .parallel]

/-- The protocol of a container port. -/
inductive Protocol where
  | tcp
  | udp
  | sctp
  deriving DecidableEq, Repr, Inhabited

instance : Vocabulary Protocol where
  word
    | .tcp => "TCP"
    | .udp => "UDP"
    | .sctp => "SCTP"
  all := [.tcp, .udp, .sctp]

/-- The scheme of a probe over HTTP. -/
inductive Scheme where
  | http
  | https
  deriving DecidableEq, Repr, Inhabited

instance : Vocabulary Scheme where
  word
    | .http => "HTTP"
    | .https => "HTTPS"
  all := [.http, .https]

/-- Where a pod resolves names. -/
inductive DnsPolicy where
  | clusterFirst
  | clusterFirstWithHostNet
  | default
  | none
  deriving DecidableEq, Repr, Inhabited

instance : Vocabulary DnsPolicy where
  word
    | .clusterFirst => "ClusterFirst"
    | .clusterFirstWithHostNet => "ClusterFirstWithHostNet"
    | .default => "Default"
    | .none => "None"
  all := [.clusterFirst, .clusterFirstWithHostNet, .default, .none]

/-- What happens when a job is due while the last one still runs. -/
inductive Concurrency where
  | allow
  | forbid
  | replace
  deriving DecidableEq, Repr, Inhabited

instance : Vocabulary Concurrency where
  word
    | .allow => "Allow"
    | .forbid => "Forbid"
    | .replace => "Replace"
  all := [.allow, .forbid, .replace]

/-- How pods are replaced by newer ones. -/
inductive StrategyType where
  | rollingUpdate
  | recreate
  deriving DecidableEq, Repr, Inhabited

instance : Vocabulary StrategyType where
  word
    | .rollingUpdate => "RollingUpdate"
    | .recreate => "Recreate"
  all := [.rollingUpdate, .recreate]

/-- How a toleration matches a taint. -/
inductive TolerationOperator where
  | equal
  | exists
  deriving DecidableEq, Repr, Inhabited

instance : Vocabulary TolerationOperator where
  word
    | .equal => "Equal"
    | .exists => "Exists"
  all := [.equal, .exists]

/-- How a condition on a node or on labels compares. -/
inductive SelectorOperator where
  | isIn
  | notIn
  | exists
  | doesNotExist
  | greaterThan
  | lessThan
  deriving DecidableEq, Repr, Inhabited

instance : Vocabulary SelectorOperator where
  word
    | .isIn => "In"
    | .notIn => "NotIn"
    | .exists => "Exists"
    | .doesNotExist => "DoesNotExist"
    | .greaterThan => "Gt"
    | .lessThan => "Lt"
  all := [.isIn, .notIn, .exists, .doesNotExist, .greaterThan, .lessThan]

/-- The handler that a probe uses. -/
inductive ProbeType where
  | httpGet
  | exec
  | tcpSocket
  deriving DecidableEq, Repr, Inhabited

instance : Vocabulary ProbeType where
  word
    | .httpGet => "httpGet"
    | .exec => "exec"
    | .tcpSocket => "tcpSocket"
  all := [.httpGet, .exec, .tcpSocket]

/-- The source that a volume uses. -/
inductive VolumeType where
  | emptyDir
  | hostPath
  | configMap
  | secret
  | persistentVolumeClaim
  deriving DecidableEq, Repr, Inhabited

instance : Vocabulary VolumeType where
  word
    | .emptyDir => "emptyDir"
    | .hostPath => "hostPath"
    | .configMap => "configMap"
    | .secret => "secret"
    | .persistentVolumeClaim => "persistentVolumeClaim"
  all := [.emptyDir, .hostPath, .configMap, .secret, .persistentVolumeClaim]

end WorkloadForms.Form
