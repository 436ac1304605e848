import WorkloadForms.Console
import WorkloadForms.Main
import WorkloadForms.Session
import WorkloadForms.Proofs.Object
import WorkloadForms.Proofs.Text.Token
import WorkloadForms.Proofs.Normal.Probe
import WorkloadForms.Proofs.Normal.Container
import WorkloadForms.Proofs.Normal.Volume
import WorkloadForms.Proofs.Normal.Affinity
import WorkloadForms.Proofs.Normal.Pod
import WorkloadForms.Proofs.Normal.Metadata
import WorkloadForms.Proofs.Normal.Descriptor
import WorkloadForms.Proofs.Yaml.Tree
import WorkloadForms.Proofs.Yaml.Tagged
import WorkloadForms.Proofs.Named
import WorkloadForms.Proofs.Stability
import WorkloadForms.Proofs.ReadBack
import WorkloadForms.Proofs.Session
import WorkloadForms.Proofs.WellFormed
import WorkloadForms.Proofs.ReadBack.Probe
import WorkloadForms.Proofs.ReadBack.Container
import WorkloadForms.Proofs.Affinity.Object
import WorkloadForms.Proofs.Affinity.Rows
import WorkloadForms.Proofs.Affinity.RowShaped
import WorkloadForms.Proofs.Yaml.Quoted
import WorkloadForms.Proofs.Yaml.Scan.Calm
import WorkloadForms.Proofs.Yaml.Scan.Flow
import WorkloadForms.Proofs.Number.Decimal
import WorkloadForms.Proofs.Json.Tokens
import WorkloadForms.Proofs.Json.Nodes
import WorkloadForms.Proofs.Json.Text
import WorkloadForms.Proofs.Record.Presentation
import WorkloadForms.Proofs.Record.Restore
import WorkloadForms.Proofs.Restored.Container
import WorkloadForms.Proofs.Restored.Descriptor
import WorkloadForms.Proofs.Pipe
import WorkloadForms.Proofs.Console
import WorkloadForms.Proofs.Shape
import WorkloadForms.Proofs.Leftover
import WorkloadForms.Proofs.Isolation.Difference
import WorkloadForms.Proofs.Isolation.Container
import WorkloadForms.Proofs.Isolation.Descriptor
import WorkloadForms.Proofs.ReadBack.Metadata
import WorkloadForms.Proofs.ReadBack.Volume
import WorkloadForms.Proofs.ReadBack.Pod
import WorkloadForms.Proofs.Record.Field
import WorkloadForms.Proofs.Words.Command
import WorkloadForms.Proofs.Words.Values
import WorkloadForms.Proofs.Words
import WorkloadForms.Proofs.Files
import WorkloadForms.Proofs.Command
import WorkloadForms.Proofs.Isolation.Kind
import WorkloadForms.Proofs.Choice
import WorkloadForms.Proofs.Vacant
import WorkloadForms.Proofs.Required
