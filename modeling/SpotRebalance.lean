import SpotRebalance.Amount
import SpotRebalance.Calendar
import SpotRebalance.Clock
import SpotRebalance.ClusterApi.Event
import SpotRebalance.ClusterApi.Listing
import SpotRebalance.ClusterApi.Request
import SpotRebalance.ClusterApi.Scripted
import SpotRebalance.ClusterApi.Server
import SpotRebalance.CommandLine.Arguments
import SpotRebalance.CommandLine.Flag
import SpotRebalance.CommandLine.Settings
import SpotRebalance.Config
import SpotRebalance.DisruptionBudget
import SpotRebalance.Document
import SpotRebalance.Document.ApiRequest
import SpotRebalance.Document.Config
import SpotRebalance.Document.DisruptionBudget
import SpotRebalance.Document.Form
import SpotRebalance.Document.Json
import SpotRebalance.Document.Json.Token
import SpotRebalance.Document.Kubeconfig
import SpotRebalance.Document.Manifest.DisruptionBudget
import SpotRebalance.Document.Manifest.Form.Container
import SpotRebalance.Document.Manifest.Form.DisruptionBudget
import SpotRebalance.Document.Manifest.Form.Meta
import SpotRebalance.Document.Manifest.Form.Node
import SpotRebalance.Document.Manifest.Form.Pod
import SpotRebalance.Document.Manifest.Form.Volume
import SpotRebalance.Document.Manifest.Meta
import SpotRebalance.Document.Manifest.Node
import SpotRebalance.Document.Manifest.Pod
import SpotRebalance.Document.Manifest.Selector
import SpotRebalance.Document.Node
import SpotRebalance.Document.NodeLoad
import SpotRebalance.Document.Pod
import SpotRebalance.Document.Resources
import SpotRebalance.Document.Selector
import SpotRebalance.Document.Status
import SpotRebalance.Document.Structure
import SpotRebalance.Document.Time
import SpotRebalance.DrainPlan
import SpotRebalance.Duration
import SpotRebalance.Duration.Notation
import SpotRebalance.Eviction.Board
import SpotRebalance.Eviction.Deletion
import SpotRebalance.Eviction.Drain
import SpotRebalance.Eviction.Fault
import SpotRebalance.Eviction.Pacing
import SpotRebalance.Eviction.Worker
import SpotRebalance.Exchange
import SpotRebalance.Fit
import SpotRebalance.Http
import SpotRebalance.Http.SocketAddress
import SpotRebalance.Instant
import SpotRebalance.Instant.Relaxed
import SpotRebalance.Instant.Rfc3339
import SpotRebalance.Kubeconfig
import SpotRebalance.LocalCluster
import SpotRebalance.LocalCluster.Watched
import SpotRebalance.Main
import SpotRebalance.Manifest.DisruptionBudget
import SpotRebalance.Manifest.Meta
import SpotRebalance.Manifest.Node
import SpotRebalance.Manifest.Pod
import SpotRebalance.Manifest.ResourceList
import SpotRebalance.Manifest.Selector
import SpotRebalance.Metrics.Exposition
import SpotRebalance.Metrics.Measurement
import SpotRebalance.Metrics.Record
import SpotRebalance.Metrics.Registry
import SpotRebalance.Metrics.Series
import SpotRebalance.NameTable
import SpotRebalance.Node
import SpotRebalance.NodeLoad
import SpotRebalance.Pod
import SpotRebalance.Proofs.Resources.Saturation
import SpotRebalance.Quantity
import SpotRebalance.Quantity.Words
import SpotRebalance.RebalanceError
import SpotRebalance.Rebalancer.Cycle
import SpotRebalance.Rebalancer.Environment
import SpotRebalance.Rebalancer.Loop
import SpotRebalance.Rebalancer.Outcome
import SpotRebalance.Rebalancer.Verdict
import SpotRebalance.Relocation
import SpotRebalance.Requirement
import SpotRebalance.Resources
import SpotRebalance.Role
import SpotRebalance.Selector
import SpotRebalance.Snapshot
import SpotRebalance.Taint
import SpotRebalance.Text.Base64
import SpotRebalance.Text.Blank
import SpotRebalance.Text.Decimal
import SpotRebalance.Text.FloatDigits
import SpotRebalance.Text.Printable
import SpotRebalance.Text.Quoted
import SpotRebalance.Uri
import SpotRebalance.WireFormat
import SpotRebalance.Proofs.Fit.Conditions
import SpotRebalance.Proofs.DrainPlan.FirstFit
import SpotRebalance.Proofs.DrainPlan.Settled
import SpotRebalance.Proofs.DrainPlan.Separation
import SpotRebalance.Proofs.Instant.Saturation
import SpotRebalance.Proofs.Rebalancer.Course
import SpotRebalance.Proofs.Rebalancer.Journal
import SpotRebalance.Proofs.Rebalancer.Account
import SpotRebalance.Proofs.Rebalancer.Drainable
import SpotRebalance.Proofs.Rebalancer.DrainSafety
import SpotRebalance.Proofs.Rebalancer.Cooldown
import SpotRebalance.Proofs.Metrics.Latest
import SpotRebalance.Proofs.Rebalancer.Failure
import SpotRebalance.Proofs.Rebalancer.NodeMetrics
import SpotRebalance.Proofs.DrainPlan.UnknownDemand
import SpotRebalance.Proofs.Manifest.Unreadable
import SpotRebalance.Proofs.Rebalancer.UnknownDemand
import SpotRebalance.Proofs.Eviction.Attempts
import SpotRebalance.Proofs.Eviction.Roster
import SpotRebalance.Proofs.Eviction.Completion
import SpotRebalance.Proofs.Eviction.Deletion
import SpotRebalance.Proofs.Eviction.Departures
import SpotRebalance.Proofs.Eviction.Soundness
import SpotRebalance.Proofs.Fit.Order
import SpotRebalance.Proofs.Exchange.Alike
import SpotRebalance.Proofs.DrainPlan.Order
import SpotRebalance.Proofs.Snapshot.Order
import SpotRebalance.Proofs.Rebalancer.Comparison
import SpotRebalance.Proofs.Rebalancer.ListingOrder
import SpotRebalance.Proofs.Rebalancer.Bookkeeping
import SpotRebalance.Proofs.Rebalancer.DryRun
import SpotRebalance.Proofs.Rebalancer.CooldownStart
import SpotRebalance.Proofs.Manifest.Affinity
import SpotRebalance.Proofs.Manifest.Capacity
import SpotRebalance.Proofs.Manifest.AffinityChange
import SpotRebalance.Proofs.Manifest.UnknownOperator
import SpotRebalance.Proofs.Eviction.ClockRange
import SpotRebalance.Proofs.Eviction.Course
import SpotRebalance.Proofs.Eviction.Timetable
import SpotRebalance.Proofs.Eviction.Polling
import SpotRebalance.Proofs.Eviction.Pace
import SpotRebalance.Proofs.Rebalancer.ClockRange
import SpotRebalance.Proofs.Rebalancer.LoopCourse
import SpotRebalance.Proofs.Rebalancer.Cadence
import SpotRebalance.Proofs.Rebalancer.Shutdown
import SpotRebalance.Proofs.Metrics.Agreement
import SpotRebalance.Proofs.Rebalancer.Scrapes
import SpotRebalance.Proofs.ClusterApi.FieldSelection
import SpotRebalance.Proofs.Rebalancer.DrainOnce
import SpotRebalance.Proofs.DrainPlan.Greedy
import SpotRebalance.Proofs.Metrics.Samples
import SpotRebalance.Proofs.Metrics.Exported
import SpotRebalance.Proofs.Quantity.Denotation
import SpotRebalance.Proofs.Quantity.Reading
import SpotRebalance.Proofs.Quantity.Exactness
import SpotRebalance.Proofs.Snapshot.Partition
import SpotRebalance.Proofs.Fit.ExactSums
import SpotRebalance.Proofs.Manifest.EffectiveRequests
import SpotRebalance.Proofs.Fit.FewerPods
import SpotRebalance.Proofs.Manifest.NodeConstraints
import SpotRebalance.Proofs.DrainPlan.Composition
import SpotRebalance.Proofs.Relocation.Exactness
import SpotRebalance.Proofs.Quantity.Overflow
import SpotRebalance.Proofs.ClusterApi.Targets
import SpotRebalance.Proofs.Eviction.Announcements
import SpotRebalance.Proofs.Eviction.Events
import SpotRebalance.Proofs.Fit.Obstacles
import SpotRebalance.Proofs.Instant.Timeline
import SpotRebalance.Proofs.Fit.FreeResources
import SpotRebalance.Proofs.ClusterApi.PodRule
import SpotRebalance.Proofs.Exchange.Unison
import SpotRebalance.Proofs.Eviction.Independence
import SpotRebalance.Proofs.Resources.Laws
