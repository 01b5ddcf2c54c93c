import DmSimulator.Cache.AdmissionPlan
import DmSimulator.Cache.EvictionRows
import DmSimulator.Runs.Accepted
import DmSimulator.Runs.Barrier
import DmSimulator.Runs.Guards
import DmSimulator.Runs.CacheRuns
import DmSimulator.Runs.Latency
import DmSimulator.Workloads.AccessPattern
import DmSimulator.Runs.Replication
import DmSimulator.Runs.Variants
import DmSimulator.Runs.SplitChannels
import DmSimulator.Workloads.Churn
import DmSimulator.Workloads.BurstOffsets
import DmSimulator.Cache.HotnessWindow
import DmSimulator.Cache.BypassRows
import DmSimulator.Cache.Inclusion
import DmSimulator.Runs.BurstArrivals
import DmSimulator.Runs.CompletionPacing
import DmSimulator.Runs.HitCredit
import DmSimulator.Cache.ConfirmationWindow
import DmSimulator.Runs.UnderWay
import DmSimulator.Runs.ConfirmationRuns
import DmSimulator.Runs.PriorTelemetry
import DmSimulator.Runs.Recency
import DmSimulator.Sim.PopOrder
import DmSimulator.Metrics.Histogram
import DmSimulator.Experiments.Fairness
import DmSimulator.Scripts.HotObjectCapacity
import DmSimulator.Scripts.PolicyComparison
import DmSimulator.Experiments.ChannelSummary
import DmSimulator.Experiments.EvictionRegret
import DmSimulator.Runs.QueueDepths
import DmSimulator.Experiments.Rankings
import DmSimulator.Scripts.BuildRuns
import DmSimulator.Lib.Utf8
import DmSimulator.Lib.JsonString
import DmSimulator.Experiments.SummaryJson
import DmSimulator.Cache.Noninterference
import DmSimulator.Cache.Visits
import DmSimulator.Runs.Visits
import DmSimulator.Runs.VisitTurns
import DmSimulator.Runs.Noninterference
import DmSimulator.Lib.YamlBlock
import DmSimulator.Lib.DecimalText
import DmSimulator.Sim.ConfigLoader
import DmSimulator.Sim.ConfigRanges
import DmSimulator.Sim.DocumentedYaml
import DmSimulator.Runs.LoadedConfigs
import DmSimulator.Scripts.YamlConfig
import DmSimulator.Scripts.YamlDocument
import DmSimulator.Scripts.YamlSections
import DmSimulator.Scripts.YamlRoundTrip
import DmSimulator.Scripts.WrittenConfigs
import DmSimulator.Lib.Csv
import DmSimulator.Experiments.ReportFiles
import DmSimulator.Scripts.ContentionTotals
import DmSimulator.Experiments.ContentionReports
import DmSimulator.Cache.Verdicts
import DmSimulator.Cache.DecisionRows
import DmSimulator.Runs.DecisionRows
import DmSimulator.Experiments.ReportTables
import DmSimulator.Scripts.AggregateFile
