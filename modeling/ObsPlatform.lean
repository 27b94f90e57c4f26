import ObsPlatform.Db.Constraints
import ObsPlatform.Ingestion.Runs
import ObsPlatform.Ingestion.Effect
import ObsPlatform.Ingestion.Concurrent
import ObsPlatform.Ingestion.Snapshot
import ObsPlatform.Ingestion.Refinement
import ObsPlatform.Evaluation.Classifier
import ObsPlatform.Evaluation.Judges
import ObsPlatform.Ingestion.Lifecycle
import ObsPlatform.Evaluation.Persistence
import ObsPlatform.Evaluation.Service
import ObsPlatform.Evaluation.Recorded
import ObsPlatform.Evaluation.Verdict
import ObsPlatform.Platform.Reachable
import ObsPlatform.Platform.Usage
import ObsPlatform.Platform.Lifecycle
import ObsPlatform.Platform.Ownership
import ObsPlatform.Routes.Runs
import ObsPlatform.Evaluation.Categories
import ObsPlatform.Routes.Analytics
import ObsPlatform.Platform.ReadBack
import ObsPlatform.Platform.RoundTrip
import ObsPlatform.Regressions.Runner
import ObsPlatform.Regressions.Accounting
import ObsPlatform.Regressions.Status
import ObsPlatform.Regressions.Gate
import ObsPlatform.Regressions.Resumed
import ObsPlatform.Platform.Evaluable
import ObsPlatform.Platform.Footprint
import ObsPlatform.Platform.Records
import ObsPlatform.Regressions.Healthy
import ObsPlatform.Platform.FailureCounts
import ObsPlatform.Platform.Repeatable
import ObsPlatform.Lib.Thread
import ObsPlatform.Platform.ConcurrentReads
import ObsPlatform.Lib.Pool
import ObsPlatform.Platform.ConcurrentEvaluations
import ObsPlatform.Lib.Relational
import ObsPlatform.Ingestion.Relabelled
import ObsPlatform.Platform.Enforced
import ObsPlatform.Regressions.SideBySide
import ObsPlatform.Regressions.Indifference
import ObsPlatform.Evaluation.Trajectory
import ObsPlatform.Evaluation.OrderIndependence
import ObsPlatform.Evaluation.Coherence
import ObsPlatform.Evaluation.Classification
import ObsPlatform.Platform.PolicyChecks
import ObsPlatform.Lib.Join
import ObsPlatform.Platform.Analytics
import ObsPlatform.Lib.Regroup
import ObsPlatform.Regressions.Aggregation
import ObsPlatform.Regressions.Slices
import ObsPlatform.Regressions.AcrossRegressions
import ObsPlatform.Platform.CountedOnce
import ObsPlatform.Lib.Turns
import ObsPlatform.Lib.UniqueClaim
import ObsPlatform.Routes.Regressions
import ObsPlatform.Platform.BaselineConflicts
import ObsPlatform.Lib.Retry
import ObsPlatform.Evaluation.Retries
import ObsPlatform.Evaluation.Anthropic
import ObsPlatform.Telemetry.Contract
import ObsPlatform.Lib.Pages
import ObsPlatform.Routes.RunList
import ObsPlatform.Platform.RunPages
import ObsPlatform.Platform.DrillDown
import ObsPlatform.Lib.Delimited
import ObsPlatform.Regressions.SlotIds
import ObsPlatform.Regressions.Alternating
import ObsPlatform.Lib.RelyGuarantee
import ObsPlatform.Regressions.RunnerThread
import ObsPlatform.Platform.Growth
import ObsPlatform.Regressions.Course
import ObsPlatform.Regressions.Linked
import ObsPlatform.Regressions.Report
import ObsPlatform.Routes.Requests
import ObsPlatform.Platform.ServerSteps
import ObsPlatform.Platform.Server
import ObsPlatform.Platform.ServerRuns
import ObsPlatform.Platform.ServerHistory
import ObsPlatform.Platform.Isolation
import ObsPlatform.Lib.Differences
import ObsPlatform.Routes.RegressionDetail
import ObsPlatform.Platform.RegressionReads
import ObsPlatform.Platform.EventVerdict
import ObsPlatform.Regressions.Measured
import ObsPlatform.Platform.AnalyticsReads
import ObsPlatform.Lib.Interval
import ObsPlatform.Platform.AnalyticsWindows
