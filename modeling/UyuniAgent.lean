import UyuniAgent.Support.Run
import UyuniAgent.Support.OrderedDict
import UyuniAgent.Support.Decimal
import UyuniAgent.Resilience.Circuit
import UyuniAgent.Resilience.Recovery
import UyuniAgent.Detector.Anomaly
import UyuniAgent.Alert.Payload
import UyuniAgent.Incident.Store
import UyuniAgent.Incident.Reconcile
import UyuniAgent.Incident.History
import UyuniAgent.Support.Heapq
import UyuniAgent.Queue.InvestigationQueue
import UyuniAgent.Queue.Consistency
import UyuniAgent.Agent.System
import UyuniAgent.Incident.Generation
import UyuniAgent.Agent.Coherence
import UyuniAgent.Agent.Addressing
import UyuniAgent.Agent.Orphans
import UyuniAgent.Agent.Suppression
import UyuniAgent.Agent.Acknowledgement
import UyuniAgent.Detector.Correlation
import UyuniAgent.Agent.PollCycle
import UyuniAgent.Agent.HeldCandidates
import UyuniAgent.Investigation.Evidence
import UyuniAgent.Investigation.Firing
import UyuniAgent.Support.PyText
import UyuniAgent.Support.PyValue
import UyuniAgent.Detector.PostgresInspection
import UyuniAgent.Detector.Prometheus
import UyuniAgent.Detector.Checks
import UyuniAgent.Salt.Client
import UyuniAgent.Agent.Detection
import UyuniAgent.Investigation.Collectors
import UyuniAgent.Resilience.Probes
import UyuniAgent.Investigation.HiddenFailures
import UyuniAgent.Investigation.Grounding
import UyuniAgent.Detector.Recognition
import UyuniAgent.Queue.Exclusivity
import UyuniAgent.Investigation.Preparation
import UyuniAgent.Salt.Dispatch
import UyuniAgent.Investigation.Isolation
import UyuniAgent.Agent.LostTelemetry
import UyuniAgent.Agent.Exclusion
import UyuniAgent.Detector.Locality
import UyuniAgent.Agent.Notifications
import UyuniAgent.Resilience.BreakerHistory
import UyuniAgent.Incident.Freshness
import UyuniAgent.Incident.Ownership
import UyuniAgent.Support.StableSort
import UyuniAgent.Queue.PriorityList
import UyuniAgent.Queue.Ledger
import UyuniAgent.Support.Condition
import UyuniAgent.Queue.WakeUp
import UyuniAgent.Detector.Conservation
import UyuniAgent.Agent.Readiness
import UyuniAgent.Support.Url
import UyuniAgent.Inventory.HostName
import UyuniAgent.Inventory.Targets
import UyuniAgent.Inventory.Attribution
import UyuniAgent.Support.Shell
import UyuniAgent.Support.ShellTemplate
import UyuniAgent.Salt.Commands
import UyuniAgent.Salt.CommandWords
import UyuniAgent.Detector.GracePeriod
import UyuniAgent.Detector.AlertLevel
import UyuniAgent.Detector.BlindSpots
import UyuniAgent.Detector.LockGroups
import UyuniAgent.Investigation.Degradation
import UyuniAgent.Support.PyFloat
import UyuniAgent.Detector.PrometheusResponse
import UyuniAgent.Detector.SampleFreshness
import UyuniAgent.Detector.PostgresParsers
import UyuniAgent.Agent.DistinctFindings
import UyuniAgent.Support.RegexGroups
import UyuniAgent.Investigation.DeterministicAnalysis
import UyuniAgent.Investigation.Citations
import UyuniAgent.Investigation.SelfConsistency
import UyuniAgent.Resilience.Backoff
import UyuniAgent.Salt.Session
import UyuniAgent.Agent.Admission
import UyuniAgent.Investigation.LockEvidence
import UyuniAgent.Investigation.ListenerEvidence
import UyuniAgent.Investigation.FileEvidence
import UyuniAgent.Inventory.ListingOrder
import UyuniAgent.Agent.Waiting
import UyuniAgent.Support.JsonText
import UyuniAgent.Incident.Storage
import UyuniAgent.Agent.FoundedIncidents
import UyuniAgent.Agent.Restarts
import UyuniAgent.Agent.Provenance
import UyuniAgent.Inventory.Discovery
import UyuniAgent.Agent.TrustedTargets
import UyuniAgent.Support.RegexContext
import UyuniAgent.Investigation.Grounded
import UyuniAgent.Agent.GroundedAlerts
import UyuniAgent.Agent.Delivery
import UyuniAgent.Agent.AnnouncedRecovery
import UyuniAgent.Agent.AnnouncedDetection
import UyuniAgent.Support.ShellCommands
import UyuniAgent.Salt.FixedCommands
import UyuniAgent.Salt.Tools
