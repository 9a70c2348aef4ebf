import Fleet.Main
import Fleet.Proofs.Breaker
import Fleet.Proofs.Controller.Rounds
import Fleet.Proofs.Retry
import Fleet.Rehearsal.Attempts
import Fleet.Rehearsal.LocalRun
import Fleet.Rehearsal.Scenario
import Fleet.Surface.Service
import Fleet.Proofs.Controller.Transition
import Fleet.Proofs.Controller.Identity
import Fleet.Proofs.Controller.Custody
import Fleet.Proofs.Controller.Commitment
import Fleet.Proofs.Controller.ScaleDown
import Fleet.Proofs.Controller.Failover
import Fleet.Proofs.Controller.Endings
import Fleet.Proofs.Controller.Redelivery
import Fleet.Proofs.Controller.Publication
import Fleet.Proofs.Breaker.Traffic
import Fleet.Proofs.Breaker.Counting
import Fleet.Proofs.Breaker.Admission
import Fleet.Proofs.Breaker.LateResults
import Fleet.Proofs.Controller.Guards
import Fleet.Proofs.Controller.Denials
import Fleet.Proofs.Controller.Losses
import Fleet.Proofs.Cluster.Local
import Fleet.Proofs.Controller.Foreground
import Fleet.Proofs.Controller.Driving
import Fleet.Proofs.Controller.Hosting
import Fleet.Proofs.Controller.Seniority
import Fleet.Proofs.Controller.Stops
import Fleet.Proofs.Scaling
import Fleet.Proofs.Controller.ScalingEvents
import Fleet.Proofs.Telemetry.Reports
import Fleet.Proofs.Controller.Samples
import Fleet.Proofs.Controller.Registry
import Fleet.Proofs.Controller.Records
import Fleet.Proofs.Controller.ProbeOrder
import Fleet.Proofs.Cluster.Capacity
import Fleet.Proofs.Cluster.Reports
import Fleet.Proofs.Telemetry.Totals
import Fleet.Proofs.Telemetry.Labels
import Fleet.Proofs.Telemetry.RoundTrip
import Fleet.Proofs.Telemetry.Series
import Fleet.Proofs.Launch
import Fleet.Proofs.Settings
import Fleet.Proofs.Surface.Admission
import Fleet.Proofs.Rehearsal.Attempts
import Fleet.Proofs.Telemetry.Overflow
import Fleet.Proofs.Telemetry.LatencySamples
import Fleet.Proofs.Binary64
import Fleet.Proofs.Recent
import Fleet.Proofs.Telemetry.Percentiles
import Fleet.Proofs.Breaker.Independence
import Fleet.Proofs.Retry.Outcomes
import Fleet.Proofs.Controller.GuardedCalls
import Fleet.Proofs.Controller.Expiry
import Fleet.Proofs.Controller.Phases
import Fleet.Proofs.Launch.Processes
import Fleet.Proofs.Launch.Construction
import Fleet.Proofs.Catalog
import Fleet.Proofs.Duration
import Fleet.Proofs.Config.Validation
import Fleet.Proofs.Telemetry.Exposition
import Fleet.Proofs.Telemetry.Load
import Fleet.Proofs.Percent
import Fleet.Proofs.Surface.Tokens
import Fleet.Proofs.Access
import Fleet.Proofs.Binary64.Unsigned
import Fleet.Proofs.Duration.Seconds
import Fleet.Proofs.Retry.Delays
