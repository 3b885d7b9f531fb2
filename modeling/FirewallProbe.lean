import FirewallProbe.Config.Json
import FirewallProbe.Main
import FirewallProbe.Proofs.Answers
import FirewallProbe.Proofs.Binary64.Nearest
import FirewallProbe.Proofs.Binary64.Shortest
import FirewallProbe.Proofs.Blank
import FirewallProbe.Proofs.Collected
import FirewallProbe.Proofs.Config.Rules
import FirewallProbe.Proofs.Config.TargetLookup
import FirewallProbe.Proofs.Config.TargetOrder
import FirewallProbe.Proofs.Config.TargetSpelling
import FirewallProbe.Proofs.Config.Validation
import FirewallProbe.Proofs.Correlation
import FirewallProbe.Proofs.Dialogue
import FirewallProbe.Proofs.Dict
import FirewallProbe.Proofs.Emission.Basic
import FirewallProbe.Proofs.Emission.Consistency
import FirewallProbe.Proofs.Emission.Keyed
import FirewallProbe.Proofs.Emission.Resources
import FirewallProbe.Proofs.Except
import FirewallProbe.Proofs.Exposition.Completeness
import FirewallProbe.Proofs.Exposition.Numeral
import FirewallProbe.Proofs.Exposition.RoundTrip
import FirewallProbe.Proofs.Exposition.States
import FirewallProbe.Proofs.Exposition.ValueText
import FirewallProbe.Proofs.FanOut
import FirewallProbe.Proofs.Firmware.Order
import FirewallProbe.Proofs.Firmware.Reading
import FirewallProbe.Proofs.FirstOfEach
import FirewallProbe.Proofs.Grouping
import FirewallProbe.Proofs.Indifferent
import FirewallProbe.Proofs.Json.WellFormed
import FirewallProbe.Proofs.Probe.Accounting
import FirewallProbe.Proofs.Probe.Deadlines
import FirewallProbe.Proofs.Requests
import FirewallProbe.Proofs.Schema.Contents
import FirewallProbe.Proofs.Schema.Deferral
import FirewallProbe.Proofs.Schema.Extension
import FirewallProbe.Proofs.Schema.Fields
import FirewallProbe.Proofs.Schema.Partition
import FirewallProbe.Proofs.Schema.Refinement
import FirewallProbe.Proofs.Schema.Shape
import FirewallProbe.Proofs.Scrape.CallTrace
import FirewallProbe.Proofs.Scrape.Composition
import FirewallProbe.Proofs.Scrape.LinkMeasurements
import FirewallProbe.Proofs.Scrape.Locality
import FirewallProbe.Proofs.Scrape.MixedResults
import FirewallProbe.Proofs.Scrape.NeighborStates
import FirewallProbe.Proofs.Scrape.Outcomes
import FirewallProbe.Proofs.Scrape.PathCounts
import FirewallProbe.Proofs.Scrape.PolicyJoin
import FirewallProbe.Proofs.Scrape.PolicyTables
import FirewallProbe.Proofs.Scrape.Series
import FirewallProbe.Proofs.Scrape.Snapshot
import FirewallProbe.Proofs.Scrape.SslUsers
import FirewallProbe.Proofs.Scrape.StableSeries
import FirewallProbe.Proofs.Scrape.SwitchPorts
import FirewallProbe.Proofs.Scrape.Turns
import FirewallProbe.Proofs.Scrape.UnidentifiedPolicies
import FirewallProbe.Proofs.Scrape.UnknownFields
import FirewallProbe.Proofs.Server.ProbeAnswers
import FirewallProbe.Proofs.TextOrder
import FirewallProbe.Proofs.Yields
import FirewallProbe.Replay
