import DnsReconcile.Address.IPv4
import DnsReconcile.Address.IPv4.Numbers
import DnsReconcile.Address.IPv6
import DnsReconcile.Changeset.Basic
import DnsReconcile.Changeset.Comparison
import DnsReconcile.Cloudflare.Basic
import DnsReconcile.Cloudflare.Client
import DnsReconcile.Cloudflare.Desired
import DnsReconcile.Cloudflare.Entry
import DnsReconcile.Cloudflare.EntryRecord
import DnsReconcile.Cloudflare.Envelope
import DnsReconcile.Cloudflare.Provider
import DnsReconcile.Cloudflare.Rule
import DnsReconcile.CommandLine.Environment
import DnsReconcile.CommandLine.Report
import DnsReconcile.CommandLine.Run
import DnsReconcile.Correction
import DnsReconcile.Demonstration
import DnsReconcile.Dict
import DnsReconcile.DomainName
import DnsReconcile.DomainName.Direction
import DnsReconcile.DomainName.Joining
import DnsReconcile.DomainName.Mapping
import DnsReconcile.DomainName.MappingTable
import DnsReconcile.Engine.Apply
import DnsReconcile.Engine.Event
import DnsReconcile.Engine.Plan
import DnsReconcile.Engine.Reconcile
import DnsReconcile.Engine.Runtime
import DnsReconcile.Error
import DnsReconcile.Http.Authority
import DnsReconcile.Http.Basic
import DnsReconcile.Http.Endpoint
import DnsReconcile.Http.Host
import DnsReconcile.Http.Path
import DnsReconcile.Http.Percent
import DnsReconcile.Http.Query
import DnsReconcile.Http.ReplyTable
import DnsReconcile.Http.Scheme
import DnsReconcile.Http.Status
import DnsReconcile.Http.Url
import DnsReconcile.Json.Basic
import DnsReconcile.Json.Parser
import DnsReconcile.Json.Printer
import DnsReconcile.Json.Reader
import DnsReconcile.Json.Source
import DnsReconcile.Main
import DnsReconcile.Pattern.Basic
import DnsReconcile.Pattern.Braces
import DnsReconcile.Pattern.Glob
import DnsReconcile.Program
import DnsReconcile.Proofs.Address.WrittenForms
import DnsReconcile.Proofs.Changeset.Accounting
import DnsReconcile.Proofs.Changeset.CarryingOut
import DnsReconcile.Proofs.Changeset.Emptiness
import DnsReconcile.Proofs.Changeset.Entries
import DnsReconcile.Proofs.Changeset.Fate
import DnsReconcile.Proofs.Changeset.InputOrder
import DnsReconcile.Proofs.Changeset.Interruption
import DnsReconcile.Proofs.Changeset.Matching
import DnsReconcile.Proofs.Changeset.Minimality
import DnsReconcile.Proofs.Changeset.PayloadIdentity
import DnsReconcile.Proofs.Changeset.Resumption
import DnsReconcile.Proofs.Cloudflare.AdaptedRecords
import DnsReconcile.Proofs.Cloudflare.ApexLabels
import DnsReconcile.Proofs.Cloudflare.ApexNameServers
import DnsReconcile.Proofs.Cloudflare.AuthoredRules
import DnsReconcile.Proofs.Cloudflare.DesiredZones
import DnsReconcile.Proofs.Cloudflare.DryRuns
import DnsReconcile.Proofs.Cloudflare.EncodedWrites
import DnsReconcile.Proofs.Cloudflare.EndlessListings
import DnsReconcile.Proofs.Cloudflare.EntryRecords
import DnsReconcile.Proofs.Cloudflare.EntryText
import DnsReconcile.Proofs.Cloudflare.Forwardings
import DnsReconcile.Proofs.Cloudflare.IgnoredTargets
import DnsReconcile.Proofs.Cloudflare.ListedPages
import DnsReconcile.Proofs.Cloudflare.Listings
import DnsReconcile.Proofs.Cloudflare.ObservedLabels
import DnsReconcile.Proofs.Cloudflare.ReadingTasks
import DnsReconcile.Proofs.Cloudflare.RedirectRules
import DnsReconcile.Proofs.Cloudflare.RememberedZones
import DnsReconcile.Proofs.Cloudflare.RuleText
import DnsReconcile.Proofs.Cloudflare.UpdatedRecords
import DnsReconcile.Proofs.Cloudflare.WrittenRecords
import DnsReconcile.Proofs.Correction.Phases
import DnsReconcile.Proofs.Engine.AppliedPlans
import DnsReconcile.Proofs.Engine.HeardEvents
import DnsReconcile.Proofs.Engine.IndependentZones
import DnsReconcile.Proofs.Engine.Interleaving
import DnsReconcile.Proofs.Engine.Outcomes
import DnsReconcile.Proofs.Engine.PlanTranscripts
import DnsReconcile.Proofs.Engine.PlannedCorrections
import DnsReconcile.Proofs.Engine.ProtectedRecords
import DnsReconcile.Proofs.Engine.PushedRecords
import DnsReconcile.Proofs.Engine.PushedWrites
import DnsReconcile.Proofs.Engine.PushedZones
import DnsReconcile.Proofs.Engine.Replanning
import DnsReconcile.Proofs.Engine.ReturnedRecords
import DnsReconcile.Proofs.Engine.Runs
import DnsReconcile.Proofs.Engine.StorePlans
import DnsReconcile.Proofs.Engine.StoreRuns
import DnsReconcile.Proofs.Engine.Transcripts
import DnsReconcile.Proofs.Engine.ValidationFailures
import DnsReconcile.Proofs.Engine.ZoneTasks
import DnsReconcile.Proofs.Engine.ZonesAtRest
import DnsReconcile.Proofs.Json.Members
import DnsReconcile.Proofs.Json.PrintedScalars
import DnsReconcile.Proofs.Json.PrintedText
import DnsReconcile.Proofs.Pattern.Classes
import DnsReconcile.Proofs.Pattern.Expansion
import DnsReconcile.Proofs.Pattern.Gaps
import DnsReconcile.Proofs.Pattern.Groups
import DnsReconcile.Proofs.Pattern.Language
import DnsReconcile.Proofs.Pattern.Literals
import DnsReconcile.Proofs.Pattern.Nesting
import DnsReconcile.Proofs.Pattern.Pieces
import DnsReconcile.Proofs.Pattern.Readings
import DnsReconcile.Proofs.Provider.StoreChangesets
import DnsReconcile.Proofs.Provider.StoreHistory
import DnsReconcile.Proofs.Provider.StoreWrites
import DnsReconcile.Proofs.Provider.StoredIdentity
import DnsReconcile.Proofs.Provider.ZoneLikeness
import DnsReconcile.Proofs.Record.KeyOrder
import DnsReconcile.Proofs.Record.PresentationForms
import DnsReconcile.Proofs.Record.PrintedPayloads
import DnsReconcile.Proofs.Refusals
import DnsReconcile.Proofs.Sorting
import DnsReconcile.Proofs.Text.AsciiCase
import DnsReconcile.Proofs.Text.Casing
import DnsReconcile.Proofs.Text.Chunks
import DnsReconcile.Proofs.Text.Digits
import DnsReconcile.Proofs.Text.Quoting
import DnsReconcile.Proofs.Text.Trimming
import DnsReconcile.Proofs.Text.Words
import DnsReconcile.Proofs.Zone.CanonicalForms
import DnsReconcile.Proofs.Zone.CanonicalLists
import DnsReconcile.Proofs.Zone.CanonicalRecords
import DnsReconcile.Proofs.Zone.FullNames
import DnsReconcile.Proofs.Zone.ListedRecords
import DnsReconcile.Proofs.Zone.Ownership
import DnsReconcile.Proofs.Zone.RecordSets
import DnsReconcile.Proofs.Zone.Spellings
import DnsReconcile.Proofs.Pattern.Unions
import DnsReconcile.Provider.Basic
import DnsReconcile.Provider.Instance
import DnsReconcile.Provider.Memory
import DnsReconcile.Provider.Registry
import DnsReconcile.Provider.Rehearsal
import DnsReconcile.Record.Authored
import DnsReconcile.Record.Basic
import DnsReconcile.Record.Key
import DnsReconcile.Record.Payload
import DnsReconcile.Record.Type
import DnsReconcile.Record.TypeName
import DnsReconcile.Settings.Basic
import DnsReconcile.Settings.Provider
import DnsReconcile.Sort
import DnsReconcile.Text.Base64
import DnsReconcile.Text.Blank
import DnsReconcile.Text.Case
import DnsReconcile.Text.CaseTable
import DnsReconcile.Text.Composition
import DnsReconcile.Text.CompositionTable
import DnsReconcile.Text.Escaped
import DnsReconcile.Text.Mark
import DnsReconcile.Text.Numeral
import DnsReconcile.Text.Octets
import DnsReconcile.Text.Punycode
import DnsReconcile.Text.Quoted
import DnsReconcile.Text.Utf8
import DnsReconcile.Zone.Basic
import DnsReconcile.Zone.Origin
import DnsReconcile.Zone.Policy
import DnsReconcile.Zone.RecordSet
