import CaptureFilter.Expression.Grammar
import CaptureFilter.Main
import CaptureFilter.Http.Response
import CaptureFilter.Settings.Basic
import CaptureFilter.CommandLine.Help
import CaptureFilter.CommandLine.Report
import CaptureFilter.Session
import CaptureFilter.Interface
import CaptureFilter.Expression.Meaning
import CaptureFilter.Criterion.Basic
import CaptureFilter.Protocol.Source
import CaptureFilter.Net.Link
import CaptureFilter.Net.Subnet
import CaptureFilter.Json.Reader
import CaptureFilter.Json.Writer
import CaptureFilter.Text.Percent
import CaptureFilter.Proofs.Grouping
import CaptureFilter.Proofs.Reading
import CaptureFilter.Proofs.TokenFragments
import CaptureFilter.Proofs.AddressText
import CaptureFilter.Proofs.Building
import CaptureFilter.Proofs.FragmentReading
import CaptureFilter.Proofs.Sections
import CaptureFilter.Proofs.Writing
import CaptureFilter.Proofs.ExpressionReading
import CaptureFilter.Proofs.Fidelity
import CaptureFilter.Proofs.Comparisons
import CaptureFilter.Proofs.Sources
import CaptureFilter.Proofs.TagCount
import CaptureFilter.Proofs.Packets
import CaptureFilter.Proofs.Exclusion
import CaptureFilter.Proofs.EarlyStop
import CaptureFilter.Proofs.Refusals
import CaptureFilter.Proofs.Nesting
import CaptureFilter.Proofs.Alternatives
import CaptureFilter.Proofs.Inclusion
import CaptureFilter.Proofs.Deepest
import CaptureFilter.Proofs.Summaries
import CaptureFilter.Proofs.Untagged
import CaptureFilter.Criterion.Attempt
import CaptureFilter.Proofs.Attempts
import CaptureFilter.Proofs.Numerals
import CaptureFilter.Proofs.Unread
import CaptureFilter.Http.Client
import CaptureFilter.Proofs.ViewReading
import CaptureFilter.Proofs.SameOutcome
import CaptureFilter.Proofs.LazyTable
import CaptureFilter.Proofs.Lifetime
import CaptureFilter.Proofs.Trailing
import CaptureFilter.Proofs.Concatenation
import CaptureFilter.Proofs.Denotation
import CaptureFilter.Proofs.Patterns
import CaptureFilter.Proofs.TokenForms
import CaptureFilter.Proofs.AddressReading
import CaptureFilter.Proofs.Networks
import CaptureFilter.Proofs.NetworkForms
import CaptureFilter.Proofs.LastEntry
import CaptureFilter.Proofs.LegalCriteria
import CaptureFilter.Proofs.Loading
import CaptureFilter.Proofs.ProtocolNumbers
import CaptureFilter.Proofs.Encoding
import CaptureFilter.Proofs.FileReading
import CaptureFilter.Proofs.Accumulation
