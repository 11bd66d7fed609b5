import ArtifactGroups.Text.Utf8
import ArtifactGroups.Text.Order
import ArtifactGroups.Text.Search
import ArtifactGroups.Text.Blank
import ArtifactGroups.Text.Lowercase
import ArtifactGroups.Text.Quoted
import ArtifactGroups.Error
import ArtifactGroups.Sink
import ArtifactGroups.Buffer
import ArtifactGroups.Log
import ArtifactGroups.Document
import ArtifactGroups.Coordinate
import ArtifactGroups.Allowlist
import ArtifactGroups.Source
import ArtifactGroups.Scan
import ArtifactGroups.Alias.Acceptance
import ArtifactGroups.Alias.Table
import ArtifactGroups.Alias.Json
import ArtifactGroups.Alias.Input
import ArtifactGroups.Alias.Ledger
import ArtifactGroups.Index.Schema
import ArtifactGroups.Index.Draft
import ArtifactGroups.Index.Layout
import ArtifactGroups.Index.Snapshot
import ArtifactGroups.Volume
import ArtifactGroups.Index.Library
import ArtifactGroups.Volume.Index
import ArtifactGroups.CommandLine.Help
import ArtifactGroups.CommandLine.Tools
import ArtifactGroups.Program.Dump
import ArtifactGroups.Program.Aliases
import ArtifactGroups.Program.Tool
import ArtifactGroups.Main
import ArtifactGroups.Proofs.Sink
import ArtifactGroups.Proofs.Scan.Listing
import ArtifactGroups.Proofs.Scan.Progress
import ArtifactGroups.Proofs.Coordinate
import ArtifactGroups.Proofs.Extraction
import ArtifactGroups.Proofs.Scan.Outcome
import ArtifactGroups.Proofs.Alias.Input
import ArtifactGroups.Proofs.Alias.Ledger
import ArtifactGroups.Proofs.Scan.Records
import ArtifactGroups.Proofs.Alias.FromScan
import ArtifactGroups.Proofs.Scan.Aside
import ArtifactGroups.Proofs.Scan.Diagnostics
import ArtifactGroups.Proofs.Alias.Bookkeeping
import ArtifactGroups.Proofs.Alias.FirstOffer
import ArtifactGroups.Proofs.Alias.Json.RoundTrip
import ArtifactGroups.Proofs.Index.Batches
import ArtifactGroups.Proofs.Index.Fields
import ArtifactGroups.Proofs.Index.Library
import ArtifactGroups.Proofs.Index.Layout
import ArtifactGroups.Proofs.Index.Schema
import ArtifactGroups.Proofs.Volume
import ArtifactGroups.Proofs.Index.Snapshot
import ArtifactGroups.Proofs.Index.ReadBack
import ArtifactGroups.Proofs.Index.Scan
import ArtifactGroups.Proofs.Program.AllOrNothing
import ArtifactGroups.Proofs.Scan.Earlier
import ArtifactGroups.Proofs.Program.Staging
import ArtifactGroups.Proofs.Scan.Layout
import ArtifactGroups.Proofs.Alias.Reading
import ArtifactGroups.Proofs.Alias.Reorder
import ArtifactGroups.Proofs.Buffer
import ArtifactGroups.Proofs.Program.Exit
import ArtifactGroups.Proofs.Allowlist
import ArtifactGroups.Proofs.Scan.Rules
import ArtifactGroups.Proofs.Scan.Commute
import ArtifactGroups.Proofs.Scan.Quiet
import ArtifactGroups.Proofs.Alias.Edits
import ArtifactGroups.Proofs.Index.Addresses
import ArtifactGroups.Proofs.Alias.Json.Shape
import ArtifactGroups.Proofs.Alias.Complete
import ArtifactGroups.Proofs.Alias.Acceptance
import ArtifactGroups.Proofs.Index.Declarations
import ArtifactGroups.Proofs.CommandLine.Number
import ArtifactGroups.Proofs.CommandLine.Settling
import ArtifactGroups.Proofs.Index.Commits
import ArtifactGroups.Proofs.CommandLine.Spelling
import ArtifactGroups.Proofs.CommandLine.Requests
