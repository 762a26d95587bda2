import LangServer.Address
import LangServer.Completion
import LangServer.Diagnostic
import LangServer.Document
import LangServer.Hover
import LangServer.Json.Printer
import LangServer.Json.Reader
import LangServer.Json.Value
import LangServer.Launch.Arguments
import LangServer.Launch.Conversation
import LangServer.Launch.Frame
import LangServer.Launch.Help
import LangServer.Launch.Start
import LangServer.Loader
import LangServer.Log
import LangServer.Main
import LangServer.Proofs.AddressGrammar
import LangServer.Proofs.Agreement
import LangServer.Proofs.Boundaries
import LangServer.Proofs.Columns
import LangServer.Proofs.Components
import LangServer.Proofs.Concatenation
import LangServer.Proofs.CountedReports
import LangServer.Proofs.Cursor
import LangServer.Proofs.Directories
import LangServer.Proofs.DistinctKeys
import LangServer.Proofs.Erasure
import LangServer.Proofs.Except
import LangServer.Proofs.Histories
import LangServer.Proofs.Hosts
import LangServer.Proofs.Hovering
import LangServer.Proofs.Invocations
import LangServer.Proofs.Isolation
import LangServer.Proofs.LastGiven
import LangServer.Proofs.Layers
import LangServer.Proofs.LetterCase
import LangServer.Proofs.LineByLine
import LangServer.Proofs.LineViews
import LangServer.Proofs.Locality
import LangServer.Proofs.Merging
import LangServer.Proofs.Mirror
import LangServer.Proofs.Misspellings
import LangServer.Proofs.NameViews
import LangServer.Proofs.Outline
import LangServer.Proofs.Places
import LangServer.Proofs.PositionOrder
import LangServer.Proofs.Positions
import LangServer.Proofs.Publications
import LangServer.Proofs.Repairs
import LangServer.Proofs.RoundTrip
import LangServer.Proofs.Runs
import LangServer.Proofs.Search
import LangServer.Proofs.SettingsFiles
import LangServer.Proofs.SettingsGrammar
import LangServer.Proofs.Spelling
import LangServer.Proofs.StartUp
import LangServer.Proofs.Switches
import LangServer.Proofs.Transcripts
import LangServer.Proofs.Validity
import LangServer.Proofs.Verdicts
import LangServer.Proofs.Words
import LangServer.Session.Capabilities
import LangServer.Session.Lifecycle
import LangServer.Session.Method
import LangServer.Session.Parts
import LangServer.Session.Server
import LangServer.Session.Shape
import LangServer.Session.Store
import LangServer.Session.Wire
import LangServer.Settings.Basic
import LangServer.Settings.Error
import LangServer.Settings.Policy
import LangServer.Settings.Printer
import LangServer.Settings.Schema
import LangServer.Storage.Disk
import LangServer.Storage.Path
import LangServer.Symbols
import LangServer.Text.Blank
import LangServer.Text.CaseTables
import LangServer.Text.CodeTable
import LangServer.Text.Lines
import LangServer.Text.Lossy
import LangServer.Text.LowerCase
import LangServer.Text.Numeral
import LangServer.Text.Split
import LangServer.Text.Units
import LangServer.Text.Words
import LangServer.Toml.Datetime
import LangServer.Toml.Number
import LangServer.Toml.Quoted
import LangServer.Toml.Reader
import LangServer.Toml.Tree
import LangServer.Toml.Value
import LangServer.Uri.DomainName
import LangServer.Uri.Host
import LangServer.Uri.Name.ClassTables
import LangServer.Uri.Name.Composition
import LangServer.Uri.Name.CompositionTable
import LangServer.Uri.Name.Direction
import LangServer.Uri.Name.Joining
import LangServer.Uri.Name.Mapping
import LangServer.Uri.Name.MappingTable
import LangServer.Uri.Percent
import LangServer.Uri.Punycode
import LangServer.Uri.Reader
import LangServer.Wire
