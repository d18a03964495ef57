import StartupReport.Banner.Facts
import StartupReport.Banner.Report
import StartupReport.Banner.Sensitive
import StartupReport.Build.Git
import StartupReport.Build.Holder
import StartupReport.Build.Metadata
import StartupReport.Build.Resource
import StartupReport.Build.Sharing
import StartupReport.Build.VersionFile
import StartupReport.Calendar.Date
import StartupReport.Calendar.Moment
import StartupReport.Calendar.Timestamp
import StartupReport.Calendar.Zone
import StartupReport.CommandLine.Run
import StartupReport.Configuration.Defaults
import StartupReport.Configuration.Discover
import StartupReport.Configuration.Merge
import StartupReport.Console
import StartupReport.Entries
import StartupReport.Event
import StartupReport.Fault
import StartupReport.Files
import StartupReport.Host
import StartupReport.Log.Level
import StartupReport.Log.Number
import StartupReport.Log.Pattern
import StartupReport.Log.Setup
import StartupReport.Main
import StartupReport.Memory
import StartupReport.Probe.Capability
import StartupReport.Probe.Identity
import StartupReport.Probe.Interpreter
import StartupReport.Probe.Limit
import StartupReport.Proofs.Banner.Gathering
import StartupReport.Proofs.Banner.Layout
import StartupReport.Proofs.Banner.Redaction
import StartupReport.Proofs.Banner.Writing
import StartupReport.Proofs.BareHost
import StartupReport.Proofs.Build.Collection
import StartupReport.Proofs.Build.Detection
import StartupReport.Proofs.Build.DisplayedTimes
import StartupReport.Proofs.Build.GitCalls
import StartupReport.Proofs.Build.GivenValues
import StartupReport.Proofs.Build.HolderRun
import StartupReport.Proofs.Build.MetadataFields
import StartupReport.Proofs.Build.Resolution
import StartupReport.Proofs.Build.ResourceAccess
import StartupReport.Proofs.Build.SharedHolder
import StartupReport.Proofs.Build.VersionFileReading
import StartupReport.Proofs.Calendar.BerlinChanges
import StartupReport.Proofs.Calendar.DayNumber
import StartupReport.Proofs.Calendar.IsoReading
import StartupReport.Proofs.Calendar.Reading
import StartupReport.Proofs.Calendar.TimestampForm
import StartupReport.Proofs.Calendar.WrittenTimestamp
import StartupReport.Proofs.CommandLine.BlankSection
import StartupReport.Proofs.CommandLine.RecordedVersion
import StartupReport.Proofs.CommandLine.VersionFileWriting
import StartupReport.Proofs.CommandLine.WrittenBuild
import StartupReport.Proofs.Configuration.KeyPaths
import StartupReport.Proofs.Configuration.Merging
import StartupReport.Proofs.Configuration.Sources
import StartupReport.Proofs.Configuration.UserFile
import StartupReport.Proofs.EntryOrder
import StartupReport.Proofs.Log.LevelNames
import StartupReport.Proofs.Memory.Ceiling
import StartupReport.Proofs.Memory.FreeMemory
import StartupReport.Proofs.Probe.Classification
import StartupReport.Proofs.Probe.LimitLookup
import StartupReport.Proofs.Probe.OpenFiles
import StartupReport.Proofs.Probe.SecurityUser
import StartupReport.Proofs.Probe.Sentinels
import StartupReport.Proofs.Probe.StartupOptions
import StartupReport.Proofs.Properties.AppendedLines
import StartupReport.Proofs.Properties.EntryParts
import StartupReport.Proofs.Properties.EscapeLaws
import StartupReport.Proofs.Properties.EscapeTokens
import StartupReport.Proofs.Properties.LineGroups
import StartupReport.Proofs.Properties.PlainReader
import StartupReport.Proofs.Properties.SourceForms
import StartupReport.Proofs.Properties.UnitEscapes
import StartupReport.Proofs.Properties.WholeEscapes
import StartupReport.Proofs.Text.HexNumeral
import StartupReport.Proofs.Text.LineCutting
import StartupReport.Proofs.Text.UnitDecoding
import StartupReport.Properties.Entry
import StartupReport.Properties.Escape
import StartupReport.Properties.LogicalLine
import StartupReport.Properties.Reader
import StartupReport.StandIn.CommandWords
import StartupReport.StandIn.Terminal
import StartupReport.StandIn.Yaml.Binary
import StartupReport.StandIn.Yaml.Character
import StartupReport.StandIn.Yaml.Document
import StartupReport.StandIn.Yaml.Kind
import StartupReport.StandIn.Yaml.Lexer
import StartupReport.StandIn.Yaml.Node
import StartupReport.StandIn.Yaml.Numeral
import StartupReport.StandIn.Yaml.Scalar
import StartupReport.StandIn.Yaml.Token
import StartupReport.Text.Blank
import StartupReport.Text.ByteOrder
import StartupReport.Text.CaseTable
import StartupReport.Text.Digit
import StartupReport.Text.Latin1
import StartupReport.Text.Line
import StartupReport.Text.Lowercase
import StartupReport.Text.Occurrence
import StartupReport.Text.Piece
import StartupReport.Text.PrintableTable
import StartupReport.Text.Quoted
import StartupReport.Text.Units
import StartupReport.Text.WordTable
import StartupReport.Traced
import StartupReport.Value
