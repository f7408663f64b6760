import ApkAudit.Archive.Record
import ApkAudit.Archive.Zip
import ApkAudit.Audit.Catalogue
import ApkAudit.Audit.Context
import ApkAudit.Audit.Detector
import ApkAudit.Audit.Moment
import ApkAudit.Audit.Occasion
import ApkAudit.Audit.Scan
import ApkAudit.Code.Index
import ApkAudit.Code.Method
import ApkAudit.Detectors.All
import ApkAudit.Detectors.ApplicationFlags
import ApkAudit.Detectors.Broadcast
import ApkAudit.Detectors.PackageQueries
import ApkAudit.Digest.Block
import ApkAudit.Digest.Fingerprint
import ApkAudit.Digest.Md5
import ApkAudit.Digest.Sha1
import ApkAudit.Digest.Sha256
import ApkAudit.Digest.Sha512
import ApkAudit.Disk.Basic
import ApkAudit.Disk.Change
import ApkAudit.Disk.Digest
import ApkAudit.Disk.Path
import ApkAudit.Disk.Tree
import ApkAudit.Exclusions
import ApkAudit.Failure
import ApkAudit.Json.Number
import ApkAudit.Json.Printer
import ApkAudit.Json.Reader
import ApkAudit.Json.Value
import ApkAudit.Log
import ApkAudit.Machine
import ApkAudit.Main
import ApkAudit.Manifest.Element
import ApkAudit.Number.Arithmetic
import ApkAudit.Number.Binary64
import ApkAudit.Number.Numeral
import ApkAudit.Package.Basic
import ApkAudit.Package.BuildValues
import ApkAudit.Package.CodeUnits
import ApkAudit.Package.Decoded
import ApkAudit.Package.Loader
import ApkAudit.Pattern.Basic
import ApkAudit.Pattern.Bracket
import ApkAudit.Pattern.CharSet
import ApkAudit.Pattern.Cursor
import ApkAudit.Pattern.Error
import ApkAudit.Pattern.Escape
import ApkAudit.Pattern.Expression
import ApkAudit.Pattern.Property
import ApkAudit.Pattern.Reader
import ApkAudit.Program.Arguments
import ApkAudit.Program.Basic
import ApkAudit.Program.LogFilter
import ApkAudit.Program.Settings
import ApkAudit.Program.Usage
import ApkAudit.Report.Basic
import ApkAudit.Report.File
import ApkAudit.Report.Finding
import ApkAudit.Report.Level
import ApkAudit.Report.Metadata
import ApkAudit.Report.Writer
import ApkAudit.Smali.Descriptor
import ApkAudit.Smali.Literal
import ApkAudit.Smali.Source
import ApkAudit.Smali.Statement
import ApkAudit.Text.Blank
import ApkAudit.Text.Case
import ApkAudit.Text.Category
import ApkAudit.Text.CodePoint
import ApkAudit.Text.Digit
import ApkAudit.Text.Lines
import ApkAudit.Text.Script
import ApkAudit.Text.Utf8
import ApkAudit.Text.Word
import ApkAudit.Toml.Document
import ApkAudit.Toml.Token
import ApkAudit.Toml.Value
import ApkAudit.Xml.Character
import ApkAudit.Xml.Document
import ApkAudit.Xml.Encoding
import ApkAudit.Xml.Error
import ApkAudit.Xml.Event
import ApkAudit.Xml.Name
import ApkAudit.Xml.Reader
import ApkAudit.Xml.Token
import ApkAudit.Yaml.Node
import ApkAudit.Yaml.Scanner
import ApkAudit.Yaml.Token
import ApkAudit.Yaml.Value
import ApkAudit.Proofs.Package.Confinement
import ApkAudit.Proofs.Audit.ScanOutcome
import ApkAudit.Proofs.Smali.RoundTrip
import ApkAudit.Proofs.Audit.Composition
import ApkAudit.Proofs.Detectors.Thinning
import ApkAudit.Proofs.Detectors.TagSelection
import ApkAudit.Proofs.Manifest.Placement
import ApkAudit.Proofs.Detectors.Listening
import ApkAudit.Proofs.Disk.Below
import ApkAudit.Proofs.Disk.Subfolder
import ApkAudit.Proofs.Package.DecodedFolder
import ApkAudit.Proofs.Package.DecodingCache
import ApkAudit.Proofs.Report.WriteLog
import ApkAudit.Proofs.Audit.OwnMetadata
import ApkAudit.Proofs.Json.Unambiguous
import ApkAudit.Proofs.Detectors.Isolation
import ApkAudit.Proofs.Report.Lossless
import ApkAudit.Proofs.Code.Repetition
import ApkAudit.Proofs.Smali.SourceLog
import ApkAudit.Proofs.Disk.Enumeration
import ApkAudit.Proofs.Package.SourceOrder
import ApkAudit.Proofs.Audit.CatalogueOrder
import ApkAudit.Proofs.Disk.Creation
import ApkAudit.Proofs.Program.ExitCode
import ApkAudit.Proofs.Smali.CodeUnits
import ApkAudit.Proofs.Detectors.Distinct
import ApkAudit.Proofs.Detectors.Registration
import ApkAudit.Proofs.Report.Grouping
import ApkAudit.Proofs.Audit.PlatformLevel
import ApkAudit.Proofs.Detectors.Visibility
import ApkAudit.Proofs.Exclusions.Segments
import ApkAudit.Proofs.Exclusions.Forms
import ApkAudit.Proofs.Smali.Grounding
import ApkAudit.Proofs.Smali.Invocation
import ApkAudit.Proofs.Manifest.Flattening
import ApkAudit.Proofs.Audit.Validation
import ApkAudit.Proofs.Audit.FailureReport
import ApkAudit.Proofs.Audit.DeclaredNumbers
import ApkAudit.Proofs.Manifest.DocumentOrder
import ApkAudit.Proofs.Smali.Descriptor
import ApkAudit.Proofs.Smali.Mentions
