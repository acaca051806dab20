import PluginPack.Archive.Bunzip
import PluginPack.Archive.Bytes
import PluginPack.Archive.Crc32
import PluginPack.Archive.Directory
import PluginPack.Archive.Fault
import PluginPack.Archive.Inflate
import PluginPack.Archive.Lzma
import PluginPack.Archive.Member
import PluginPack.Archive.Writer
import PluginPack.Artifact.Coordinate
import PluginPack.Artifact.Facade
import PluginPack.Artifact.Filter
import PluginPack.Assembly.Classpath
import PluginPack.Assembly.Layout
import PluginPack.Assembly.Placement
import PluginPack.BuildMap
import PluginPack.Cli.Arguments
import PluginPack.Cli.Run
import PluginPack.Config
import PluginPack.Console.Cells
import PluginPack.Console.Emoji
import PluginPack.Console.Layout
import PluginPack.Console.Literal
import PluginPack.Console.Log
import PluginPack.Console.Markup
import PluginPack.Console.Outline
import PluginPack.Console.Style
import PluginPack.Console.Table
import PluginPack.Data.OrderedMap
import PluginPack.Error
import PluginPack.Files.Path
import PluginPack.Files.Store
import PluginPack.Interchange.Decode
import PluginPack.Interchange.Encode
import PluginPack.Interchange.Goals
import PluginPack.Isolation.Policy
import PluginPack.Isolation.Source
import PluginPack.Journal
import PluginPack.Json.Read
import PluginPack.Json.Value
import PluginPack.Json.Write
import PluginPack.Main
import PluginPack.Manifest.Basic
import PluginPack.Manifest.Header
import PluginPack.Metadata.Dependencies
import PluginPack.Metadata.Extensions
import PluginPack.Metadata.Git
import PluginPack.Metadata.Git.Checks
import PluginPack.Metadata.Git.Config
import PluginPack.Metadata.Git.Packed
import PluginPack.Metadata.Git.Refs
import PluginPack.Metadata.Header
import PluginPack.Metadata.Version
import PluginPack.Project.Coordinates
import PluginPack.Project.Model
import PluginPack.Project.Placeholder
import PluginPack.Project.Pom
import PluginPack.Properties.Basic
import PluginPack.Resolve.Collect
import PluginPack.Resolve.Graph
import PluginPack.Resolve.Repository
import PluginPack.Resolve.Tree
import PluginPack.Session.Basic
import PluginPack.Session.Develop
import PluginPack.Session.Plugins
import PluginPack.Text.Blank
import PluginPack.Text.Case
import PluginPack.Text.CodePoints
import PluginPack.Text.Digit
import PluginPack.Text.Percent
import PluginPack.Text.Quoted
import PluginPack.Text.Utf8
import PluginPack.Text.Word
import PluginPack.Time.Stamp
import PluginPack.Traverse.Policy
import PluginPack.Traverse.Walk
import PluginPack.Version.Basic
import PluginPack.Version.Order
import PluginPack.Version.Parse
import PluginPack.Xml.Charsets
import PluginPack.Xml.Declaration
import PluginPack.Xml.Doctype
import PluginPack.Xml.Dtd
import PluginPack.Xml.Encoding
import PluginPack.Xml.Error
import PluginPack.Xml.Name
import PluginPack.Xml.Node
import PluginPack.Xml.Reader
import PluginPack.Xml.Uri
import PluginPack.Xml.Value
import PluginPack.Proofs.Version.Laws
import PluginPack.Proofs.Version.Normal
import PluginPack.Proofs.Version.Standard
import PluginPack.Proofs.Version.TieBreak
import PluginPack.Proofs.Step
import PluginPack.Proofs.Resolve.Describes
import PluginPack.Proofs.Resolve.Cache
import PluginPack.Proofs.Resolve.Take
import PluginPack.Proofs.Resolve.Termination
import PluginPack.Proofs.Resolve.VersionCycle
import PluginPack.Proofs.Resolve.Levels
import PluginPack.Proofs.Resolve.Collected
import PluginPack.Proofs.Resolve.Managed
import PluginPack.Proofs.Traverse.Walk
import PluginPack.Proofs.Traverse.FixedPoint
import PluginPack.Proofs.Manifest.RoundTrip
import PluginPack.Proofs.Traverse.Modes
import PluginPack.Proofs.Files.Lookup
import PluginPack.Proofs.Resolve.ParentChain
import PluginPack.Proofs.Traverse.Newest
import PluginPack.Proofs.Text.Utf8RoundTrip
import PluginPack.Proofs.Properties.ReadBack
import PluginPack.Proofs.Files.Write
import PluginPack.Proofs.BuildMap.Records
import PluginPack.Proofs.Traverse.Termination
import PluginPack.Proofs.Text.Lowering
import PluginPack.Proofs.Version.Prefix
import PluginPack.Proofs.Assembly.Agreement
import PluginPack.Proofs.Assembly.Naming
import PluginPack.Proofs.Manifest.Wrap
import PluginPack.Proofs.Version.Trailing
import PluginPack.Proofs.Session.CoreCompatibility
import PluginPack.Proofs.Isolation.Visibility
import PluginPack.Proofs.Files.Effect
import PluginPack.Proofs.Files.Below
import PluginPack.Proofs.Assembly.Overlay
import PluginPack.Proofs.Assembly.Unpack
import PluginPack.Proofs.Assembly.Place
import PluginPack.Proofs.Assembly.Twice
import PluginPack.Proofs.Traverse.Stack
import PluginPack.Proofs.Session.ChecksFirst
