import LayeredConfig.Main
import LayeredConfig.Proofs.Files.Growth
import LayeredConfig.Proofs.Loading
import LayeredConfig.Proofs.Extends.Gathering
import LayeredConfig.Proofs.Extends.Flattening
import LayeredConfig.Proofs.Extends.Termination
import LayeredConfig.Proofs.Extends.Offences
import LayeredConfig.Proofs.Resolution.Layers
import LayeredConfig.Proofs.Extends.Cycles
import LayeredConfig.Proofs.Redaction
import LayeredConfig.Proofs.Resolution.Initialisation
import LayeredConfig.Proofs.Extends.Encounters
import LayeredConfig.Proofs.Resolution.Independence
import LayeredConfig.Proofs.Resolution.Consultation
import LayeredConfig.Proofs.Files.NoFile
import LayeredConfig.Proofs.Resolution.Primary
import LayeredConfig.Proofs.Session.Slots
import LayeredConfig.Proofs.Session.Isolation
import LayeredConfig.Proofs.Session.History
import LayeredConfig.Proofs.Extends.Lineage
import LayeredConfig.Proofs.Resolution.Sources
import LayeredConfig.Proofs.Files.Copies
import LayeredConfig.Proofs.Extends.Replay
import LayeredConfig.Proofs.Resolution.Repetition
import LayeredConfig.Proofs.Json.Tokens
import LayeredConfig.Proofs.Json.RoundTrip
import LayeredConfig.Proofs.Json.Indented
import LayeredConfig.Proofs.ListText
import LayeredConfig.Proofs.Url.PathSegments
import LayeredConfig.Proofs.Files.CopyPath
import LayeredConfig.Proofs.Web.BodyLimit
import LayeredConfig.Proofs.Extends.Faults
import LayeredConfig.Proofs.Command.CommandLine
import LayeredConfig.Proofs.Command.Contract
import LayeredConfig.Proofs.Command.JsonOption
import LayeredConfig.Proofs.Command.Formats
import LayeredConfig.Proofs.Command.Overrides
import LayeredConfig.Proofs.Yaml.Range
import LayeredConfig.Proofs.Yaml.Conversion
import LayeredConfig.Proofs.Remote.Agreement
import LayeredConfig.Proofs.Remote.Replacement
import LayeredConfig.Proofs.Files.Names
import LayeredConfig.Proofs.Resolution.EmptyPrimary
import LayeredConfig.Proofs.Text.Blank
import LayeredConfig.Proofs.Shell.Quoting
import LayeredConfig.Proofs.Decimal.Plain
import LayeredConfig.Proofs.CommaLists
import LayeredConfig.Proofs.Shell.Unfinished
import LayeredConfig.Proofs.ListReading
import LayeredConfig.Proofs.Extends.Spelling
import LayeredConfig.Proofs.Files.OtherBytes
import LayeredConfig.Proofs.Extends.Respelling
