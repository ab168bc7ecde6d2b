import BuildSession.Artifact.Basic
import BuildSession.Artifact.Transformer
import BuildSession.Artifact.Type
import BuildSession.BuildTool
import BuildSession.Cache
import BuildSession.Config.Layer
import BuildSession.Config.Node
import BuildSession.Config.Properties
import BuildSession.Config.Value
import BuildSession.Credentials.Braces
import BuildSession.Credentials.Decryption
import BuildSession.Credentials.SourceAddress
import BuildSession.Dict
import BuildSession.Event.Basic
import BuildSession.Event.Listener
import BuildSession.Event.Log
import BuildSession.Event.Stream
import BuildSession.Exchange.Artifact
import BuildSession.Exchange.Basic
import BuildSession.Exchange.Config
import BuildSession.Exchange.Failure
import BuildSession.Exchange.Repository
import BuildSession.Exchange.Session
import BuildSession.Instant
import BuildSession.Json.Basic
import BuildSession.Json.Fields
import BuildSession.Json.Parser
import BuildSession.Json.Printer
import BuildSession.LocalManager
import BuildSession.Log
import BuildSession.PathName
import BuildSession.Policy.Checksum
import BuildSession.Policy.ErrorCache
import BuildSession.Policy.Session
import BuildSession.Policy.Update
import BuildSession.Recorded
import BuildSession.Repository.Basic
import BuildSession.Repository.Injection
import BuildSession.Repository.Mirroring
import BuildSession.Repository.Pattern
import BuildSession.Repository.Proxying
import BuildSession.Repository.ServerAccess
import BuildSession.Repository.Transport
import BuildSession.Session.Assembly
import BuildSession.Session.Basic
import BuildSession.Session.Request
import BuildSession.Settings.Basic
import BuildSession.Settings.Mirror
import BuildSession.Settings.Proxy
import BuildSession.Settings.Server
import BuildSession.Shown
import BuildSession.Text.Blank
import BuildSession.Text.Cut
import BuildSession.Text.Decimal
import BuildSession.Text.Hexadecimal
import BuildSession.Text.Quoted
import BuildSession.Text.Utf8
import BuildSession.Text.Wildcard
import BuildSession.Unicode.BidiClass
import BuildSession.Unicode.CaseFold
import BuildSession.Unicode.CombiningClass
import BuildSession.Unicode.Decomposition
import BuildSession.Unicode.GraphemeExtend
import BuildSession.Unicode.HostMapping
import BuildSession.Unicode.JoiningType
import BuildSession.Unicode.Mark
import BuildSession.Unicode.Normal
import BuildSession.Unicode.Printable
import BuildSession.Unicode.Table
import BuildSession.Url.Basic
import BuildSession.Url.DomainName
import BuildSession.Url.Ipv4
import BuildSession.Url.Ipv6
import BuildSession.Url.Percent
import BuildSession.Url.Punycode
import BuildSession.Proofs.Assembly
import BuildSession.Proofs.Occurrence
import BuildSession.Proofs.Injection
import BuildSession.Proofs.ServerAccess
import BuildSession.Proofs.SourceAddress
import BuildSession.Proofs.Clearing
import BuildSession.Proofs.Braces
import BuildSession.Proofs.Patterns
import BuildSession.Proofs.Proxying
import BuildSession.Proofs.Transforming
import BuildSession.Proofs.Withholding
import BuildSession.Proofs.Redaction
import BuildSession.Proofs.Diagnostics
import BuildSession.Proofs.ArtifactTypes
import BuildSession.Proofs.Collaboration
import BuildSession.Proofs.Insertions
import BuildSession.Proofs.Merging
import BuildSession.Proofs.Configuration
import BuildSession.Proofs.UpdatePolicies
import BuildSession.Proofs.Records
import BuildSession.Proofs.RecordFields
import BuildSession.Proofs.Edits
import BuildSession.Proofs.JsonText
import BuildSession.Proofs.EventStream
import BuildSession.Proofs.NonProxyHosts
import BuildSession.Proofs.LetterCase
import BuildSession.Proofs.HostCase
import BuildSession.Proofs.UrlCase
import BuildSession.Proofs.Transports
import BuildSession.Proofs.Recasing
import BuildSession.Proofs.Authorities
import BuildSession.Proofs.NestedUrls
import BuildSession.Proofs.Coordinates
import BuildSession.Proofs.Deliveries
