import ImageSync.Decimal.Binary64
import ImageSync.Decimal.Shortest
import ImageSync.Duration
import ImageSync.Http.Charset
import ImageSync.Http.Client
import ImageSync.Http.Message
import ImageSync.Json.Number
import ImageSync.Json.Reader
import ImageSync.Json.Record
import ImageSync.Json.Text
import ImageSync.Json.Value
import ImageSync.Proofs.Http.Redirect
import ImageSync.Proofs.Regex.Anchored
import ImageSync.Proofs.Regex.Proper
import ImageSync.Proofs.Regex.Reach
import ImageSync.Proofs.Regex.Reading
import ImageSync.Proofs.Regex.Search
import ImageSync.Proofs.Registry.CredentialScope
import ImageSync.Proofs.Registry.EcrPaging
import ImageSync.Regex.Basic
import ImageSync.Regex.Bracket
import ImageSync.Regex.Escape
import ImageSync.Regex.Flags
import ImageSync.Regex.Node
import ImageSync.Regex.Pattern
import ImageSync.Regex.Reach
import ImageSync.Regex.Search
import ImageSync.Regex.Size
import ImageSync.Regex.Span
import ImageSync.Regex.Template
import ImageSync.Registry.Bound
import ImageSync.Registry.CatalogSource
import ImageSync.Registry.Config
import ImageSync.Registry.EcrHost
import ImageSync.Registry.EcrService
import ImageSync.Registry.EcrSource
import ImageSync.Registry.Error
import ImageSync.Registry.NextLink
import ImageSync.Registry.PageSize
import ImageSync.Registry.Source
import ImageSync.Rule.Basic
import ImageSync.Rule.ConfigJson
import ImageSync.Rule.Path
import ImageSync.Rule.Source
import ImageSync.Rule.Target
import ImageSync.Tag.Filter
import ImageSync.Text.Base64
import ImageSync.Text.Blank
import ImageSync.Text.CharSet
import ImageSync.Text.Cut
import ImageSync.Text.Digit
import ImageSync.Text.Quoted
import ImageSync.Text.Utf8
import ImageSync.Tls.Certificate
import ImageSync.Tls.Pem
import ImageSync.Unicode.Age
import ImageSync.Unicode.BinaryProperty
import ImageSync.Unicode.CaseFold
import ImageSync.Unicode.CombiningClass
import ImageSync.Unicode.Composition
import ImageSync.Unicode.Direction
import ImageSync.Unicode.GeneralCategory
import ImageSync.Unicode.Joining
import ImageSync.Unicode.Normalization
import ImageSync.Unicode.Packed
import ImageSync.Unicode.Property
import ImageSync.Unicode.Script
import ImageSync.Unicode.Segmentation
import ImageSync.Url.Basic
import ImageSync.Url.Domain
import ImageSync.Url.Domain.Mapping
import ImageSync.Url.Domain.Punycode
import ImageSync.Url.Host
import ImageSync.Url.Ipv4
import ImageSync.Url.Ipv6
import ImageSync.Url.Path
import ImageSync.Url.Percent
import ImageSync.Url.Resolve
import ImageSync.Url.Scheme
import ImageSync.Proofs.Rule.Validation
import ImageSync.Proofs.Rule.Placement
import ImageSync.Proofs.Http.Record
import ImageSync.Proofs.Registry.PageLoop
import ImageSync.Proofs.Registry.Pagers
import ImageSync.Proofs.Json.Field
import ImageSync.Proofs.Registry.CatalogPaging
import ImageSync.Proofs.Registry.BoundedListing
import ImageSync.Proofs.Registry.ServiceHandle
import ImageSync.Proofs.Text.Run
import ImageSync.Proofs.Duration.Word
import ImageSync.Proofs.Duration.Grammar
import ImageSync.Proofs.Rule.ConfigText
import ImageSync.Proofs.Registry.Continuations
import ImageSync.Proofs.Url.WebUrl
import ImageSync.Proofs.Registry.Routing
import ImageSync.Proofs.Registry.LinkHeader
import ImageSync.Proofs.Registry.PageSizes
import ImageSync.Proofs.Url.Relative
import ImageSync.Proofs.Registry.NextPage
import ImageSync.Proofs.Tag.Meaning
import ImageSync.Proofs.Duration.Precision
import ImageSync.Proofs.Http.Script
import ImageSync.Proofs.Registry.LastPage
import ImageSync.Proofs.Registry.LinkFields
import ImageSync.Proofs.Tag.FirstFault
import ImageSync.Proofs.Regex.Plain
import ImageSync.Proofs.Tag.Choice
import ImageSync.Proofs.Text.Word
import ImageSync.Proofs.Regex.Scan
import ImageSync.Proofs.Regex.Template
import ImageSync.Proofs.Regex.Remainder
import ImageSync.Proofs.Rule.Replacement
import ImageSync.Proofs.Rule.Remainder
import ImageSync.Proofs.Registry.OffsetPaging
import ImageSync.Proofs.Regex.Closing
import ImageSync.Proofs.Regex.Leaves
import ImageSync.Proofs.Regex.Comment
import ImageSync.Proofs.Rule.Anchoring
import ImageSync.Proofs.Json.Spelling
import ImageSync.Proofs.Json.Members
import ImageSync.Proofs.Rule.ConfigMembers
import ImageSync.Proofs.Decimal.Digits
import ImageSync.Proofs.Json.Integer
import ImageSync.Proofs.Rule.ConfigInteger
import ImageSync.Proofs.Registry.HostForm
import ImageSync.Proofs.Url.Cleaning
import ImageSync.Proofs.Url.Authority
import ImageSync.Proofs.Registry.BaseUrl
import ImageSync.Proofs.Url.Walk
import ImageSync.Proofs.Registry.FirstRequest
import ImageSync.Proofs.Registry.TagsUrl
import ImageSync.Proofs.Text.Bytes
import ImageSync.Proofs.Text.Base64
import ImageSync.Proofs.Duration.Iterations
import ImageSync.Proofs.Http.Ending
import ImageSync.Proofs.Registry.CredentialHeader
import ImageSync.Proofs.Registry.Probe
import ImageSync.Proofs.Outcome
