import CrawlFrontier.Text.Ascii
import CrawlFrontier.Text.Blank
import CrawlFrontier.Text.Utf8
import CrawlFrontier.Unicode.Table
import CrawlFrontier.Unicode.Mark
import CrawlFrontier.Unicode.CombiningClass
import CrawlFrontier.Unicode.Joining
import CrawlFrontier.Unicode.Direction
import CrawlFrontier.Unicode.Decomposition
import CrawlFrontier.Unicode.Normal
import CrawlFrontier.Idna.MappingTable
import CrawlFrontier.Idna.Mapping
import CrawlFrontier.Idna.Punycode
import CrawlFrontier.Idna.Label
import CrawlFrontier.Text.Percent
import CrawlFrontier.Url.Ipv4
import CrawlFrontier.Url.Ipv6
import CrawlFrontier.Url.Host
import CrawlFrontier.Url.Basic
import CrawlFrontier.Url.Segments
import CrawlFrontier.Url.Parser
import CrawlFrontier.Url.Form
import CrawlFrontier.DocumentKind
import CrawlFrontier.Canonical.Url
import CrawlFrontier.Discovery.Link
import CrawlFrontier.Xml.Reader
import CrawlFrontier.Discovery.Sitemap
import CrawlFrontier.Frontier.Notice
import CrawlFrontier.Frontier.Seen
import CrawlFrontier.Frontier.Queue
import CrawlFrontier.Frontier.Summary
import CrawlFrontier.Frontier.Basic
import CrawlFrontier.Digest.Sha256
import CrawlFrontier.Toml.Value
import CrawlFrontier.Toml.Lexeme
import CrawlFrontier.Toml.Quoted
import CrawlFrontier.Toml.Number
import CrawlFrontier.Toml.DateTime
import CrawlFrontier.Toml.Document
import CrawlFrontier.Config.Read
import CrawlFrontier.Config.Load
import CrawlFrontier.Replay.Candidate
import CrawlFrontier.Replay.Workers
import CrawlFrontier.Report.Decimal
import CrawlFrontier.Report.Statistics
import CrawlFrontier.Html.EntityTable
import CrawlFrontier.Html.Reference
import CrawlFrontier.Html.Tag
import CrawlFrontier.Html.Doctype
import CrawlFrontier.Html.RawText
import CrawlFrontier.Html.Token
import CrawlFrontier.Html.Element
import CrawlFrontier.Html.Formatting
import CrawlFrontier.Html.Builder
import CrawlFrontier.Html.Adoption
import CrawlFrontier.Html.Rules.Head
import CrawlFrontier.Html.Rules.Body
import CrawlFrontier.Html.Rules.Table
import CrawlFrontier.Html.Rules.Select
import CrawlFrontier.Html.Document
import CrawlFrontier.Discovery.Page
import CrawlFrontier.Discovery.Document
import CrawlFrontier.Command.Arguments
import CrawlFrontier.Command.Run
import CrawlFrontier.Main
import CrawlFrontier.Proofs.Steps
import CrawlFrontier.Proofs.Frontier.Seen
import CrawlFrontier.Proofs.Frontier.SeenHistory
import CrawlFrontier.Proofs.Frontier.Actions
import CrawlFrontier.Proofs.Frontier.Safety
import CrawlFrontier.Proofs.Frontier.Order
import CrawlFrontier.Proofs.Frontier.Sharing
import CrawlFrontier.Proofs.Replay.Accounts
import CrawlFrontier.Proofs.Replay.Schedule
import CrawlFrontier.Proofs.Replay.Rounds
import CrawlFrontier.Proofs.Frontier.Crawl
import CrawlFrontier.Proofs.Text.Parts
import CrawlFrontier.Proofs.Idna.Punycode
import CrawlFrontier.Proofs.Idna.Domain
import CrawlFrontier.Proofs.Text.Numeral
import CrawlFrontier.Proofs.Text.Lines
import CrawlFrontier.Proofs.Url.Address
import CrawlFrontier.Proofs.Url.Host
import CrawlFrontier.Proofs.Url.Segments
import CrawlFrontier.Proofs.Url.WellFormed
import CrawlFrontier.Proofs.Url.Printed
import CrawlFrontier.Proofs.Url.Form
import CrawlFrontier.Proofs.Url.Relative
import CrawlFrontier.Proofs.Canonical.Path
import CrawlFrontier.Proofs.Canonical.Page
import CrawlFrontier.Proofs.Canonical.Key
import CrawlFrontier.Proofs.Canonical.Made
import CrawlFrontier.Proofs.Xml.Forest
import CrawlFrontier.Proofs.Xml.Written
import CrawlFrontier.Proofs.Discovery.Sitemap
import CrawlFrontier.Proofs.Discovery.Location
import CrawlFrontier.Proofs.Discovery.Destination
import CrawlFrontier.Proofs.Discovery.Robots
import CrawlFrontier.Proofs.Discovery.Kind
import CrawlFrontier.Proofs.Discovery.Join
import CrawlFrontier.Proofs.Discovery.Refusal
import CrawlFrontier.Proofs.Frontier.Session
import CrawlFrontier.Proofs.Frontier.Made
import CrawlFrontier.Proofs.Frontier.Seeding
import CrawlFrontier.Proofs.Frontier.Retract
import CrawlFrontier.Proofs.Frontier.Progress
import CrawlFrontier.Proofs.Replay.Candidate
import CrawlFrontier.Proofs.Command.Report
import CrawlFrontier.Proofs.Command.Listing
import CrawlFrontier.Proofs.Text.Utf8
import CrawlFrontier.Proofs.Text.Order
import CrawlFrontier.Proofs.Canonical.Parts
import CrawlFrontier.Proofs.Config.Valid
import CrawlFrontier.Proofs.Command.Checks
