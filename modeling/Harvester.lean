import Harvester.Collector
import Harvester.Command.Address
import Harvester.Command.Filter
import Harvester.Command.Line
import Harvester.Command.Run
import Harvester.Contest.Page
import Harvester.Contest.Table
import Harvester.Delivery
import Harvester.Digest
import Harvester.Disk
import Harvester.Event
import Harvester.Exposition
import Harvester.Failure
import Harvester.Feed.Atom
import Harvester.Feed.Document
import Harvester.Feed.Entry
import Harvester.Feed.Rss
import Harvester.History
import Harvester.Html.Builder
import Harvester.Html.Construction
import Harvester.Html.Doctype
import Harvester.Html.Draft
import Harvester.Html.Reference
import Harvester.Html.Selection
import Harvester.Html.Token
import Harvester.Http.Body
import Harvester.Http.Form
import Harvester.Http.Network
import Harvester.Http.Status
import Harvester.Http.Url
import Harvester.Instant
import Harvester.Instant.Calendar
import Harvester.Instant.MailDate
import Harvester.Instant.Reading
import Harvester.Item
import Harvester.Journal
import Harvester.Json.Field
import Harvester.Json.Reader
import Harvester.Json.Value
import Harvester.Json.Writer
import Harvester.Keyed
import Harvester.Listener
import Harvester.Main
import Harvester.Normalize
import Harvester.Parameters
import Harvester.Payload.Codeforces
import Harvester.Payload.DevTo
import Harvester.Payload.Github
import Harvester.Payload.Kaggle
import Harvester.Payload.News
import Harvester.Payload.ProductHunt
import Harvester.Payload.Reddit
import Harvester.Proofs.Collector.Again
import Harvester.Proofs.Collector.Announce
import Harvester.Proofs.Collector.Batch
import Harvester.Proofs.Collector.Contract
import Harvester.Proofs.Collector.Figures
import Harvester.Proofs.Collector.Hearing
import Harvester.Proofs.Collector.Offers
import Harvester.Proofs.Contest.Table
import Harvester.Proofs.Delivery.Batches
import Harvester.Proofs.Feed.Extension
import Harvester.Proofs.Feed.Insertion
import Harvester.Proofs.Feed.Scrub
import Harvester.Proofs.Feed.Slots
import Harvester.Proofs.Feed.Written
import Harvester.Proofs.History.Document
import Harvester.Proofs.History.Folders
import Harvester.Proofs.History.Mirror
import Harvester.Proofs.History.Overlap
import Harvester.Proofs.History.Unreadable
import Harvester.Proofs.Http.Address
import Harvester.Proofs.Http.Exchange
import Harvester.Proofs.Http.Query
import Harvester.Proofs.Instant.Calendar
import Harvester.Proofs.Instant.Clock
import Harvester.Proofs.Item.Composite
import Harvester.Proofs.Item.Drawn
import Harvester.Proofs.Item.Edges
import Harvester.Proofs.Item.Links
import Harvester.Proofs.Item.Required
import Harvester.Proofs.Item.SameKey
import Harvester.Proofs.Item.Wire
import Harvester.Proofs.Journal.Counts
import Harvester.Proofs.Json.CodeUnits
import Harvester.Proofs.Json.Elements
import Harvester.Proofs.Json.Grammar
import Harvester.Proofs.Json.Language
import Harvester.Proofs.Json.Literal
import Harvester.Proofs.Json.Number
import Harvester.Proofs.Json.Reading
import Harvester.Proofs.Json.Written
import Harvester.Proofs.Run.Decoding
import Harvester.Proofs.Run.Kept
import Harvester.Proofs.Run.Numbers
import Harvester.Proofs.Schedule.Apart
import Harvester.Proofs.Schedule.Inheritance
import Harvester.Proofs.Schedule.Refusal
import Harvester.Proofs.Schedule.RunIds
import Harvester.Proofs.Schedule.Session
import Harvester.Proofs.Settings.Registration
import Harvester.Proofs.Settings.Secrets
import Harvester.Proofs.Shelf.Batch
import Harvester.Proofs.Shelf.Growth
import Harvester.Proofs.Shelf.Keys
import Harvester.Proofs.Source.Accounts
import Harvester.Proofs.Source.Gathering
import Harvester.Proofs.Source.Isolation
import Harvester.Proofs.Source.Queries
import Harvester.Proofs.Source.Reports
import Harvester.Proofs.Source.Services
import Harvester.Proofs.Source.Topics
import Harvester.Proofs.Text.ByteOrder
import Harvester.Proofs.Text.Cleaning
import Harvester.Proofs.Text.Decoding
import Harvester.Proofs.Text.Digest
import Harvester.Proofs.Text.Digits
import Harvester.Proofs.Text.Patterns
import Harvester.Proofs.Text.Replacement
import Harvester.Proofs.Text.Spacing
import Harvester.Proofs.Text.Tags
import Harvester.Proofs.Text.Words
import Harvester.Proofs.Xml.Children
import Harvester.Proofs.Xml.Elements
import Harvester.Proofs.Xml.Escape
import Harvester.Proofs.Xml.Insertion
import Harvester.Proofs.Xml.Markup
import Harvester.Proofs.Xml.Records
import Harvester.Proofs.Xml.Runs
import Harvester.RawItem
import Harvester.Run
import Harvester.Schedule
import Harvester.Settings.Document
import Harvester.Settings.Dotenv
import Harvester.Settings.Jobs
import Harvester.Settings.Load
import Harvester.Settings.Secret
import Harvester.Sink
import Harvester.Source.Feeds
import Harvester.Source.Listing
import Harvester.Source.Service
import Harvester.Text.Base64
import Harvester.Text.Blank
import Harvester.Text.Clean
import Harvester.Text.Entity
import Harvester.Text.EntityTable
import Harvester.Text.Utf8
import Harvester.Toml.Lexeme
import Harvester.Toml.Reader
import Harvester.Toml.Scalar
import Harvester.Toml.Table
import Harvester.World
import Harvester.Xml.Attribute
import Harvester.Xml.Node
import Harvester.Xml.Piece
import Harvester.Xml.Record
import Harvester.Xml.Reference
