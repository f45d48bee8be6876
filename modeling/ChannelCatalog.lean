import ChannelCatalog.Catalog
import ChannelCatalog.Channel
import ChannelCatalog.ChannelId
import ChannelCatalog.CommandLine.Arguments
import ChannelCatalog.CommandLine.Output
import ChannelCatalog.CommandLine.Run
import ChannelCatalog.Config
import ChannelCatalog.Connection
import ChannelCatalog.Criteria
import ChannelCatalog.Files
import ChannelCatalog.Glob
import ChannelCatalog.IdSet
import ChannelCatalog.Json.Decoder
import ChannelCatalog.Json.Document
import ChannelCatalog.Json.Literal
import ChannelCatalog.Json.Numeral
import ChannelCatalog.Json.Parser
import ChannelCatalog.Json.Record
import ChannelCatalog.Like
import ChannelCatalog.Like.Reading
import ChannelCatalog.Location
import ChannelCatalog.Main
import ChannelCatalog.Number.Binary64
import ChannelCatalog.Query
import ChannelCatalog.Request
import ChannelCatalog.Search
import ChannelCatalog.Search.Script
import ChannelCatalog.Sql.Fragment
import ChannelCatalog.Store.Basic
import ChannelCatalog.Store.Cell
import ChannelCatalog.Store.Dump
import ChannelCatalog.Store.Evaluate
import ChannelCatalog.Store.Limits
import ChannelCatalog.Store.Session
import ChannelCatalog.Text.Bytes
import ChannelCatalog.Text.CaseTable
import ChannelCatalog.Text.CharClass
import ChannelCatalog.Text.Lowercase
import ChannelCatalog.Text.Quoted
import ChannelCatalog.Proofs.Store.Counting
import ChannelCatalog.Proofs.Search.Narrowing
import ChannelCatalog.Proofs.Store.Resolution
import ChannelCatalog.Proofs.Search.Trace
import ChannelCatalog.Proofs.Store.Order
import ChannelCatalog.Proofs.Store.Validity
import ChannelCatalog.Proofs.Store.Limits
import ChannelCatalog.Proofs.Store.Listing
import ChannelCatalog.Proofs.Store.Searching
import ChannelCatalog.Proofs.Criteria.Buckets
import ChannelCatalog.Proofs.Store.Completeness
import ChannelCatalog.Proofs.Glob.Meaning
import ChannelCatalog.Proofs.Glob.Wildcards
import ChannelCatalog.Proofs.Sql.Blanks
import ChannelCatalog.Proofs.Query.Statements
import ChannelCatalog.Proofs.Like.Settling
import ChannelCatalog.Proofs.Store.FoldedTags
import ChannelCatalog.Proofs.Text.AsciiForms
import ChannelCatalog.Proofs.Criteria.Grouping
import ChannelCatalog.Proofs.Glob.LetterCase
import ChannelCatalog.Proofs.Criteria.LetterCase
import ChannelCatalog.Proofs.Store.LetterCase
import ChannelCatalog.Proofs.Store.Rearranging
import ChannelCatalog.Proofs.Glob.Literal
import ChannelCatalog.Proofs.Like.WholeTexts
import ChannelCatalog.Proofs.Store.Monotonicity
import ChannelCatalog.Proofs.Store.Spelling
import ChannelCatalog.Proofs.Channel.Grouping
import ChannelCatalog.Proofs.Store.Lookup
import ChannelCatalog.Proofs.Json.Literal
import ChannelCatalog.Proofs.Json.Numeral
import ChannelCatalog.Proofs.Json.Tokens
import ChannelCatalog.Proofs.Json.Printing
import ChannelCatalog.Proofs.Json.Spelling
import ChannelCatalog.Proofs.Json.Record
import ChannelCatalog.Proofs.CommandLine.Requests
import ChannelCatalog.Proofs.CommandLine.Catalogs
import ChannelCatalog.Proofs.CommandLine.Modes
import ChannelCatalog.Proofs.Store.History
import ChannelCatalog.Proofs.Store.Rollback
import ChannelCatalog.Proofs.Sql.Rendering
import ChannelCatalog.Proofs.Query.Decoding
import ChannelCatalog.Proofs.Criteria.Partition
import ChannelCatalog.Proofs.Request.Multimap
import ChannelCatalog.Proofs.Request.DistinctKeys
import ChannelCatalog.Proofs.Channel.Runs
import ChannelCatalog.Proofs.Sql.Canonical
import ChannelCatalog.Proofs.Sql.Numbering
import ChannelCatalog.Proofs.Glob.Tokens
import ChannelCatalog.Proofs.Text.Trimming
import ChannelCatalog.Proofs.ChannelId.Numerals
import ChannelCatalog.Proofs.CommandLine.Lines
import ChannelCatalog.Proofs.Json.Decoded
import ChannelCatalog.Proofs.Config.Timeouts
import ChannelCatalog.Proofs.Store.Foldings
