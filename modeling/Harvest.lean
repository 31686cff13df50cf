import Harvest.Calendar.Date
import Harvest.Calendar.Text
import Harvest.CommandLine.Arguments
import Harvest.CommandLine.Run
import Harvest.CommandLine.Usage
import Harvest.Files.Path
import Harvest.Files.Tree
import Harvest.Filter.Error
import Harvest.Filter.Evaluation
import Harvest.Filter.Expression
import Harvest.Filter.Expression.Parse
import Harvest.Filter.Mutation
import Harvest.Filter.Predicate
import Harvest.Filter.Subject
import Harvest.Filter.Token
import Harvest.Filter.Token.Scan
import Harvest.Filter.Value
import Harvest.Http.BasicLogin
import Harvest.Http.Client
import Harvest.Http.Exchange
import Harvest.Http.Message
import Harvest.Http.Retrieval
import Harvest.Item.Attribute
import Harvest.Item.Caption
import Harvest.Item.Descriptor
import Harvest.Item.DescriptorFile
import Harvest.Item.Kind
import Harvest.Item.Post
import Harvest.Item.Profile
import Harvest.Item.ShortCode
import Harvest.Item.StoryItem
import Harvest.Json.Basic
import Harvest.Json.Bytes
import Harvest.Json.Number
import Harvest.Json.Read
import Harvest.Json.Record
import Harvest.Json.Write
import Harvest.Main
import Harvest.Number.Binary64
import Harvest.Number.Digits
import Harvest.Number.Shortest
import Harvest.Number.Word
import Harvest.Program
import Harvest.Retrieval.Error
import Harvest.Retrieval.Service
import Harvest.Retrieval.Tally
import Harvest.Run.Basic
import Harvest.Run.Batch
import Harvest.Run.LocalFile
import Harvest.Run.Report
import Harvest.Session.Basic
import Harvest.Session.File
import Harvest.Session.Login
import Harvest.Target.AccountSet
import Harvest.Target.Basic
import Harvest.Target.Followees
import Harvest.Text.Base64
import Harvest.Text.CombiningClass
import Harvest.Text.Composition
import Harvest.Text.Contents
import Harvest.Text.Direction
import Harvest.Text.Escaped
import Harvest.Text.Joining
import Harvest.Text.LowerCase
import Harvest.Text.Mark
import Harvest.Text.Quoted
import Harvest.Text.Ranges
import Harvest.Text.Rows
import Harvest.Text.WhiteSpace
import Harvest.Text.WordCharacter
import Harvest.Url.Basic
import Harvest.Url.DomainName
import Harvest.Url.DomainName.Folding
import Harvest.Url.Host
import Harvest.Url.Percent
import Harvest.Url.Punycode
import Harvest.Url.Read
import Harvest.Proofs.Filter.Arguments
import Harvest.Proofs.Filter.Soundness
import Harvest.Proofs.Filter.Completeness
import Harvest.Proofs.Filter.Lexeme
import Harvest.Proofs.Filter.Acceptance
import Harvest.Proofs.Run.Handling
import Harvest.Proofs.Run.Progress
import Harvest.Proofs.Run.Isolation
import Harvest.Proofs.Run.Interrupt
import Harvest.Proofs.Run.Order
import Harvest.Proofs.Filter.Resolution
import Harvest.Proofs.Filter.Fault
import Harvest.Proofs.Filter.Mutation
import Harvest.Proofs.Url.Segment
import Harvest.Proofs.Url.Join
import Harvest.Proofs.Url.Read
import Harvest.Proofs.Http.Requests
import Harvest.Proofs.Http.Success
import Harvest.Proofs.Http.Names
import Harvest.Proofs.Http.Fault
import Harvest.Proofs.Http.Resolution
import Harvest.Proofs.Run.Resolution
import Harvest.Proofs.Journal
import Harvest.Proofs.Realization
import Harvest.Proofs.Http.Credential
import Harvest.Proofs.Run.Course
import Harvest.Proofs.Run.Conduct
import Harvest.Proofs.Run.Fallback
import Harvest.Proofs.Session.Provenance
import Harvest.Proofs.Files.Tree
import Harvest.Proofs.Json.ReadBack
import Harvest.Proofs.Session.File
import Harvest.Proofs.Run.Batch
import Harvest.Proofs.Files.World
import Harvest.Proofs.Run.Reuse
import Harvest.Proofs.Target.Classification
import Harvest.Proofs.Target.Removed
import Harvest.Proofs.Filter.Agreement
import Harvest.Proofs.Number.Digits
import Harvest.Proofs.Filter.Display
import Harvest.Proofs.Compliance
import Harvest.Proofs.Calendar.Text
import Harvest.Proofs.Item.Codec
import Harvest.Proofs.Http.Forwarding
import Harvest.Proofs.Run.Forwarding
import Harvest.Proofs.Run.Naming
import Harvest.Proofs.Item.Caption
import Harvest.Proofs.Http.Saving
import Harvest.Proofs.Run.Stories
import Harvest.Proofs.CommandLine.Stories
import Harvest.Proofs.Number.Word
import Harvest.Proofs.Number.Quotient
import Harvest.Proofs.Filter.Arithmetic
import Harvest.Proofs.Filter.Chain
import Harvest.Proofs.Calendar.Order
import Harvest.Proofs.Filter.Comparison
import Harvest.Proofs.Filter.Moment
import Harvest.Proofs.Filter.Placement
import Harvest.Proofs.Filter.Call
import Harvest.Proofs.Filter.Tokens
import Harvest.Proofs.Filter.Printing
import Harvest.Proofs.Http.Retry
import Harvest.Proofs.Filter.Contact
import Harvest.Proofs.Item.Mention
import Harvest.Proofs.Run.Expansion
import Harvest.Proofs.Run.Filed
import Harvest.Proofs.Filter.Remainder
import Harvest.Proofs.Target.Display
import Harvest.Proofs.Session.Dialogue
import Harvest.Proofs.Http.Absence
import Harvest.Proofs.Run.Absence
import Harvest.Proofs.Item.ShortCode
import Harvest.Proofs.Filter.Nesting
import Harvest.Proofs.Filter.Routine
import Harvest.Proofs.Filter.Following
import Harvest.Proofs.Filter.Bookkeeping
import Harvest.Proofs.Filter.Height
