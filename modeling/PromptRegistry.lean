import PromptRegistry.CommandLine.Arguments
import PromptRegistry.CommandLine.Run
import PromptRegistry.Dict
import PromptRegistry.Document
import PromptRegistry.Event
import PromptRegistry.Failure
import PromptRegistry.Http.Endpoint
import PromptRegistry.Http.Input
import PromptRegistry.Http.MediaType
import PromptRegistry.Http.Message
import PromptRegistry.Http.Problem
import PromptRegistry.Http.Service
import PromptRegistry.Http.View
import PromptRegistry.Json.Basic
import PromptRegistry.Json.Binary64
import PromptRegistry.Json.Decode
import PromptRegistry.Json.Draft
import PromptRegistry.Json.Number
import PromptRegistry.Json.Printer
import PromptRegistry.Main
import PromptRegistry.Procedure
import PromptRegistry.Prompt
import PromptRegistry.Proofs.CommandLine.Assignment
import PromptRegistry.Proofs.Dict
import PromptRegistry.Proofs.Document.Lossless
import PromptRegistry.Proofs.Document.ReadsBack
import PromptRegistry.Proofs.Document.Written
import PromptRegistry.Proofs.Except
import PromptRegistry.Proofs.Http.Addressing
import PromptRegistry.Proofs.Http.Bodies
import PromptRegistry.Proofs.Http.Redaction
import PromptRegistry.Proofs.Http.Requests
import PromptRegistry.Proofs.Http.Responses
import PromptRegistry.Proofs.Http.ServerErrors
import PromptRegistry.Proofs.Http.Stored
import PromptRegistry.Proofs.Http.Writing
import PromptRegistry.Proofs.Json.Decode
import PromptRegistry.Proofs.Json.Number
import PromptRegistry.Proofs.Json.ReadsBack
import PromptRegistry.Proofs.Json.Scan
import PromptRegistry.Proofs.Json.Scanner
import PromptRegistry.Proofs.Json.Value
import PromptRegistry.Proofs.Procedure
import PromptRegistry.Proofs.Procedure.About
import PromptRegistry.Proofs.Procedure.Healthy
import PromptRegistry.Proofs.Prompt.Chronology
import PromptRegistry.Proofs.Prompt.Core
import PromptRegistry.Proofs.Prompt.Edit
import PromptRegistry.Proofs.Prompt.Provenance
import PromptRegistry.Proofs.Prompt.WellFormed
import PromptRegistry.Proofs.Registry.Addressing
import PromptRegistry.Proofs.Registry.Aliases
import PromptRegistry.Proofs.Registry.Atomicity
import PromptRegistry.Proofs.Registry.Commutation
import PromptRegistry.Proofs.Registry.Effect
import PromptRegistry.Proofs.Registry.Evaluation
import PromptRegistry.Proofs.Registry.Failures
import PromptRegistry.Proofs.Registry.History
import PromptRegistry.Proofs.Registry.Independence
import PromptRegistry.Proofs.Registry.Indifferent
import PromptRegistry.Proofs.Registry.Listing
import PromptRegistry.Proofs.Registry.Numbering
import PromptRegistry.Proofs.Registry.Paging
import PromptRegistry.Proofs.Registry.Permanence
import PromptRegistry.Proofs.Registry.Provenance
import PromptRegistry.Proofs.Registry.ReadBack
import PromptRegistry.Proofs.Registry.Reading
import PromptRegistry.Proofs.Registry.Registration
import PromptRegistry.Proofs.Registry.Reports
import PromptRegistry.Proofs.Registry.Spared
import PromptRegistry.Proofs.Registry.WellFormed
import PromptRegistry.Proofs.Search.Expression
import PromptRegistry.Proofs.Search.Filter
import PromptRegistry.Proofs.Search.Order
import PromptRegistry.Proofs.Search.Page
import PromptRegistry.Proofs.Search.PageToken
import PromptRegistry.Proofs.Search.Token
import PromptRegistry.Proofs.Search.Wildcard
import PromptRegistry.Proofs.Storage.Apart
import PromptRegistry.Proofs.Storage.Atomic
import PromptRegistry.Proofs.Storage.Healthy
import PromptRegistry.Proofs.Template.Format
import PromptRegistry.Proofs.Template.Missing
import PromptRegistry.Proofs.Template.Segmentation
import PromptRegistry.Proofs.Template.SingleBraces
import PromptRegistry.Proofs.Template.Variables
import PromptRegistry.Proofs.Text.Base64Url
import PromptRegistry.Proofs.Text.ByteOrder
import PromptRegistry.Proofs.Text.Numeral
import PromptRegistry.Proofs.Text.Percent
import PromptRegistry.Proofs.Text.Stretch
import PromptRegistry.Proofs.Text.Trim
import PromptRegistry.Proofs.Text.Utf8
import PromptRegistry.Proofs.Time.Calendar
import PromptRegistry.Proofs.Time.Order
import PromptRegistry.Proofs.Time.Timestamp
import PromptRegistry.Proofs.Uri
import PromptRegistry.Registry.Basic
import PromptRegistry.Registry.Operation
import PromptRegistry.Rules
import PromptRegistry.Search.Expression
import PromptRegistry.Search.Filter
import PromptRegistry.Search.Order
import PromptRegistry.Search.Page
import PromptRegistry.Search.Token
import PromptRegistry.Search.Wildcard
import PromptRegistry.Settings.Address
import PromptRegistry.Settings.Basic
import PromptRegistry.Settings.Environment
import PromptRegistry.Settings.EnvironmentFile
import PromptRegistry.Settings.Layer
import PromptRegistry.Settings.Load
import PromptRegistry.Settings.Reading
import PromptRegistry.Settings.Real
import PromptRegistry.Settings.Toml
import PromptRegistry.Storage.Basic
import PromptRegistry.Storage.Memory
import PromptRegistry.Template
import PromptRegistry.Text.Alphanumeric
import PromptRegistry.Text.Ascii
import PromptRegistry.Text.Base64Url
import PromptRegistry.Text.Blank
import PromptRegistry.Text.CaseFolding
import PromptRegistry.Text.Decimal
import PromptRegistry.Text.LowerCase
import PromptRegistry.Text.Percent
import PromptRegistry.Text.Quoted
import PromptRegistry.Text.Table
import PromptRegistry.Text.Utf8
import PromptRegistry.Time.Calendar
import PromptRegistry.Time.Timestamp
import PromptRegistry.Uri
