import FieldOcr.Charset.Basic
import FieldOcr.Charset.CodePage
import FieldOcr.Charset.Encode
import FieldOcr.Charset.Japanese
import FieldOcr.Charset.Label
import FieldOcr.Charset.WithoutIdeographs
import FieldOcr.CommandLine.Argument
import FieldOcr.CommandLine.Display
import FieldOcr.CommandLine.Execution
import FieldOcr.CommandLine.Invocation
import FieldOcr.CommandLine.Reading
import FieldOcr.Content
import FieldOcr.Http.Message
import FieldOcr.Json.Decode
import FieldOcr.Json.Fault
import FieldOcr.Json.Printer
import FieldOcr.Json.Reader
import FieldOcr.Main
import FieldOcr.Markup.Reader
import FieldOcr.Markup.Reference
import FieldOcr.Markup.Tag
import FieldOcr.NameMap
import FieldOcr.Proofs.AccountCalls
import FieldOcr.Proofs.AddressReading
import FieldOcr.Proofs.AddressText
import FieldOcr.Proofs.AsciiNames
import FieldOcr.Proofs.AttributeConformance
import FieldOcr.Proofs.Authorization
import FieldOcr.Proofs.Awaiting
import FieldOcr.Proofs.Base64Reading
import FieldOcr.Proofs.Building
import FieldOcr.Proofs.ByteLength
import FieldOcr.Proofs.CallOrder
import FieldOcr.Proofs.CharsetReading
import FieldOcr.Proofs.ChildCounts
import FieldOcr.Proofs.Conformance
import FieldOcr.Proofs.ContentNoise
import FieldOcr.Proofs.Delivery
import FieldOcr.Proofs.ElementPlace
import FieldOcr.Proofs.ElementTree
import FieldOcr.Proofs.EncodedResult
import FieldOcr.Proofs.EventOrder
import FieldOcr.Proofs.Expansion
import FieldOcr.Proofs.Fetching
import FieldOcr.Proofs.FormReading
import FieldOcr.Proofs.HostReading
import FieldOcr.Proofs.Ipv6Reading
import FieldOcr.Proofs.LeadingText
import FieldOcr.Proofs.MarkedContent
import FieldOcr.Proofs.MessageData
import FieldOcr.Proofs.MessageText
import FieldOcr.Proofs.Observation
import FieldOcr.Proofs.OpenElements
import FieldOcr.Proofs.PathReading
import FieldOcr.Proofs.PdfPassword
import FieldOcr.Proofs.Performing
import FieldOcr.Proofs.QuerySchedule
import FieldOcr.Proofs.ReaderProgress
import FieldOcr.Proofs.Reading
import FieldOcr.Proofs.RecordShape
import FieldOcr.Proofs.ReferenceGrammar
import FieldOcr.Proofs.RegionReading
import FieldOcr.Proofs.Relaxing
import FieldOcr.Proofs.Replacing
import FieldOcr.Proofs.ResolvedReferences
import FieldOcr.Proofs.Settling
import FieldOcr.Proofs.StatusCode
import FieldOcr.Proofs.StoredFiles
import FieldOcr.Proofs.Submitting
import FieldOcr.Proofs.TagEnding
import FieldOcr.Proofs.TaskAttributes
import FieldOcr.Proofs.TaskElement
import FieldOcr.Proofs.TaskHistory
import FieldOcr.Proofs.Transcript
import FieldOcr.Proofs.Trimming
import FieldOcr.Proofs.Truncation
import FieldOcr.Proofs.TwoRuns
import FieldOcr.Proofs.Utf16Reading
import FieldOcr.Proofs.Utf8Reading
import FieldOcr.Proofs.Watching
import FieldOcr.Proofs.WrittenContent
import FieldOcr.Proofs.WrittenMarkup
import FieldOcr.Recognition.Parameters
import FieldOcr.Recognition.Region
import FieldOcr.Recognition.Vocabulary
import FieldOcr.RemoteTask.Failure
import FieldOcr.RemoteTask.FailureFields
import FieldOcr.RemoteTask.Handle
import FieldOcr.RemoteTask.Status
import FieldOcr.Request.Draft
import FieldOcr.Request.Options
import FieldOcr.Request.Outline
import FieldOcr.Request.Settings
import FieldOcr.Run.Fetch
import FieldOcr.Run.Journal
import FieldOcr.Run.Launch
import FieldOcr.Run.Perform
import FieldOcr.Run.Polling
import FieldOcr.Run.Record
import FieldOcr.Run.Script
import FieldOcr.Run.Session
import FieldOcr.Run.Source
import FieldOcr.Run.Submission
import FieldOcr.Run.Unreachable
import FieldOcr.Schema.Basic
import FieldOcr.Schema.Reading
import FieldOcr.Schema.TextField
import FieldOcr.Service.Address
import FieldOcr.Service.Call
import FieldOcr.Service.Envelope
import FieldOcr.Setup.Fault
import FieldOcr.Setup.ResultSchema
import FieldOcr.Setup.Transport
import FieldOcr.Storage.Disk
import FieldOcr.Storage.Fault
import FieldOcr.Storage.Path
import FieldOcr.Storage.Tree
import FieldOcr.Text.Base64
import FieldOcr.Text.Blank
import FieldOcr.Text.Numeral
import FieldOcr.Text.Outline
import FieldOcr.Text.Quoted
import FieldOcr.Text.ShortestDecimal
import FieldOcr.Text.Split
import FieldOcr.Text.Utf16
import FieldOcr.Text.Utf8
import FieldOcr.Text.WordCharacter
import FieldOcr.Trust.Bundle
import FieldOcr.Trust.Certificate
import FieldOcr.Url.AsciiName
import FieldOcr.Url.Basic
import FieldOcr.Url.Fault
import FieldOcr.Url.Form
import FieldOcr.Url.Host
import FieldOcr.Url.Parser
import FieldOcr.Url.Percent
import FieldOcr.Url.Punycode
import FieldOcr.Validation.Document
import FieldOcr.Validation.Result
