import DeployService.Text.Blank
import DeployService.Text.Split
import DeployService.Text.Digits
import DeployService.Text.Utf8
import DeployService.Text.Category
import DeployService.Text.CombiningClass
import DeployService.Text.Composition
import DeployService.Text.Canonical
import DeployService.Text.Folding
import DeployService.Json.Basic
import DeployService.Json.Number
import DeployService.Json.Shortest
import DeployService.Json.Raw
import DeployService.Json.Decode
import DeployService.Json.Printer
import DeployService.Payload.Shape
import DeployService.Payload.Codec
import DeployService.Payload.Application
import DeployService.Payload.LongRunning
import DeployService.Url.Percent
import DeployService.Url.Host
import DeployService.Url.Punycode
import DeployService.Url.Direction
import DeployService.Url.Joining
import DeployService.Url.International
import DeployService.Url.Basic
import DeployService.Url.Parser
import DeployService.Http.Header
import DeployService.Http.Status
import DeployService.Http.Message
import DeployService.Http.Cookie
import DeployService.Http.Jar
import DeployService.Text.Quoted
import DeployService.Text.Base64
import DeployService.Error
import DeployService.Call
import DeployService.Retry
import DeployService.Token.Basic
import DeployService.Token.Jwt
import DeployService.Token.Cache
import DeployService.Session
import DeployService.Transport.Basic
import DeployService.Transport.UserAgent
import DeployService.Transport.Csrf
import DeployService.Channel.Endpoint
import DeployService.Channel.Reading
import DeployService.Channel.Basic
import DeployService.Client.Basic
import DeployService.Client.Network
import DeployService.Client.Rest
import DeployService.Client.Operations
import DeployService.Client.Lookup
import DeployService.Client.Process
import DeployService.Client.Factory
import DeployService.Command.Console
import DeployService.Command.Table
import DeployService.Command.Applications
import DeployService.Command.Operations
import DeployService.Settings.Basic
import DeployService.Settings.ServiceUrl
import DeployService.Tool.Output
import DeployService.CommandLine.Grammar
import DeployService.CommandLine.Level
import DeployService.CommandLine.Invocation
import DeployService.Program
import DeployService.Replay
import DeployService.Main
import DeployService.Proofs.Traffic
import DeployService.Proofs.Protection
import DeployService.Proofs.Delivery
import DeployService.Proofs.Acknowledgement
import DeployService.Proofs.HeaderFields
import DeployService.Proofs.TokenHistory
import DeployService.Proofs.Futures
import DeployService.Proofs.TokenUse
import DeployService.Proofs.SentCookies
import DeployService.Proofs.Utf8Reading
import DeployService.Proofs.ArgumentEncoding
import DeployService.Proofs.EncodedArguments
import DeployService.Proofs.HostUrl
import DeployService.Proofs.PathSegments
import DeployService.Proofs.Addressing
import DeployService.Proofs.Joints
import DeployService.Proofs.Queries
import DeployService.Proofs.Retrying
import DeployService.Proofs.Failures
import DeployService.Proofs.Endings
import DeployService.Proofs.Reports
import DeployService.Proofs.Classification
import DeployService.Proofs.Attempt
import DeployService.Proofs.Repetition
import DeployService.Proofs.Authority
import DeployService.Proofs.Server
import DeployService.Proofs.Identity
import DeployService.Proofs.Healing
import DeployService.Proofs.Interleaving
import DeployService.Proofs.SharedToken
import DeployService.Proofs.LateRejections
import DeployService.Proofs.StoredCookies
import DeployService.Proofs.Continuity
import DeployService.Proofs.Secrecy
import DeployService.Proofs.ErrorAnswers
import DeployService.Proofs.TokenOrigins
import DeployService.Proofs.JsonLexemes
import DeployService.Proofs.JsonNumbers
import DeployService.Proofs.JsonGrammar
import DeployService.Proofs.JsonStrings
import DeployService.Proofs.JsonReading
import DeployService.Proofs.ResponseReading
import DeployService.Proofs.OfferedActions
import DeployService.Proofs.RoundTrips
import DeployService.Proofs.FailedRefreshes
import DeployService.Proofs.Orders
import DeployService.Proofs.Dialogues
import DeployService.Proofs.PrintedLogs
import DeployService.Proofs.Usability
import DeployService.Proofs.TokenReuse
import DeployService.Proofs.Words
import DeployService.Proofs.PrintedTokens
import DeployService.Proofs.Base64Forms
import DeployService.Proofs.JsonObjects
import DeployService.Proofs.ClaimedExpiry
import DeployService.Proofs.FailedFetches
import DeployService.Proofs.TokenFetches
import DeployService.Proofs.KnownMembers
import DeployService.Proofs.SuffixSanitizing
import DeployService.Proofs.SettingSources
import DeployService.Proofs.NamesFromEnvironment
import DeployService.Proofs.ChunkSizes
import DeployService.Proofs.SettingReports
import DeployService.Proofs.HostNames
import DeployService.Proofs.PlatformForms
import DeployService.Proofs.TableLayout
import DeployService.Proofs.ClaimedExpiry
