import TestScribe.Component.Analysis
import TestScribe.Component.Analyzer
import TestScribe.Component.Comment
import TestScribe.Component.Fact
import TestScribe.Component.Hooks
import TestScribe.Component.Imports
import TestScribe.Component.Markup
import TestScribe.Component.Name
import TestScribe.Component.Props
import TestScribe.Component.Score
import TestScribe.Component.Tree
import TestScribe.Component.Wire
import TestScribe.Decimal.Binary
import TestScribe.Decimal.Fixed
import TestScribe.Decimal.Shortest
import TestScribe.Decimal.Significant
import TestScribe.Failure.Basic
import TestScribe.Failure.Envelope
import TestScribe.Failure.Problem
import TestScribe.Gateway.Assembly
import TestScribe.Gateway.Breaker
import TestScribe.Gateway.Client
import TestScribe.Gateway.Desk
import TestScribe.Gateway.Guard
import TestScribe.Gateway.Health
import TestScribe.Gateway.Limiter
import TestScribe.Gateway.Pipeline
import TestScribe.Gateway.Request
import TestScribe.Generation.Backend
import TestScribe.Generation.Chunk
import TestScribe.Generation.CodeBlock
import TestScribe.Generation.Generator
import TestScribe.Generation.Options
import TestScribe.Generation.Prompt
import TestScribe.Generation.Request
import TestScribe.Generation.StreamEvent
import TestScribe.Generation.TestFile
import TestScribe.Grammar.Cursor
import TestScribe.Grammar.Expression
import TestScribe.Grammar.Lexeme
import TestScribe.Grammar.Literal
import TestScribe.Grammar.Markup
import TestScribe.Grammar.Pattern
import TestScribe.Grammar.Piece
import TestScribe.Grammar.Program
import TestScribe.Grammar.Rules
import TestScribe.Grammar.Semicolon
import TestScribe.Grammar.Statement
import TestScribe.Grammar.Types
import TestScribe.Journal.Flow
import TestScribe.Journal.Line
import TestScribe.Journal.Record
import TestScribe.Journal.Setup
import TestScribe.Journal.Template
import TestScribe.Json.Basic
import TestScribe.Json.Finite
import TestScribe.Json.Plain
import TestScribe.Json.Printer
import TestScribe.Json.Reader
import TestScribe.Launch.Arguments
import TestScribe.Launch.Start
import TestScribe.Launch.Word
import TestScribe.Main
import TestScribe.Service.Body
import TestScribe.Service.Exchange
import TestScribe.Service.Kind
import TestScribe.Service.Routing
import TestScribe.Service.Stages
import TestScribe.Settings
import TestScribe.Syntax.Fault
import TestScribe.Syntax.Node
import TestScribe.Syntax.Source
import TestScribe.Syntax.Walk
import TestScribe.Text.Blank
import TestScribe.Text.Digit
import TestScribe.Text.Lines
import TestScribe.Text.Printable
import TestScribe.Text.Quoted
import TestScribe.Text.Utf8
import TestScribe.Time.Clock
import TestScribe.Time.Date
import TestScribe.Time.Instant
import TestScribe.Tools
import TestScribe.Transport.Link
import TestScribe.Transport.Reply
import TestScribe.Transport.Retry
import TestScribe.Validation.Check
import TestScribe.Validation.Verdict
import TestScribe.Wire.Checked
import TestScribe.Wire.Issue
import TestScribe.Wire.Scalar
import TestScribe.Proofs.FirstSeen
import TestScribe.Proofs.Breaker.History
import TestScribe.Proofs.Breaker.Cooldown
import TestScribe.Proofs.Failure.RoundTrip
import TestScribe.Proofs.Journal.FlowRules
import TestScribe.Proofs.Transport.Attempts
import TestScribe.Proofs.Transport.RetryLaw
import TestScribe.Proofs.Gateway.Exchange
import TestScribe.Proofs.Gateway.Guarded
import TestScribe.Proofs.Gateway.Operations
import TestScribe.Proofs.Generation.Asking
import TestScribe.Proofs.Generation.Delivery
import TestScribe.Proofs.Generation.TextStream
import TestScribe.Proofs.Generation.EventGrammar
import TestScribe.Proofs.Generation.Oblivious
import TestScribe.Proofs.Generation.Agreement
import TestScribe.Proofs.Gateway.SlidingWindow
import TestScribe.Proofs.Gateway.StageEnds
import TestScribe.Proofs.Gateway.PipelineRun
import TestScribe.Proofs.Gateway.RetryLoops
import TestScribe.Proofs.Syntax.Pruning
import TestScribe.Proofs.Syntax.Walks
import TestScribe.Proofs.Component.PropsOfPruned
import TestScribe.Proofs.Component.Consistency
import TestScribe.Proofs.Component.Statements
import TestScribe.Proofs.Component.Naming
import TestScribe.Proofs.Time.Calendar
import TestScribe.Proofs.Time.InstantText
import TestScribe.Proofs.Wire.RoundTrip
import TestScribe.Proofs.Wire.Models
import TestScribe.Proofs.Wire.WithoutNulls
import TestScribe.Proofs.Gateway.Bodies
import TestScribe.Proofs.Journal.YieldRules
import TestScribe.Proofs.Transport.WaitRules
import TestScribe.Proofs.Service.Envelopes
import TestScribe.Proofs.Service.EndlessAnswers
import TestScribe.Proofs.Gateway.EndlessAnswers
import TestScribe.Proofs.Gateway.Reception
import TestScribe.Proofs.Gateway.Labels
import TestScribe.Proofs.Gateway.FailureSources
import TestScribe.Proofs.Gateway.CloseCalls
import TestScribe.Proofs.Gateway.Visits
import TestScribe.Proofs.Gateway.VisitRuns
import TestScribe.Proofs.Component.Exports
import TestScribe.Proofs.Component.MemberComments
import TestScribe.Proofs.Component.ParameterProps
import TestScribe.Proofs.Component.CompleteProps
import TestScribe.Proofs.Text.Splitting
import TestScribe.Proofs.Generation.FencedCode
import TestScribe.Proofs.Wire.Spellings
import TestScribe.Proofs.Validation.Payloads
import TestScribe.Proofs.Failure.Codes
import TestScribe.Proofs.Gateway.ErrorAnswers
import TestScribe.Proofs.Gateway.HealthProbes
import TestScribe.Proofs.Gateway.StatusReports
import TestScribe.Proofs.Json.Members
import TestScribe.Proofs.Gateway.StageValues
import TestScribe.Proofs.Gateway.DisplayNames
import TestScribe.Proofs.Json.Numbers
import TestScribe.Proofs.Json.Texts
import TestScribe.Proofs.Json.Grammar
import TestScribe.Proofs.Json.Writing
import TestScribe.Proofs.Generation.EventFrames
import TestScribe.Proofs.Text.Lines
import TestScribe.Proofs.Generation.DelimitedObjects
import TestScribe.Proofs.Json.Beginnings
import TestScribe.Proofs.Gateway.Waits
import TestScribe.Proofs.Decimal.Order
import TestScribe.Proofs.Gateway.RetryAfter
import TestScribe.Proofs.Syntax.FirstFault
import TestScribe.Proofs.Generation.CalledOff
import TestScribe.Proofs.Json.Names
import TestScribe.Proofs.Gateway.PassedOn
import TestScribe.Proofs.Validation.Reports
import TestScribe.Proofs.Text.Blocks
import TestScribe.Proofs.Generation.PromptShape
import TestScribe.Proofs.Journal.LogLines
import TestScribe.Proofs.Text.Utf8
import TestScribe.Proofs.Syntax.CoveredText
import TestScribe.Proofs.Launch.Variables
import TestScribe.Proofs.Launch.CommandLine
import TestScribe.Proofs.Launch.Starting
