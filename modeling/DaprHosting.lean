import DaprHosting.Action
import DaprHosting.Backing.Kind
import DaprHosting.Backing.Payload
import DaprHosting.Choice
import DaprHosting.CommandLine.Commands
import DaprHosting.CommandLine.Grammar
import DaprHosting.CommandLine.Help
import DaprHosting.CommandLine.Options
import DaprHosting.ControlPlane.Basic
import DaprHosting.ControlPlane.Memory
import DaprHosting.Decimal.Binary64
import DaprHosting.Decimal.Shortest
import DaprHosting.Duration
import DaprHosting.Extension
import DaprHosting.Failure
import DaprHosting.Files
import DaprHosting.Http.Status
import DaprHosting.Http.Wire
import DaprHosting.Installation
import DaprHosting.Json.Basic
import DaprHosting.Json.Fields
import DaprHosting.Json.Printer
import DaprHosting.Json.Reader
import DaprHosting.Json.Settled
import DaprHosting.Layer.Basic
import DaprHosting.Layer.Binding
import DaprHosting.Layer.Connection
import DaprHosting.Layer.Decode
import DaprHosting.Layer.Install
import DaprHosting.Layer.Load
import DaprHosting.Layer.Logging
import DaprHosting.Layer.Settings
import DaprHosting.Layer.Shown
import DaprHosting.Layer.Update
import DaprHosting.Log
import DaprHosting.Log.Shown
import DaprHosting.Log.Written
import DaprHosting.Main
import DaprHosting.Operator
import DaprHosting.OrderedMap
import DaprHosting.Provision
import DaprHosting.Release
import DaprHosting.RequestTimeout
import DaprHosting.Resource
import DaprHosting.ResourceManager
import DaprHosting.Run
import DaprHosting.Setting
import DaprHosting.Settings
import DaprHosting.Settings.Document
import DaprHosting.Text.Ascii
import DaprHosting.Text.Blank
import DaprHosting.Text.Quoted
import DaprHosting.Text.Unseen
import DaprHosting.Text.Utf8
import DaprHosting.Token
import DaprHosting.Toml.Basic
import DaprHosting.Toml.Document
import DaprHosting.Toml.Reader
import DaprHosting.Toml.Scalar
import DaprHosting.Toml.Text
import DaprHosting.Upgrade
import DaprHosting.Url.Append
import DaprHosting.Url.Basic
import DaprHosting.Url.Domain
import DaprHosting.Url.DomainTable
import DaprHosting.Url.Form
import DaprHosting.Url.Host
import DaprHosting.Url.Percent
import DaprHosting.Url.Punycode
import DaprHosting.Url.Reader
import DaprHosting.Uuid
import DaprHosting.Version.Basic
import DaprHosting.Version.Reader
import DaprHosting.Word
import DaprHosting.Wording
import DaprHosting.Proofs.Provision.Course
import DaprHosting.Proofs.ControlPlane.Agreement
import DaprHosting.Proofs.ControlPlane.Transcript
import DaprHosting.Proofs.Provision.Conduct
import DaprHosting.Proofs.Http.Exchange
import DaprHosting.Proofs.ResourceManager.Call
import DaprHosting.Proofs.ResourceManager.Talk
import DaprHosting.Proofs.ResourceManager.Conversation
import DaprHosting.Proofs.Memory.Attempt
import DaprHosting.Proofs.Memory.Retry
import DaprHosting.Proofs.Memory.Order
import DaprHosting.Proofs.OrderedMap.Entries
import DaprHosting.Proofs.Settings.Values
import DaprHosting.Proofs.Settings.Reading
import DaprHosting.Proofs.Operator.Questions
import DaprHosting.Proofs.Release.Decision
import DaprHosting.Proofs.Release.Turns
import DaprHosting.Proofs.Installation.Submission
import DaprHosting.Proofs.Layer.Resolution
import DaprHosting.Proofs.Upgrade.Carried
import DaprHosting.Proofs.CommandLine.Given
import DaprHosting.Proofs.Layer.Row
import DaprHosting.Proofs.Layer.Tables
import DaprHosting.Proofs.Layer.Sources
import DaprHosting.Proofs.OrderedMap.Merged
import DaprHosting.Proofs.Settings.Refusal
import DaprHosting.Proofs.Layer.Layering
import DaprHosting.Proofs.Provision.Housing
import DaprHosting.Proofs.Toml.Names
import DaprHosting.Proofs.ResourceManager.Bearer
import DaprHosting.Proofs.Redaction.Values
import DaprHosting.Proofs.Redaction.Layers
import DaprHosting.Proofs.Redaction.Sketch
import DaprHosting.Proofs.Redaction.Load
import DaprHosting.Proofs.Redaction.Submission
import DaprHosting.Proofs.Redaction.Runs
import DaprHosting.Proofs.Text.Utf8
import DaprHosting.Proofs.Url.Percent
import DaprHosting.Proofs.Url.Form
import DaprHosting.Proofs.Url.Segments
import DaprHosting.Proofs.Url.Names
import DaprHosting.Proofs.ResourceManager.Address
import DaprHosting.Proofs.ResourceManager.Sent
import DaprHosting.Proofs.Json.Written
import DaprHosting.Proofs.Settings.NormalForm
import DaprHosting.Proofs.Provision.Cause
import DaprHosting.Proofs.Run.Report
import DaprHosting.Proofs.Version.Order
import DaprHosting.Proofs.Text.Decimal
import DaprHosting.Proofs.Version.Spelling
import DaprHosting.Proofs.Upgrade.Ranking
import DaprHosting.Proofs.Text.Trimmed
import DaprHosting.Proofs.Operator.Inquiries
import DaprHosting.Proofs.Installation.Interview
import DaprHosting.Proofs.ResourceManager.Answers
import DaprHosting.Proofs.ResourceManager.Identity
import DaprHosting.Proofs.Version.Grammar
import DaprHosting.Proofs.Version.Reading
import DaprHosting.Proofs.Extension.Documents
import DaprHosting.Proofs.Upgrade.Circles
import DaprHosting.Proofs.Toml.Tokens
import DaprHosting.Proofs.Toml.Written
import DaprHosting.Proofs.Toml.Lines
import DaprHosting.Proofs.Settings.Notations
import DaprHosting.Proofs.Json.Tokens
import DaprHosting.Proofs.Json.Grammar
import DaprHosting.Proofs.Extension.Members
import DaprHosting.Proofs.Lists
import DaprHosting.Proofs.Json.Settled
import DaprHosting.Proofs.Resource.Carried
import DaprHosting.Proofs.Token.Sources
import DaprHosting.Proofs.Results
import DaprHosting.Proofs.Duration.Sums
import DaprHosting.Proofs.Duration.Items
import DaprHosting.Proofs.RequestTimeout.Exact
