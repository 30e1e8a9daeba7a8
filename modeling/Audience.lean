import Audience.Text.Blank
import Audience.Content.View
import Audience.Content.Report
import Audience.Caller.Decode
import Audience.Caller.Encode
import Audience.Caller.Redacted
import Audience.Json.Sorted
import Audience.Reload.Health
import Audience.Reload.Reloader
import Audience.Service.Conversation
import Audience.Service.Timeline
import Audience.Service.Lobby
import Audience.Toml.Document
import Audience.Settings.Source
import Audience.Main
import Audience.Proofs.Assembly
import Audience.Proofs.Join
import Audience.Proofs.JoinedTree
import Audience.Proofs.References
import Audience.Proofs.Catalogs
import Audience.Proofs.RejectedValues
import Audience.Proofs.AcceptedValues
import Audience.Proofs.RoleExpressions
import Audience.Proofs.Reload.Freshness
import Audience.Proofs.Indistinguishable
import Audience.Proofs.Generations
import Audience.Proofs.Promotion
import Audience.Proofs.Polling.Run
import Audience.Proofs.Polling.Freshness
import Audience.Proofs.CheckedRules
import Audience.Proofs.Reload.Publications
import Audience.Proofs.Reload.Status
import Audience.Proofs.Visits.Readiness
import Audience.Proofs.CallerText
import Audience.Proofs.TreeText
import Audience.Proofs.Conversation
import Audience.Proofs.Settings.Layers
import Audience.Proofs.Settings.Sources
import Audience.Proofs.RowOrder
import Audience.Proofs.Json.Respelled
import Audience.Proofs.CallerSpelling
import Audience.Proofs.RequestLines
import Audience.Proofs.PrivacyLevels
import Audience.Proofs.Reload.Lifetime
import Audience.Proofs.Reload.Answers
import Audience.Proofs.SignInDecisions
import Audience.Proofs.ValueText
import Audience.Proofs.ViewText
import Audience.Proofs.TypesInUse
