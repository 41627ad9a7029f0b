import SettingsConsole.Text.Blank
import SettingsConsole.Text.Quoted
import SettingsConsole.Clock
import SettingsConsole.Table
import SettingsConsole.Screen.Area
import SettingsConsole.Json.Reader
import SettingsConsole.Json.Writer
import SettingsConsole.Json.Decode
import SettingsConsole.Group.Cycle
import SettingsConsole.Page.Content
import SettingsConsole.Page.Outline
import SettingsConsole.Service
import SettingsConsole.Config.Environment
import SettingsConsole.Page.Groups
import SettingsConsole.Config.EnvFile
import SettingsConsole.Config.Load
import SettingsConsole.Http.Client
import SettingsConsole.Http.Standard
import SettingsConsole.Console.Event
import SettingsConsole.Console.Row
import SettingsConsole.Console.Step
import SettingsConsole.Console.Outcome
import SettingsConsole.Screen.Canvas
import SettingsConsole.Screen.Paragraph
import SettingsConsole.Screen.Widget
import SettingsConsole.Screen.Popup
import SettingsConsole.Screen.View
import SettingsConsole.Proofs.Group.Operation
import SettingsConsole.Proofs.Group.History
import SettingsConsole.Proofs.Group.Removal
import SettingsConsole.Proofs.Group.Settlement
import SettingsConsole.Proofs.Console.Groups
import SettingsConsole.Proofs.Console.Session
import SettingsConsole.Proofs.Console.Rebuild
import SettingsConsole.Proofs.Console.SingleFlight
import SettingsConsole.Proofs.Console.Unsaved
import SettingsConsole.Proofs.Group.SaveCycle
import SettingsConsole.Proofs.Console.Retry
import SettingsConsole.Proofs.Console.Lineage
import SettingsConsole.Proofs.Console.ExitGuard
import SettingsConsole.Proofs.Group.Refusal
import SettingsConsole.Proofs.Console.Requests
import SettingsConsole.Proofs.Console.Status
import SettingsConsole.Proofs.Console.Prompts
import SettingsConsole.Proofs.Console.TextEdit
import SettingsConsole.Proofs.Console.Typing
import SettingsConsole.Proofs.Console.Alerts
import SettingsConsole.Proofs.Console.Reload
import SettingsConsole.Proofs.Group.Baseline
import SettingsConsole.Proofs.Group.Consent
import SettingsConsole.Proofs.Group.Validity
import SettingsConsole.Proofs.Group.Disconnect
import SettingsConsole.Proofs.Group.Decline
import SettingsConsole.Proofs.Json.Object
import SettingsConsole.Proofs.Page.AddonsAndWiki
import SettingsConsole.Proofs.Json.Record
import SettingsConsole.Proofs.Page.Loosened
import SettingsConsole.Proofs.Page.Decoding
import SettingsConsole.Proofs.Console.Settlement
import SettingsConsole.Proofs.Console.Stepped
import SettingsConsole.Proofs.Console.Handled
import SettingsConsole.Proofs.Console.Quitting
import SettingsConsole.Proofs.Console.LoadOrder
import SettingsConsole.Proofs.Console.SaveOrder
import SettingsConsole.Proofs.Console.FailureKind
import SettingsConsole.Proofs.Console.Surface
import SettingsConsole.Proofs.Console.AreaMessages
import SettingsConsole.Proofs.Console.Rows
import SettingsConsole.Proofs.Console.Turns
import SettingsConsole.Proofs.Console.Selection
import SettingsConsole.Proofs.Console.Activation
import SettingsConsole.Proofs.Console.Notices
import SettingsConsole.Proofs.Page.Wording
import SettingsConsole.Proofs.Group.Changes
import SettingsConsole.Proofs.Group.Independence
import SettingsConsole.Proofs.Group.Payload
import SettingsConsole.Proofs.Page.Affiliation
import SettingsConsole.Proofs.Config.Load
import SettingsConsole.Proofs.Page.Preorder
