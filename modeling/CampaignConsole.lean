import CampaignConsole.Calendar.Moment
import CampaignConsole.Calendar.Reader
import CampaignConsole.Campaign.Basic
import CampaignConsole.Campaign.Desk
import CampaignConsole.Campaign.List
import CampaignConsole.Campaign.Sort
import CampaignConsole.Command.Arguments
import CampaignConsole.Command.Basic
import CampaignConsole.Command.CommandLine
import CampaignConsole.Command.Program
import CampaignConsole.Command.Run
import CampaignConsole.Command.Session
import CampaignConsole.Files.Disk
import CampaignConsole.Files.Path
import CampaignConsole.Json.Members
import CampaignConsole.Json.Node
import CampaignConsole.Json.Number
import CampaignConsole.Json.Text
import CampaignConsole.Json.Token
import CampaignConsole.Json.Writer
import CampaignConsole.Main
import CampaignConsole.Page.Client
import CampaignConsole.Page.Envelope
import CampaignConsole.Page.Form
import CampaignConsole.Page.Request
import CampaignConsole.Page.Wire
import CampaignConsole.Proofs.Calendar.MinuteText
import CampaignConsole.Proofs.Campaign.Canonical
import CampaignConsole.Proofs.Campaign.Chronology
import CampaignConsole.Proofs.Campaign.Controls
import CampaignConsole.Proofs.Campaign.FailedSort
import CampaignConsole.Proofs.Campaign.Reloading
import CampaignConsole.Proofs.Command.CampaignRuns
import CampaignConsole.Proofs.Command.Excluding
import CampaignConsole.Proofs.Command.Listing
import CampaignConsole.Proofs.Command.RememberedSort
import CampaignConsole.Proofs.Command.RequestDiscipline
import CampaignConsole.Proofs.Files.Growth
import CampaignConsole.Proofs.Files.Replacing
import CampaignConsole.Proofs.Json.NamedMembers
import CampaignConsole.Proofs.Json.Scanning
import CampaignConsole.Proofs.Page.Changes
import CampaignConsole.Proofs.Page.EnvelopeLaws
import CampaignConsole.Proofs.Page.FormPosts
import CampaignConsole.Proofs.Page.Readings
import CampaignConsole.Proofs.Settings.ListAddress
import CampaignConsole.Proofs.Store.AllOrNothing
import CampaignConsole.Proofs.Store.EntriesText
import CampaignConsole.Proofs.Store.Opening
import CampaignConsole.Proofs.Store.Reopening
import CampaignConsole.Proofs.Text.Decoding
import CampaignConsole.Proofs.Url.FormReading
import CampaignConsole.Proofs.Watch.DisplayOrder
import CampaignConsole.Proofs.Watch.History
import CampaignConsole.Proofs.Watch.Operations
import CampaignConsole.Proofs.Watch.PollRun
import CampaignConsole.Proofs.Watch.SameAnswer
import CampaignConsole.SendJob.Recipient
import CampaignConsole.SendJob.Status
import CampaignConsole.Settings
import CampaignConsole.Store.Entries
import CampaignConsole.Store.StateStore
import CampaignConsole.Terminal.CampaignScreen
import CampaignConsole.Terminal.PanelScreen
import CampaignConsole.Terminal.Settings
import CampaignConsole.Terminal.Style
import CampaignConsole.Text.Base64
import CampaignConsole.Text.Blank
import CampaignConsole.Text.Decimal
import CampaignConsole.Text.Quoted
import CampaignConsole.Text.Shortest
import CampaignConsole.Text.Split
import CampaignConsole.Text.Utf8
import CampaignConsole.Text.Visible
import CampaignConsole.Url.Address
import CampaignConsole.Url.Basic
import CampaignConsole.Url.Domain
import CampaignConsole.Url.FormEncoding
import CampaignConsole.Url.HostFold
import CampaignConsole.Url.Percent
import CampaignConsole.Url.Punycode
import CampaignConsole.Url.Reader
import CampaignConsole.Watch.Poll
import CampaignConsole.Watch.RecipientTable
import CampaignConsole.Watch.StatusPanel
import CampaignConsole.Proofs.Command.FieldArguments
import CampaignConsole.Proofs.Command.PostedForms
import CampaignConsole.Proofs.Terminal.ColorCodes
import CampaignConsole.Proofs.Terminal.Screens
import CampaignConsole.Proofs.Watch.FixedRate
import CampaignConsole.Proofs.Json.Doubles
import CampaignConsole.Proofs.Json.Openings
import CampaignConsole.Proofs.SendJob.IdPlaces
import CampaignConsole.Proofs.SendJob.OneId
import CampaignConsole.Proofs.Page.Refusals
import CampaignConsole.Proofs.Json.WrittenDoubles
import CampaignConsole.Proofs.SendJob.Rereading
