import Whereabouts.Address
import Whereabouts.Alternates
import Whereabouts.Archive.Layout
import Whereabouts.Archive.NoticeForm
import Whereabouts.Archive.PersonForm
import Whereabouts.Archive.PresetForm
import Whereabouts.Archive.Store
import Whereabouts.Archive.TableForm
import Whereabouts.Base64
import Whereabouts.Board
import Whereabouts.Calendar.Date
import Whereabouts.Calendar.Instant
import Whereabouts.Calendar.Reading
import Whereabouts.Calendar.TimeOfDay
import Whereabouts.Calendar.Written
import Whereabouts.Calendar.Zone
import Whereabouts.Disk.Basic
import Whereabouts.Disk.Path
import Whereabouts.Disk.Volume
import Whereabouts.Json.Printer
import Whereabouts.Json.Reader
import Whereabouts.Json.Record
import Whereabouts.Json.Token
import Whereabouts.Json.Value
import Whereabouts.Keeper
import Whereabouts.Letter.Basic
import Whereabouts.Letter.Boundary
import Whereabouts.Letter.Content
import Whereabouts.Letter.EncodedWord
import Whereabouts.Letter.FreeText
import Whereabouts.Letter.Header
import Whereabouts.Letter.MediaType
import Whereabouts.Letter.Reader
import Whereabouts.Letter.Sender
import Whereabouts.Letter.SentDate
import Whereabouts.Letter.Transfer
import Whereabouts.Letter.Utf8
import Whereabouts.Mail.Charset
import Whereabouts.Mail.Effect
import Whereabouts.Mail.Field
import Whereabouts.Mail.Interpretation
import Whereabouts.Mail.Request
import Whereabouts.Mail.Vetting
import Whereabouts.Main
import Whereabouts.Managers
import Whereabouts.Notice
import Whereabouts.NoticeIndex
import Whereabouts.Page.Cell
import Whereabouts.Page.Escape
import Whereabouts.Page.Placeholder
import Whereabouts.Page.Render
import Whereabouts.Page.Source
import Whereabouts.Page.Template
import Whereabouts.Period
import Whereabouts.Person
import Whereabouts.Proofs.Address
import Whereabouts.Proofs.Address.Search
import Whereabouts.Proofs.Alternates
import Whereabouts.Proofs.Alternates.Disputes
import Whereabouts.Proofs.Archive.Calls
import Whereabouts.Proofs.Archive.Comments
import Whereabouts.Proofs.Archive.Forms
import Whereabouts.Proofs.Archive.Places
import Whereabouts.Proofs.Archive.RejectionLog
import Whereabouts.Proofs.Archive.Tables
import Whereabouts.Proofs.Base64
import Whereabouts.Proofs.Calendar.Forms
import Whereabouts.Proofs.Calendar.Neighbours
import Whereabouts.Proofs.Calendar.ReadBack
import Whereabouts.Proofs.Disk.Edits
import Whereabouts.Proofs.Disk.Files
import Whereabouts.Proofs.Disk.Path
import Whereabouts.Proofs.Json.Lines
import Whereabouts.Proofs.Json.ReadBack
import Whereabouts.Proofs.Keeper.Backups
import Whereabouts.Proofs.Keeper.Deliveries
import Whereabouts.Proofs.Keeper.History
import Whereabouts.Proofs.Keeper.Intake
import Whereabouts.Proofs.Keeper.Managers
import Whereabouts.Proofs.Keeper.NewDay
import Whereabouts.Proofs.Keeper.Persistence
import Whereabouts.Proofs.Keeper.Work
import Whereabouts.Proofs.Keys
import Whereabouts.Proofs.Letter.Reader
import Whereabouts.Proofs.Letter.SentDate
import Whereabouts.Proofs.Mail.AbsenceMail
import Whereabouts.Proofs.Mail.Attribution
import Whereabouts.Proofs.Mail.Authority
import Whereabouts.Proofs.Mail.Bodies
import Whereabouts.Proofs.Mail.Changes
import Whereabouts.Proofs.Mail.Drafts
import Whereabouts.Proofs.Mail.Frame
import Whereabouts.Proofs.Mail.Independence
import Whereabouts.Proofs.Mail.LineBreaks
import Whereabouts.Proofs.Mail.Ownership
import Whereabouts.Proofs.Mail.Records
import Whereabouts.Proofs.Mail.Requests
import Whereabouts.Proofs.Mail.Undoing
import Whereabouts.Proofs.Notices.Filed
import Whereabouts.Proofs.Notices.Garbage
import Whereabouts.Proofs.Notices.Order
import Whereabouts.Proofs.Notices.Placement
import Whereabouts.Proofs.Notices.Views
import Whereabouts.Proofs.Page.Escape
import Whereabouts.Proofs.Page.FreeText
import Whereabouts.Proofs.Page.Links
import Whereabouts.Proofs.Page.Placeholder
import Whereabouts.Proofs.Page.SingleScan
import Whereabouts.Proofs.Page.StandIn
import Whereabouts.Proofs.Page.Walk
import Whereabouts.Proofs.Period.Days
import Whereabouts.Proofs.Period.Reading
import Whereabouts.Proofs.Spool
import Whereabouts.Proofs.Table
import Whereabouts.Proofs.Text.Blank
import Whereabouts.Proofs.Text.Decimal
import Whereabouts.Proofs.Text.Find
import Whereabouts.Proofs.Text.Lines
import Whereabouts.Proofs.Text.Octets
import Whereabouts.Proofs.Text.Pattern
import Whereabouts.Settings
import Whereabouts.Settings.File
import Whereabouts.Settings.Form
import Whereabouts.Site
import Whereabouts.Spool
import Whereabouts.Status
import Whereabouts.Table
import Whereabouts.Text.Blank
import Whereabouts.Text.CaseTables
import Whereabouts.Text.Decimal
import Whereabouts.Text.Find
import Whereabouts.Text.HiddenTable
import Whereabouts.Text.Lines
import Whereabouts.Text.LowerCase
import Whereabouts.Text.Quoted
import Whereabouts.Text.Ranges
