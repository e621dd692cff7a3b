import Enhance.Commit.Calendar
import Enhance.Commit.DateText
import Enhance.Commit.Newest
import Enhance.Commit.Status
import Enhance.Commit.Timestamp
import Enhance.Host.Basic
import Enhance.Host.Effect
import Enhance.Host.Reaction
import Enhance.Host.Session
import Enhance.Host.Toggle
import Enhance.Host.Wiring
import Enhance.Host.Work
import Enhance.Log
import Enhance.Number.Binary64
import Enhance.Number.Decimal
import Enhance.Number.Shortest
import Enhance.Page.Node
import Enhance.Page.Selector
import Enhance.Payload.Numeral
import Enhance.Payload.Quotation
import Enhance.Payload.Reader
import Enhance.Payload.Shape
import Enhance.Payload.Skim
import Enhance.Proofs.Action
import Enhance.Proofs.Commit.Address
import Enhance.Proofs.Commit.Calendar
import Enhance.Proofs.Commit.Clock
import Enhance.Proofs.Commit.Endpoint
import Enhance.Proofs.Commit.FirstEntry
import Enhance.Proofs.Commit.Minute
import Enhance.Proofs.Commit.Reading
import Enhance.Proofs.Commit.Refresh
import Enhance.Proofs.Commit.Shown
import Enhance.Proofs.Commit.WrittenDate
import Enhance.Proofs.Host.Account
import Enhance.Proofs.Host.Again
import Enhance.Proofs.Host.Alongside
import Enhance.Proofs.Host.Arranged
import Enhance.Proofs.Host.Aside
import Enhance.Proofs.Host.Asking
import Enhance.Proofs.Host.Awaiting
import Enhance.Proofs.Host.Clicked
import Enhance.Proofs.Host.Commuting
import Enhance.Proofs.Host.Effect
import Enhance.Proofs.Host.Following
import Enhance.Proofs.Host.Footprint
import Enhance.Proofs.Host.Lacking
import Enhance.Proofs.Host.Layered
import Enhance.Proofs.Host.Loading
import Enhance.Proofs.Host.Mirror
import Enhance.Proofs.Host.Missing
import Enhance.Proofs.Host.Opening
import Enhance.Proofs.Host.Pressed
import Enhance.Proofs.Host.Region
import Enhance.Proofs.Host.Retried
import Enhance.Proofs.Host.Reveal
import Enhance.Proofs.Host.Spared
import Enhance.Proofs.Host.Standing
import Enhance.Proofs.Host.Tagline
import Enhance.Proofs.Host.Tasks
import Enhance.Proofs.Host.Toggle
import Enhance.Proofs.Host.Typing
import Enhance.Proofs.Host.Unmoved
import Enhance.Proofs.Host.Unthemed
import Enhance.Proofs.Host.Wired
import Enhance.Proofs.Host.Without
import Enhance.Proofs.Host.Work
import Enhance.Proofs.Number.Whole
import Enhance.Proofs.Page.Classes
import Enhance.Proofs.Page.Strike
import Enhance.Proofs.Payload.Flawed
import Enhance.Proofs.Payload.Quotation
import Enhance.Proofs.Payload.Reader
import Enhance.Proofs.Payload.Shape
import Enhance.Proofs.Payload.Skim
import Enhance.Proofs.Payload.Written
import Enhance.Proofs.Reveal
import Enhance.Proofs.Scroll
import Enhance.Proofs.Settings.Independence
import Enhance.Proofs.Settings.Names
import Enhance.Proofs.Settings.Repo
import Enhance.Proofs.Settings.Usable
import Enhance.Proofs.Shortcut.Canonical
import Enhance.Proofs.Shortcut.Firing
import Enhance.Proofs.Text.Digits
import Enhance.Proofs.Text.Form
import Enhance.Proofs.Text.Utf8
import Enhance.Proofs.Theme.Alarms
import Enhance.Proofs.Theme.Bench
import Enhance.Proofs.Theme.History
import Enhance.Proofs.Theme.Independence
import Enhance.Proofs.Theme.Marker
import Enhance.Proofs.Theme.Reload
import Enhance.Proofs.Theme.View
import Enhance.Proofs.Typewriter
import Enhance.Reveal
import Enhance.Scroll
import Enhance.Settings.Attribute
import Enhance.Settings.Basic
import Enhance.Shortcut
import Enhance.Table
import Enhance.Text.Blank
import Enhance.Text.Bytes
import Enhance.Text.Extending
import Enhance.Text.Hidden
import Enhance.Text.Pieces
import Enhance.Text.Quoted
import Enhance.Text.Runs
import Enhance.Text.Unprintable
import Enhance.Theme.Basic
import Enhance.Theme.Bench
import Enhance.Theme.Session
import Enhance.Theme.Storage
import Enhance.Theme.Switch
import Enhance.Typewriter
import Enhance.Visit
