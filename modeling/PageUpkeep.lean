import PageUpkeep.Main
import PageUpkeep.Template.AgeFilter
import PageUpkeep.Proofs.Sweep.Pointwise
import PageUpkeep.Proofs.Age.Growth
import PageUpkeep.Proofs.Sweep.Cadence
import PageUpkeep.Proofs.Json.QuotedForm
import PageUpkeep.Proofs.Json.TableForm
import PageUpkeep.Proofs.Files.Parent
import PageUpkeep.Proofs.Files.Writing
import PageUpkeep.Proofs.Store.Saving
import PageUpkeep.Proofs.Store.Refinement
import PageUpkeep.Proofs.Store.Entries
import PageUpkeep.Proofs.Theme.Operations
import PageUpkeep.Proofs.Theme.Safety
import PageUpkeep.Proofs.Sweep.History
import PageUpkeep.Proofs.Files.Enclosing
import PageUpkeep.Proofs.Theme.Agreement
import PageUpkeep.Proofs.Store.Sparing
import PageUpkeep.Proofs.Program.DamagedStore
import PageUpkeep.Proofs.Age.Markup
import PageUpkeep.Proofs.CommandLine.Numbers
import PageUpkeep.Proofs.Program.LabelLines
import PageUpkeep.Proofs.Program.SameLabel
import PageUpkeep.Proofs.Text.Decimal
import PageUpkeep.Proofs.Calendar.Years
import PageUpkeep.Proofs.Sweep.Settled
import PageUpkeep.Proofs.Runs.Interleaving
import PageUpkeep.Proofs.Theme.Effect
import PageUpkeep.Proofs.Sweep.Delay
import PageUpkeep.Proofs.Page.Independence
import PageUpkeep.Proofs.Theme.Separation
import PageUpkeep.Proofs.Page.Reload
import PageUpkeep.Proofs.Store.Elsewhere
import PageUpkeep.Proofs.CommandLine.Options
import PageUpkeep.Proofs.Program.ThemeWords
import PageUpkeep.Proofs.Program.Preference
import PageUpkeep.Proofs.Sweep.Slackening
import PageUpkeep.Proofs.Store.Overwriting
import PageUpkeep.Proofs.Age.Title
import PageUpkeep.Proofs.Age.Outcome
import PageUpkeep.Proofs.Json.NumberForm
import PageUpkeep.Proofs.Template.AgeCalls
import PageUpkeep.Proofs.Json.ValueForm
import PageUpkeep.Proofs.Json.Skipping
import PageUpkeep.Proofs.Json.RecordMeaning
import PageUpkeep.Proofs.Json.RecordReading
import PageUpkeep.Proofs.Json.Gathering
import PageUpkeep.Proofs.Settings.Reading
import PageUpkeep.Proofs.Settings.Overlay
import PageUpkeep.Proofs.Settings.RoundTrip
import PageUpkeep.Proofs.Sweep.Meetings
import PageUpkeep.Proofs.Age.Partition
import PageUpkeep.Proofs.Age.Accuracy
import PageUpkeep.Proofs.Store.Canonical
import PageUpkeep.Proofs.Sweep.Reading
import PageUpkeep.Proofs.Sweep.Showing
import PageUpkeep.Proofs.Store.CutShort
import PageUpkeep.Template.Standard
import PageUpkeep.Proofs.Template.Documented
