import Showcase.Reading.Extraction
import Showcase.Text.Location
import Showcase.Json.Reader
import Showcase.Folder.Load
import Showcase.Collection.Collect
import Showcase.Report.Format
import Showcase.Command
import Showcase.Main
import Showcase.Proofs.Reading.Unrelated
import Showcase.Proofs.Reading.Bare
import Showcase.Proofs.Reading.Wrappers
import Showcase.Proofs.Reading.Calls
import Showcase.Proofs.Disk.Paths
import Showcase.Proofs.Reading.Props
import Showcase.Proofs.Collection.Folders
import Showcase.Proofs.Reading.Inlining
import Showcase.Proofs.Collection.Faults
import Showcase.Proofs.Collection.Tolerant
import Showcase.Proofs.Disk.Descent
import Showcase.Proofs.Disk.Refill
import Showcase.Proofs.Disk.Steps
import Showcase.Proofs.Disk.Writing
import Showcase.Proofs.Collection.Isolation
import Showcase.Proofs.Collection.Accounts
import Showcase.Proofs.Collection.Strict
import Showcase.Proofs.Collection.Schedules
import Showcase.Proofs.Collection.Workers
import Showcase.Proofs.Collection.Parallel
import Showcase.Proofs.Report.Fences
import Showcase.Proofs.Settings.Fields
import Showcase.Proofs.Settings.Sources
import Showcase.Proofs.Settings.Layering
import Showcase.Proofs.Folder.Entries
import Showcase.Proofs.Collection.Counts
import Showcase.Proofs.Reading.Literals
import Showcase.Proofs.Report.Records
import Showcase.Proofs.Report.Colors
import Showcase.Proofs.Command.Execution
import Showcase.Proofs.Command.ExitCodes
import Showcase.Proofs.Command.Colors
import Showcase.Report.Restore
import Showcase.Proofs.Json.Numerals
import Showcase.Proofs.Json.Written
import Showcase.Proofs.Report.Restored
import Showcase.Proofs.Command.Effects
import Showcase.Proofs.Disk.Continuation
import Showcase.Proofs.Folder.Candidates
import Showcase.Proofs.Command.OutputPath
import Showcase.Proofs.Command.Template
import Showcase.Proofs.Reading.Substitution
import Showcase.Proofs.Reading.Columns
import Showcase.Proofs.Reading.Roles
import Showcase.Proofs.Text.Offsets
import Showcase.Proofs.Reading.Overriding
import Showcase.Proofs.Reading.PropertyNames
import Showcase.Proofs.Folder.EntryOptions
import Showcase.Proofs.Reading.FirstBinders
import Showcase.Proofs.Reading.Imported
import Showcase.Proofs.Reading.OptionProps
import Showcase.Proofs.Toml.Strings
import Showcase.Proofs.Settings.FormatNames
