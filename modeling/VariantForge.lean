import VariantForge.Archive.Directory
import VariantForge.Archive.Fault
import VariantForge.Archive.Inflate
import VariantForge.Archive.Name
import VariantForge.Archive.Pack
import VariantForge.Build
import VariantForge.Calendar
import VariantForge.Command
import VariantForge.CommandLine.Exit
import VariantForge.CommandLine.Invocation
import VariantForge.Data.Basic
import VariantForge.Data.Json
import VariantForge.Data.Members
import VariantForge.Disk.Basic
import VariantForge.Disk.Fault
import VariantForge.Disk.Operations
import VariantForge.Failure
import VariantForge.Host
import VariantForge.Log
import VariantForge.Main
import VariantForge.Number.Basic
import VariantForge.Number.Decimal
import VariantForge.Package.Make
import VariantForge.Path
import VariantForge.Pattern.Class
import VariantForge.Pattern.Error
import VariantForge.Pattern.Escape
import VariantForge.Pattern.Matching
import VariantForge.Pattern.Node
import VariantForge.Pattern.Reader
import VariantForge.Pattern.Replacement
import VariantForge.Proofs.Build.Directory
import VariantForge.Proofs.Command
import VariantForge.Proofs.CommandLine.Words
import VariantForge.Proofs.Data.Members
import VariantForge.Proofs.Data.Merge
import VariantForge.Proofs.Disk.Anchor
import VariantForge.Proofs.Disk.Directories
import VariantForge.Proofs.Disk.Entry
import VariantForge.Proofs.Disk.Ground
import VariantForge.Proofs.Disk.Lookup
import VariantForge.Proofs.Disk.Names
import VariantForge.Proofs.Disk.Operations
import VariantForge.Proofs.Disk.Removed
import VariantForge.Proofs.Disk.Replaced
import VariantForge.Proofs.Disk.Rewritten
import VariantForge.Proofs.Disk.Spared
import VariantForge.Proofs.Disk.Straight
import VariantForge.Proofs.Disk.Tree
import VariantForge.Proofs.Disk.Twin
import VariantForge.Proofs.Disk.Walk
import VariantForge.Proofs.Drift
import VariantForge.Proofs.Execution
import VariantForge.Proofs.Footprint
import VariantForge.Proofs.Matched
import VariantForge.Proofs.Outcome
import VariantForge.Proofs.Package.Contents
import VariantForge.Proofs.Package.Made
import VariantForge.Proofs.Package.Settled
import VariantForge.Proofs.Package.Site
import VariantForge.Proofs.Path.Inside
import VariantForge.Proofs.Path.Joined
import VariantForge.Proofs.Path.Parts
import VariantForge.Proofs.Path.Through
import VariantForge.Proofs.Pattern.Literal
import VariantForge.Proofs.Pattern.Moves
import VariantForge.Proofs.Retry
import VariantForge.Proofs.Run.Accounting
import VariantForge.Proofs.Run.Alone
import VariantForge.Proofs.Run.Apart
import VariantForge.Proofs.Run.Beside
import VariantForge.Proofs.Run.Cancelled
import VariantForge.Proofs.Run.Casting
import VariantForge.Proofs.Run.Course
import VariantForge.Proofs.Run.Drift
import VariantForge.Proofs.Run.Footprint
import VariantForge.Proofs.Run.Fresh
import VariantForge.Proofs.Run.Layout
import VariantForge.Proofs.Run.Likewise
import VariantForge.Proofs.Run.Outputs
import VariantForge.Proofs.Run.Remains
import VariantForge.Proofs.Run.Rounds
import VariantForge.Proofs.Run.Seclusion
import VariantForge.Proofs.Run.Turf
import VariantForge.Proofs.Run.Warned
import VariantForge.Proofs.Settings.Layers
import VariantForge.Proofs.Settings.Parts
import VariantForge.Proofs.Settings.Profiles
import VariantForge.Proofs.Settings.Projection
import VariantForge.Proofs.Settings.Reading
import VariantForge.Proofs.Settings.Stable
import VariantForge.Proofs.Source.Candidates
import VariantForge.Proofs.Spell.Choices
import VariantForge.Proofs.Spell.Insertions
import VariantForge.Proofs.Spell.Recast
import VariantForge.Proofs.Spell.Truthful
import VariantForge.Proofs.Spell.Velocity
import VariantForge.Proofs.Spell.Verbatim
import VariantForge.Proofs.Text.Lowered
import VariantForge.Proofs.Text.Search
import VariantForge.Proofs.Text.Separators
import VariantForge.Proofs.Text.Shown
import VariantForge.Proofs.Text.Slugs
import VariantForge.Proofs.Text.Tails
import VariantForge.Proofs.Text.Units
import VariantForge.Proofs.Text.Utf8
import VariantForge.Proofs.Toml.Ordered
import VariantForge.Proofs.Toolchain.Containment
import VariantForge.Proofs.Toolchain.Delivery
import VariantForge.Proofs.Toolchain.Housing
import VariantForge.Proofs.Toolchain.Installation
import VariantForge.Proofs.Toolchain.Limits
import VariantForge.Proofs.Toolchain.MachineFiles
import VariantForge.Proofs.Toolchain.Repair
import VariantForge.Proofs.Toolchain.Rooted
import VariantForge.Proofs.Toolchain.Unpacking
import VariantForge.Proofs.Trace
import VariantForge.Proofs.Variant.Confinement
import VariantForge.Proofs.Variant.Definitions
import VariantForge.Proofs.Variant.Requests
import VariantForge.Retry
import VariantForge.Run.Forge
import VariantForge.Run.Record
import VariantForge.Run.Report
import VariantForge.Settings.Basic
import VariantForge.Settings.Issue
import VariantForge.Settings.Layers
import VariantForge.Settings.Load
import VariantForge.Settings.Record
import VariantForge.Settings.Schema
import VariantForge.Settings.Shape
import VariantForge.Shell.Arithmetic
import VariantForge.Shell.Builtin
import VariantForge.Shell.Condition
import VariantForge.Shell.Draft
import VariantForge.Shell.Escape
import VariantForge.Shell.Expansion
import VariantForge.Shell.Fault
import VariantForge.Shell.Field
import VariantForge.Shell.Format
import VariantForge.Shell.Glob
import VariantForge.Shell.Integer
import VariantForge.Shell.Machine
import VariantForge.Shell.Printing
import VariantForge.Shell.Program
import VariantForge.Shell.Reader
import VariantForge.Shell.Run
import VariantForge.Shell.Script
import VariantForge.Shell.Session
import VariantForge.Shell.Signal
import VariantForge.Shell.Token
import VariantForge.Shell.Tool.Basic
import VariantForge.Source.Acquire
import VariantForge.Source.Git
import VariantForge.Source.WorkingCopy
import VariantForge.Spell.Cast
import VariantForge.Spell.Catalog
import VariantForge.Spell.Rule
import VariantForge.Text.Basic
import VariantForge.Text.LowerCase
import VariantForge.Text.Quoted
import VariantForge.Text.Units
import VariantForge.Text.Utf8
import VariantForge.Toml.Document
import VariantForge.Toml.Reader
import VariantForge.Toml.Token
import VariantForge.Toolchain.Download
import VariantForge.Toolchain.Profile
import VariantForge.Toolchain.Resolve
import VariantForge.Toolchain.Unpack
import VariantForge.Unicode.CaseRuns
import VariantForge.Unicode.Categories
import VariantForge.Unicode.Letters
import VariantForge.Unicode.Properties
import VariantForge.Unicode.Ranges
import VariantForge.Unicode.Scripts
import VariantForge.Variant.Registry
import VariantForge.World
