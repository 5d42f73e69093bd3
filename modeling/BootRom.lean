import BootRom.Address
import BootRom.Bytes
import BootRom.Command.Directive
import BootRom.Command.Hex
import BootRom.Command.LogFilter
import BootRom.Command.Options.Basic
import BootRom.Command.Options.Parser
import BootRom.Command.Pattern.Bracketed
import BootRom.Command.Pattern.Escape
import BootRom.Command.Pattern.Group
import BootRom.Command.Pattern.Height
import BootRom.Command.Pattern.WellFormed
import BootRom.Command.Tool
import BootRom.Error
import BootRom.Event
import BootRom.Format.Alignment
import BootRom.Format.BigEndian
import BootRom.Format.Footer
import BootRom.Format.Header
import BootRom.Format.Name
import BootRom.Format.Record
import BootRom.Main
import BootRom.Memory.Backing
import BootRom.Memory.Directory
import BootRom.Memory.Locate
import BootRom.Memory.Range
import BootRom.Memory.Window
import BootRom.Output.Script
import BootRom.Output.Scripted
import BootRom.Output.StandardOutput
import BootRom.Output.Writer
import BootRom.Proofs.Account
import BootRom.Proofs.Admission
import BootRom.Proofs.Boundaries
import BootRom.Proofs.Chain
import BootRom.Proofs.Coherence
import BootRom.Proofs.CommandLines
import BootRom.Proofs.Conversation
import BootRom.Proofs.Faults
import BootRom.Proofs.FullDevice
import BootRom.Proofs.Geometry
import BootRom.Proofs.Grammar
import BootRom.Proofs.Guarded
import BootRom.Proofs.Images
import BootRom.Proofs.Interchange
import BootRom.Proofs.LineBuffer
import BootRom.Proofs.Locating
import BootRom.Proofs.Moved
import BootRom.Proofs.Names
import BootRom.Proofs.Numerals
import BootRom.Proofs.Offers
import BootRom.Proofs.Opening
import BootRom.Proofs.Payloads
import BootRom.Proofs.Placement
import BootRom.Proofs.Progress
import BootRom.Proofs.Reachable
import BootRom.Proofs.Readback
import BootRom.Proofs.Reads
import BootRom.Proofs.Reference
import BootRom.Proofs.Release
import BootRom.Proofs.Reports
import BootRom.Proofs.RoundTrip
import BootRom.Proofs.Rounding
import BootRom.Proofs.Safety
import BootRom.Proofs.Scripts
import BootRom.Proofs.Spacing
import BootRom.Proofs.ToolOutput
import BootRom.Proofs.Unread
import BootRom.Proofs.Windows
import BootRom.Proofs.Wording
import BootRom.Selection
import BootRom.Table.Basic
import BootRom.Table.Course
import BootRom.Table.Run
import BootRom.Table.Walk
import BootRom.Text.Alphanumeric
import BootRom.Text.Blank
import BootRom.Text.Escaped
import BootRom.Text.Numeral
import BootRom.Text.Quoted
import BootRom.Text.Ranges
import BootRom.Text.Utf8
import BootRom.Traced
