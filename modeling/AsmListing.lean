import AsmListing.Main
import AsmListing.Viewer.Window
import AsmListing.Proofs.Args.Erasure
import AsmListing.Proofs.Args.Registers
import AsmListing.Proofs.Args.Scanned
import AsmListing.Proofs.Document.Case
import AsmListing.Proofs.Document.Joining
import AsmListing.Proofs.Document.Reprint
import AsmListing.Proofs.Document.Restyling
import AsmListing.Proofs.Document.Shape
import AsmListing.Proofs.Document.Success
import AsmListing.Proofs.Record.Spelling
import AsmListing.Proofs.Record.Written
import AsmListing.Proofs.Viewer.Sync
import AsmListing.Proofs.Pattern.Names
import AsmListing.Proofs.Architecture.RegisterNames
import AsmListing.Proofs.Args.NamedRegisters
import AsmListing.Proofs.Pattern.GroupNames
import AsmListing.Proofs.Args.Display
import AsmListing.Proofs.Literal.Bare
import AsmListing.Proofs.Args.Resolved
import AsmListing.Proofs.Architecture.Places
import AsmListing.Proofs.Architecture.Building
import AsmListing.Proofs.Viewer.Columns
import AsmListing.Proofs.Viewer.Showing
import AsmListing.Proofs.Viewer.Commuting
import AsmListing.Proofs.Architecture.Selecting
import AsmListing.Proofs.Text.Utf8
import AsmListing.Proofs.Viewer.Opening
import AsmListing.Proofs.Viewer.Naming
