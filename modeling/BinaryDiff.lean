import BinaryDiff.Config.Context
import BinaryDiff.Cursor.Session
import BinaryDiff.Main
import BinaryDiff.Report.Digest
import BinaryDiff.Proofs.Cursor.Rows
import BinaryDiff.Proofs.Delivery.Calls
import BinaryDiff.Proofs.Delivery.Reading
import BinaryDiff.Proofs.Delivery.EndToEnd
import BinaryDiff.Proofs.Store.Failures
import BinaryDiff.Proofs.Delivery.Blame
import BinaryDiff.Proofs.Delivery.Taxonomy
import BinaryDiff.Proofs.Cursor.History
import BinaryDiff.Proofs.Cursor.Sessions
import BinaryDiff.Proofs.Cursor.Containment
import BinaryDiff.Proofs.Delivery.Pulling
import BinaryDiff.Proofs.Cursor.Deliveries
import BinaryDiff.Proofs.Cursor.Protocol
import BinaryDiff.Proofs.Store.Records
import BinaryDiff.Proofs.Delivery.Checking
import BinaryDiff.Log.Binding
import BinaryDiff.Proofs.Delivery.Stages
import BinaryDiff.Proofs.Delivery.Independence
import BinaryDiff.Proofs.Config.Placeholders
import BinaryDiff.Proofs.Config.Walking
import BinaryDiff.Proofs.Text.Addresses
import BinaryDiff.Proofs.Json.RoundTrip
import BinaryDiff.Proofs.Display.Escaping
import BinaryDiff.Proofs.Display.Cutting
import BinaryDiff.Proofs.Display.Cells
import BinaryDiff.Proofs.Display.Wrapping
import BinaryDiff.Proofs.Display.Widths
import BinaryDiff.Proofs.Display.Tables
import BinaryDiff.Proofs.Display.Literal
import BinaryDiff.Proofs.Display.Printing
import BinaryDiff.Proofs.Delivery.Delivered
import BinaryDiff.Proofs.Command.Matches
import BinaryDiff.Proofs.Command.Inspect
import BinaryDiff.Proofs.Report.ReadBack
import BinaryDiff.Proofs.Delivery.Widening
import BinaryDiff.Proofs.Config.Sharing
import BinaryDiff.Proofs.Delivery.Bounds
import BinaryDiff.Proofs.Config.Bounds
import BinaryDiff.Proofs.Cursor.StoredIntegers
import BinaryDiff.Proofs.Store.Ordering
import BinaryDiff.Proofs.Store.Extraction
import BinaryDiff.Proofs.Delivery.Collecting
import BinaryDiff.Proofs.Command.Limits
import BinaryDiff.Proofs.Config.Rejecting
import BinaryDiff.Proofs.Delivery.Spelling
import BinaryDiff.Proofs.Files.Replacing
import BinaryDiff.Proofs.Config.Priority
import BinaryDiff.Proofs.Report.Tallies
import BinaryDiff.Proofs.Report.Digests
import BinaryDiff.Log.Root
import BinaryDiff.Proofs.Log.SettingUp
import BinaryDiff.Proofs.Command.NamedPairs
import BinaryDiff.Proofs.Text.LetterCase
import BinaryDiff.Proofs.Text.Labels
