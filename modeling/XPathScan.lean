import XPathScan.Cursor
import XPathScan.Main
import XPathScan.Proofs.Scanner.Tiling
import XPathScan.Proofs.Scanner.Munch
import XPathScan.Proofs.Scanner.Lookback
import XPathScan.Proofs.Scanner.Locality
import XPathScan.Proofs.Scanner.Stability
import XPathScan.Proofs.Scanner.Spacing
import XPathScan.Proofs.Scanner.Validity
import XPathScan.Proofs.Scanner.Lookahead
import XPathScan.Proofs.Scanner.Recovery
import XPathScan.Proofs.Scanner.Complaints
import XPathScan.Proofs.Listing.Json
import XPathScan.Proofs.Command.Agreement
import XPathScan.Proofs.Checked.Session
import XPathScan.Proofs.Checked.Fields
import XPathScan.Proofs.Diagnostic.Zones
import XPathScan.Proofs.Text.Unquoted
import XPathScan.Proofs.Listing.Plain
import XPathScan.Proofs.Command.Steps
import XPathScan.Proofs.Scanner.Pending
import XPathScan.Proofs.Cursor.Refinement
import XPathScan.Proofs.Checked.Masking
import XPathScan.Proofs.Command.Expression
import XPathScan.Proofs.Command.Phases
import XPathScan.Proofs.Checked.Walk
