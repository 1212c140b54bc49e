import ScriptCheck.Main
import ScriptCheck.Proofs.Completeness.Programs
import ScriptCheck.Proofs.Decoding
import ScriptCheck.Proofs.FirstError.Earliest
import ScriptCheck.Proofs.Labels
import ScriptCheck.Proofs.Order.Diagnostics
import ScriptCheck.Proofs.Recovery.Bodies
import ScriptCheck.Proofs.Recovery.Lines
import ScriptCheck.Proofs.Relaxing
import ScriptCheck.Proofs.Scanner.Listings
import ScriptCheck.Proofs.Scanner.Tiling
import ScriptCheck.Proofs.SideBySide.Appending
import ScriptCheck.Proofs.SideBySide.Layout
import ScriptCheck.Proofs.SideBySide.Trivia
import ScriptCheck.Proofs.Soundness.Programs
import ScriptCheck.Proofs.Trees.Depth
import ScriptCheck.Proofs.Trees.Literals
import ScriptCheck.Proofs.Scanner.Classes
import ScriptCheck.Proofs.Scanner.Counts
import ScriptCheck.Proofs.Scanner.NormalForm
import ScriptCheck.Proofs.Scanner.WholeLines
import ScriptCheck.Proofs.Scanner.Words
import ScriptCheck.Proofs.Trees.Headings
import ScriptCheck.Proofs.Trees.Printing
import ScriptCheck.Proofs.Runs
import ScriptCheck.Proofs.TokenListing
