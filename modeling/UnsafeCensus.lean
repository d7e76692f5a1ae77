import UnsafeCensus.Main
import UnsafeCensus.Outline.Listing
import UnsafeCensus.Proofs.Census.Bounds
import UnsafeCensus.Proofs.Census.Document
import UnsafeCensus.Proofs.Census.Endpoints
import UnsafeCensus.Proofs.Census.Following
import UnsafeCensus.Proofs.Census.Gate
import UnsafeCensus.Proofs.Census.LineEnds
import UnsafeCensus.Proofs.Census.Listed
import UnsafeCensus.Proofs.Census.Opacity
import UnsafeCensus.Proofs.Census.Outcome
import UnsafeCensus.Proofs.Census.Placement
import UnsafeCensus.Proofs.Census.Verdict
import UnsafeCensus.Proofs.Console.Commands
import UnsafeCensus.Proofs.Console.Effective
import UnsafeCensus.Proofs.Console.Surveying
import UnsafeCensus.Proofs.Crate.Faults
import UnsafeCensus.Proofs.Crate.Lookup
import UnsafeCensus.Proofs.Crate.Nesting
import UnsafeCensus.Proofs.Crate.Outlining
import UnsafeCensus.Proofs.Crate.PathAttribute
import UnsafeCensus.Proofs.Crate.Reach
import UnsafeCensus.Proofs.Crate.Termination
import UnsafeCensus.Proofs.Outline.Collecting
import UnsafeCensus.Proofs.Settings.Initialising
import UnsafeCensus.Proofs.Source.Positions
