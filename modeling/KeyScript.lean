import KeyScript.Main
import KeyScript.Proofs.Effect
import KeyScript.Proofs.Bounds
import KeyScript.Proofs.Surviving
import KeyScript.Proofs.Retained
import KeyScript.Proofs.Operations
import KeyScript.Proofs.Reversal
import KeyScript.Proofs.ZeroCount
import KeyScript.Proofs.Collapse
import KeyScript.Proofs.Ample
import KeyScript.Proofs.Phrase
import KeyScript.Proofs.Reread
import KeyScript.Proofs.Replay
import KeyScript.Proofs.Joined
import KeyScript.Proofs.FirstFault
import KeyScript.Proofs.Grammar
import KeyScript.Proofs.Dangling
import KeyScript.Proofs.Additive
import KeyScript.Proofs.Provenance
import KeyScript.Proofs.RoundTrip
import KeyScript.Proofs.Stages
import KeyScript.Proofs.LineEnd
import KeyScript.Proofs.Override
import KeyScript.Proofs.Documents
import KeyScript.Proofs.Journal
import KeyScript.Proofs.Renaming
import KeyScript.Proofs.Removal
import KeyScript.Proofs.Printout
import KeyScript.Proofs.Opposite
import KeyScript.Proofs.Search
import KeyScript.Proofs.DigitRun
import KeyScript.Proofs.Drafts
import KeyScript.Proofs.Options
