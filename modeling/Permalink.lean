import Permalink.Main
import Permalink.Proofs.Command.Listing
import Permalink.Proofs.Command.Output
import Permalink.Proofs.Origin.RoundTrip
import Permalink.Proofs.Preparation
import Permalink.Proofs.Recognizer.Dispatch
import Permalink.Proofs.Recognizer.Ignored
import Permalink.Proofs.Recognizer.Order
import Permalink.Proofs.Report.Lines
import Permalink.Proofs.Settings.Grammar
import Permalink.Proofs.Wrapper.Nested
import Permalink.Proofs.Wrapper.Order
import Permalink.Proofs.YouTube.Forms
