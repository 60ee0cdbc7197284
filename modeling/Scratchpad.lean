import Scratchpad.Exchange
import Scratchpad.Main
import Scratchpad.Proofs.Batch
import Scratchpad.Proofs.CaptureLoop
import Scratchpad.Proofs.CatalogTransfer
import Scratchpad.Proofs.Changes
import Scratchpad.Proofs.ClientRun
import Scratchpad.Proofs.Command
import Scratchpad.Proofs.Draft
import Scratchpad.Proofs.Drawing
import Scratchpad.Proofs.Eligibility
import Scratchpad.Proofs.Evaluation
import Scratchpad.Proofs.Failures
import Scratchpad.Proofs.Forwarder
import Scratchpad.Proofs.Loading
import Scratchpad.Proofs.Policies
import Scratchpad.Proofs.ResultPane
import Scratchpad.Proofs.Selection
import Scratchpad.Proofs.Separation
import Scratchpad.Proofs.SettingsAtomic
import Scratchpad.Proofs.SettingsInit
import Scratchpad.Proofs.Settlement
import Scratchpad.Shell.Machine
