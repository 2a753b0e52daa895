import LicenseGate.Main
import LicenseGate.Proofs.AcceptedMuting
import LicenseGate.Proofs.LatchHistory
import LicenseGate.Proofs.LicenseDecision
import LicenseGate.Proofs.MutingOrder
import LicenseGate.Proofs.StreamLaw
import LicenseGate.Proofs.Untouched
import LicenseGate.Proofs.EnvelopeShape
import LicenseGate.Proofs.SampleValue
import LicenseGate.Proofs.GatedBlock
import LicenseGate.Proofs.Loudness
import LicenseGate.Proofs.Regating
import LicenseGate.Proofs.SimulationReport
import LicenseGate.Proofs.ArrayReading
import LicenseGate.Proofs.CapabilityEvaluation
import LicenseGate.Proofs.HostExchange
import LicenseGate.Proofs.Bookkeeping
import LicenseGate.Proofs.WholeRates
import LicenseGate.Proofs.Leniency
import LicenseGate.Proofs.FirstSilent
import LicenseGate.Proofs.WrittenSettings
