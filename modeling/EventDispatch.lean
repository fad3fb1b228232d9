import EventDispatch.Proofs.Delivery.Reference
import EventDispatch.Proofs.Failure.Guard
import EventDispatch.Proofs.Failure.Ledger
import EventDispatch.Script.Play
import EventDispatch.Settings.Load
import EventDispatch.Proofs.Failure.Accounting
import EventDispatch.Proofs.Registry.Identity
import EventDispatch.Proofs.Failure.FirstFailure
import EventDispatch.Proofs.Failure.Restraint
import EventDispatch.Proofs.Failure.Termination
import EventDispatch.Proofs.Failure.ReportLoop
import EventDispatch.Proofs.Failure.Registrations
import EventDispatch.Proofs.Registry.Resolution
import EventDispatch.Proofs.Event.Agreement
import EventDispatch.Proofs.Delivery.Calls
import EventDispatch.Proofs.Failure.Containment
import EventDispatch.Proofs.Failure.Isolation
import EventDispatch.Proofs.Failure.GuardLifetime
import EventDispatch.Proofs.Registry.Membership
import EventDispatch.Proofs.Failure.Undisturbed
import EventDispatch.Proofs.Failure.Abort
import EventDispatch.Proofs.Registry.Watching
import EventDispatch.Proofs.Registry.Admission
import EventDispatch.Proofs.Failure.Mismatch
import EventDispatch.Proofs.Failure.ReportCost
import EventDispatch.Proofs.Machine.Locality
import EventDispatch.Proofs.Machine.Mirror
import EventDispatch.Proofs.Machine.Independence
import EventDispatch.Proofs.Event.Chain
import EventDispatch.Proofs.Registry.Truncation
import EventDispatch.Proofs.Delivery.Upwards
import EventDispatch.Proofs.Machine.Effects
import EventDispatch.Proofs.Registry.Refusal
import EventDispatch.Proofs.Event.Tally
import EventDispatch.Proofs.Registry.Exchange
import EventDispatch.Proofs.Settings.RoundTrip
