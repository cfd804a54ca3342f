import DeviceLink.Main
import DeviceLink.Waiter
import DeviceLink.Dispatch.Schedule
import DeviceLink.Rehearsal.Stage
import DeviceLink.Rehearsal.Root
import DeviceLink.Rehearsal.ScriptedLink
import DeviceLink.Rehearsal.Transport
import DeviceLink.Proofs.Whereabouts
import DeviceLink.Proofs.Stage.Reentry
import DeviceLink.Proofs.Link.Places
import DeviceLink.Proofs.Link.Attribution
import DeviceLink.Proofs.Link.Connectivity
import DeviceLink.Proofs.Transport.Diary
import DeviceLink.Proofs.Transport.Usage
import DeviceLink.Proofs.Transport.Silence
import DeviceLink.Proofs.Transport.Farewell
import DeviceLink.Proofs.Transport.Ledger
import DeviceLink.Proofs.Transport.Bookkeeping
import DeviceLink.Proofs.Stage.Requests
import DeviceLink.Proofs.Link.Correlation
import DeviceLink.Proofs.Transport.Strays
import DeviceLink.Proofs.Stage.Parting
import DeviceLink.Proofs.Link.Leavings
import DeviceLink.Proofs.Dispatch.Calls
import DeviceLink.Proofs.Dispatch.Halting
import DeviceLink.Proofs.Dispatch.Panics
import DeviceLink.Proofs.Stage.Discipline
import DeviceLink.Proofs.Link.Publication
import DeviceLink.Proofs.Link.Reckoning
import DeviceLink.Proofs.Stage.Cell
import DeviceLink.Proofs.Link.Delivery
import DeviceLink.Proofs.Link.Episodes
import DeviceLink.Proofs.Link.Credentials
import DeviceLink.Proofs.Link.Secrets
import DeviceLink.Proofs.Transport.Conservation
import DeviceLink.Proofs.Link.Refusals
import DeviceLink.Proofs.Transport.Setback
import DeviceLink.Proofs.Link.Stuck
import DeviceLink.Proofs.Link.Classification
import DeviceLink.Proofs.Link.UserCode
import DeviceLink.Proofs.Dispatch.Cells
import DeviceLink.Proofs.Config.Acceptance
import DeviceLink.Proofs.Waiter
import DeviceLink.Proofs.Config.ThreadName
import DeviceLink.Proofs.Failure.Chain
import DeviceLink.Proofs.Failure.History
