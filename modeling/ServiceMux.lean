import ServiceMux.Bench.Run
import ServiceMux.Connection.Event
import ServiceMux.HostAddress.Stored
import ServiceMux.Proofs.Abandonment
import ServiceMux.Proofs.Accounting
import ServiceMux.Proofs.Allocating
import ServiceMux.Proofs.Attempts
import ServiceMux.Proofs.BigEndian
import ServiceMux.Proofs.Bystanders
import ServiceMux.Proofs.Callers
import ServiceMux.Proofs.Cancelling
import ServiceMux.Proofs.Carrying
import ServiceMux.Proofs.Coherence
import ServiceMux.Proofs.Deciding
import ServiceMux.Proofs.Delivery
import ServiceMux.Proofs.Draining
import ServiceMux.Proofs.Encoding
import ServiceMux.Proofs.Enrolling
import ServiceMux.Proofs.Exchanges
import ServiceMux.Proofs.Filling
import ServiceMux.Proofs.Fragments
import ServiceMux.Proofs.Freezing
import ServiceMux.Proofs.Handing
import ServiceMux.Proofs.Handles
import ServiceMux.Proofs.History
import ServiceMux.Proofs.Inert
import ServiceMux.Proofs.Inheritance
import ServiceMux.Proofs.Inward
import ServiceMux.Proofs.Issuing
import ServiceMux.Proofs.LateReplies
import ServiceMux.Proofs.Leases
import ServiceMux.Proofs.LettingGo
import ServiceMux.Proofs.Notices
import ServiceMux.Proofs.Numerals
import ServiceMux.Proofs.Openings
import ServiceMux.Proofs.Outbound
import ServiceMux.Proofs.Outstanding
import ServiceMux.Proofs.Outward
import ServiceMux.Proofs.Precedence
import ServiceMux.Proofs.Provenance
import ServiceMux.Proofs.Reading
import ServiceMux.Proofs.Recycling
import ServiceMux.Proofs.Registering
import ServiceMux.Proofs.Reordering
import ServiceMux.Proofs.Replies
import ServiceMux.Proofs.Requests
import ServiceMux.Proofs.Retaining
import ServiceMux.Proofs.Routing
import ServiceMux.Proofs.Running
import ServiceMux.Proofs.Searching
import ServiceMux.Proofs.Sparing
import ServiceMux.Proofs.Spelling
import ServiceMux.Proofs.Standing
import ServiceMux.Proofs.Submission
import ServiceMux.Proofs.Teardown
import ServiceMux.Proofs.Tracking
import ServiceMux.Proofs.Traffic
import ServiceMux.Proofs.Unsent
import ServiceMux.Proofs.Verdicts
import ServiceMux.Proofs.Waiters
import ServiceMux.Service.Directory
