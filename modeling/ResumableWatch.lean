import ResumableWatch.Main
import ResumableWatch.Proofs.Fiber.Terms
import ResumableWatch.Proofs.World.Change
import ResumableWatch.Proofs.Stream.Steady
import ResumableWatch.Proofs.Informer.Backoff
import ResumableWatch.Proofs.Fiber.Courses
import ResumableWatch.Proofs.Fiber.Interplay
import ResumableWatch.Proofs.Stream.Observation
import ResumableWatch.Proofs.Informer.Calls
import ResumableWatch.Proofs.Informer.Runs
import ResumableWatch.Proofs.Stream.Items
import ResumableWatch.Proofs.Stream.Reading
import ResumableWatch.Proofs.Stream.Transparency
import ResumableWatch.Proofs.Version.Merging
import ResumableWatch.Proofs.Event.Frames
import ResumableWatch.Proofs.Stream.Body
import ResumableWatch.Proofs.Stream.Closing
import ResumableWatch.Proofs.Stream.Versions
import ResumableWatch.Proofs.Supervisor.Responses
import ResumableWatch.Proofs.Supervisor.Delivery
import ResumableWatch.Proofs.Supervisor.Records
import ResumableWatch.Proofs.Supervisor.Attempts
import ResumableWatch.Proofs.Supervisor.Influence
import ResumableWatch.Proofs.Informer.Phases
import ResumableWatch.Proofs.Informer.Accounting
import ResumableWatch.Proofs.Application.Shutdown
import ResumableWatch.Proofs.Application.Requests
import ResumableWatch.Proofs.Application.Reporting
import ResumableWatch.Proofs.Event.Wire
import ResumableWatch.Proofs.Stream.Framing
import ResumableWatch.Proofs.Informer.Decoding
import ResumableWatch.Proofs.CommandLine.Overriding
