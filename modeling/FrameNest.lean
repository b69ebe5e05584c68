import FrameNest.Analysis.StuckRuns
import FrameNest.Analysis.Supersession
import FrameNest.Backups.Readiness
import FrameNest.Backups.RecoverySafety
import FrameNest.Backups.Transfer
import FrameNest.Capture.Finished
import FrameNest.Deploy.Archives
import FrameNest.Deploy.ReleaseRuns
import FrameNest.Gallery.Inbox
import FrameNest.Library.Scanner
import FrameNest.Lifespan.Shutdown
import FrameNest.Metadata.AdminQueue
import FrameNest.Metadata.Readable
import FrameNest.Records.ForbiddenKeys
import FrameNest.Records.RoundTrip
import FrameNest.Removal.DerivedArtifacts
import FrameNest.Research.AccountingGate
import FrameNest.Research.Admission
import FrameNest.Research.ApprovedLimits
import FrameNest.Research.CheckpointSize
import FrameNest.Research.LedgerRuns
import FrameNest.Research.RemoteHandles
import FrameNest.Research.TerminalStates
import FrameNest.Sidecar.Answers
import FrameNest.Uploads.DuplicateUniqueness
import FrameNest.Uploads.ExactlyOnceCatalog
import FrameNest.Uploads.MediaValidation
import FrameNest.Uploads.Residue
import FrameNest.Uploads.SessionLocks
import FrameNest.Uploads.ValidationDrain
import FrameNest.X.PhotoTransfer
import FrameNest.X.Retries
import FrameNest.X.Saves
import FrameNest.YouTube.Urls
