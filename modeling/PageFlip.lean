import PageFlip.Config.File
import PageFlip.Log.Basic
import PageFlip.Rehearsal.Performance
import PageFlip.Proofs.Agenda
import PageFlip.Proofs.Change
import PageFlip.Proofs.Registry
import PageFlip.Proofs.Accounting
import PageFlip.Proofs.Step
import PageFlip.Proofs.Run
import PageFlip.Proofs.Effects
import PageFlip.Proofs.Tracking
import PageFlip.Proofs.Completion
import PageFlip.Proofs.Ownership
import PageFlip.Proofs.Scanout
import PageFlip.Proofs.Numbering
import PageFlip.Proofs.Course
import PageFlip.Proofs.Deed
import PageFlip.Proofs.Passage
import PageFlip.Proofs.Disabled
import PageFlip.Proofs.Story
import PageFlip.Proofs.Levels
import PageFlip.Proofs.Calls
import PageFlip.Proofs.Channel
import PageFlip.Proofs.Faithful
import PageFlip.Proofs.Results
import PageFlip.Proofs.Slots
import PageFlip.Proofs.Conservation
import PageFlip.Proofs.Beside
import PageFlip.Proofs.Drains
import PageFlip.Proofs.Rollback
import PageFlip.Proofs.Custody
import PageFlip.Proofs.Observer
import PageFlip.Proofs.Continues
import PageFlip.Proofs.Reading
import PageFlip.Proofs.Marks
import PageFlip.Proofs.Errand
import PageFlip.Proofs.Submission
import PageFlip.Proofs.Backing
import PageFlip.Proofs.Aftermath
import PageFlip.Proofs.Unattended
import PageFlip.Proofs.Resolving
import PageFlip.Proofs.Aborting
import PageFlip.Proofs.Dates
import PageFlip.Proofs.Reordering
import PageFlip.Proofs.Sparing
import PageFlip.Proofs.Capacity
import PageFlip.Proofs.Lateness
import PageFlip.Proofs.Exhaustion
import PageFlip.Proofs.Patience
import PageFlip.Proofs.Framing
import PageFlip.Proofs.Interruption
import PageFlip.Proofs.Planned
import PageFlip.Proofs.FanOut
import PageFlip.Proofs.Trial
import PageFlip.Proofs.Allocation
import PageFlip.Proofs.Throughput
import PageFlip.Proofs.Refinement
import PageFlip.Proofs.Settings
