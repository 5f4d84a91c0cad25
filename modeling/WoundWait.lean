import WoundWait.Main
import WoundWait.Stored
import WoundWait.System.Event
import WoundWait.Worker.Event
import WoundWait.Worker.Workload
import WoundWait.Proofs.RecordDisposition
import WoundWait.Proofs.LockOccupancy
import WoundWait.Proofs.EntrySeniority
import WoundWait.Proofs.LockWakeUps
import WoundWait.Proofs.CallAnswers
import WoundWait.Proofs.OperationReplay
import WoundWait.Proofs.RecordIsolation
import WoundWait.Proofs.AttemptValidation
import WoundWait.Proofs.GroupExits
import WoundWait.Simulation.Event
import WoundWait.Proofs.PromptSystem
import WoundWait.Proofs.CallerKnowledge
import WoundWait.Proofs.WorkerViews
import WoundWait.Proofs.WorkerPool
import WoundWait.Proofs.WorkerMoves
import WoundWait.Proofs.RecordBalance
import WoundWait.Proofs.SimulationAccounting
import WoundWait.Proofs.WorkerTurns
import WoundWait.Proofs.SimulationReports
import WoundWait.Proofs.WorkerChronicle
import WoundWait.Proofs.EntryRefusals
import WoundWait.Proofs.WorkerReadiness
import WoundWait.Proofs.DeferredRequests
import WoundWait.Proofs.RequestCoalescing
import WoundWait.Proofs.SlotLock
import WoundWait.Proofs.SlotSystem
import WoundWait.Proofs.SingleSlotEquivalence
import WoundWait.Proofs.QueueRejections
import WoundWait.Proofs.WorkerStops
import WoundWait.Proofs.FlushAnswers
import WoundWait.Proofs.CommitDecisions
import WoundWait.Proofs.TaskWakeUps
import WoundWait.Proofs.WorkerRuns
import WoundWait.Proofs.TurnLoad
import WoundWait.Proofs.MoveBudget
import WoundWait.Proofs.TaskPlaces
import WoundWait.Proofs.TaskTurns
import WoundWait.Proofs.TaskLiveness
import WoundWait.Proofs.SimulationRank
import WoundWait.Proofs.LockIdling
import WoundWait.Proofs.SimulationStart
import WoundWait.Proofs.SimulationTermination
import WoundWait.Proofs.TickPartition
import WoundWait.Proofs.RemovalReports
import WoundWait.Proofs.TickTurns
import WoundWait.Proofs.LookBounds
import WoundWait.Proofs.AbandonedRecords
import WoundWait.Proofs.RetryPauses
import WoundWait.Proofs.ConflictFreeWorker
import WoundWait.Proofs.LoneWorkerCompletion
import WoundWait.Proofs.RecordDeadlines
import WoundWait.Proofs.GateBackpressure
import WoundWait.Proofs.CallerCounts
import WoundWait.Proofs.AccessCounting
import WoundWait.Proofs.ReaderSharing
import WoundWait.Proofs.StartTimeOrder
import WoundWait.Proofs.LockSnapshots
import WoundWait.Proofs.TomlRoundTrip
import WoundWait.Proofs.LayeredOptions
import WoundWait.Proofs.DurationWrapping
import WoundWait.Proofs.ConflictScanOrder
