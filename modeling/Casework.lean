import Casework.Bus
import Casework.Document.Definition
import Casework.Document.Execution
import Casework.Main
import Casework.Proofs.Agreement
import Casework.Proofs.Audits
import Casework.Proofs.Belonging
import Casework.Proofs.CancelledInstances
import Casework.Proofs.CompleteInstances
import Casework.Proofs.CompletedTasks
import Casework.Proofs.Dates
import Casework.Proofs.Demonstration
import Casework.Proofs.Documents
import Casework.Proofs.FailedRequests
import Casework.Proofs.FailedStarts
import Casework.Proofs.Filing
import Casework.Proofs.FinishedTasks
import Casework.Proofs.FormEffects
import Casework.Proofs.ForwardRecords
import Casework.Proofs.FullScans
import Casework.Proofs.Independence
import Casework.Proofs.LoggedOperations
import Casework.Proofs.OneExecution
import Casework.Proofs.OpenTasks
import Casework.Proofs.OperationEffects
import Casework.Proofs.PageArithmetic
import Casework.Proofs.RecordDocuments
import Casework.Proofs.RecordsAtRest
import Casework.Proofs.References
import Casework.Proofs.Regions
import Casework.Proofs.RepeatedOperations
import Casework.Proofs.Repetition
import Casework.Proofs.Requests
import Casework.Proofs.RestoredStatuses
import Casework.Proofs.SeenRecords
import Casework.Proofs.SentNotices
import Casework.Proofs.Separation
import Casework.Proofs.Slots
import Casework.Proofs.StaleRequests
import Casework.Proofs.Starts
import Casework.Proofs.Statuses
import Casework.Proofs.Stepping
import Casework.Proofs.StoredChanges
import Casework.Proofs.TaskSets
import Casework.Proofs.Templates
import Casework.Proofs.Texts
import Casework.Proofs.UpdateResults
import Casework.Proofs.Versions
