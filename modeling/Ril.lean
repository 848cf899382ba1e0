import Ril.Samsung.Proofs.Conservation
import Ril.Samsung.Spec.Events
import Ril.Samsung.Spec.Seqs
import Ril.Samsung.Proofs.SeqSharing
import Ril.Samsung.Proofs.Wakeups
import Ril.Samsung.ClientThreads
import Ril.Lib.StateProgram
import Ril.Samsung.Spec.Connections
import Ril.Samsung.Proofs.Release
import Ril.Libril.Commands
import Ril.Ipc.Files
import Ril.Ipc.Rfs
import Ril.Ipc.NvDataLoad
import Ril.Ipc.NvDataKilled
import Ril.Ipc.NvDataStore
import Ril.Ipc.NvReadItem
import Ril.Ipc.HexCodec
import Ril.Ipc.PayloadExtraction
import Ril.Samsung.MessageReaders
import Ril.Samsung.Proofs.MessageBounds
import Ril.Samsung.Proofs.MessageExtraction
import Ril.Lib.EntryWalk
import Ril.Lib.ChunkedUpload
import Ril.Lib.Buffer
import Ril.Lib.CLayout
import Ril.Ipc.Xmm626Boot
import Ril.Ipc.Xmm626MipiAck
import Ril.Ipc.Xmm626Upload
import Ril.Ipc.SmsContainers
import Ril.Ipc.NvDataFaults
import Ril.Ipc.FileFaults
import Ril.Lib.Socket
import Ril.Ipc.ModemBoot
import Ril.Lib.Transfer
import Ril.Lib.Reading
import Ril.Lib.Memory
import Ril.Librilutils.RecordStream
import Ril.Librilutils.RecordBuffer
import Ril.Librilutils.RecordRuns
import Ril.Lib.CString
import Ril.Ipc.Xmm626
import Ril.Ipc.Xmm626Framing
import Ril.Ipc.AriesAgreement
import Ril.Srs.Transport
import Ril.Ipc.WakeLocks
import Ril.Srs.Loop
import Ril.Srs.ClientPhases
import Ril.Srs.ClientSteps
import Ril.Srs.Isolation
import Ril.Srs.WakeBalance
import Ril.Libril.Answers
import Ril.Libril.Dispatch
import Ril.Libril.DispatchOnce
import Ril.Libril.DispatchRuns
import Ril.Samsung.Proofs.Targets
import Ril.Samsung.Proofs.PinRetries
import Ril.Samsung.Proofs.ExpectationRuns
import Ril.Samsung.Proofs.SmsPdus
import Ril.Lib.EventFd
import Ril.Samsung.ControlEvents
import Ril.Samsung.Proofs.RequestLists
import Ril.Samsung.Proofs.GenericAnswers
import Ril.Samsung.Proofs.OperatorLookup
import Ril.Samsung.Proofs.RsimAccess
import Ril.Samsung.Proofs.CachedAnswers
import Ril.Lib.Slots
import Ril.Libril.Sockets
import Ril.Libril.SocketRuns
import Ril.Libril.UnsolTable
import Ril.Libril.UnsolResponses
import Ril.Libril.NitzTimes
import Ril.Libril.WakeTimeouts
import Ril.Libril.HardwareConfigs
import Ril.Libril.SolicitedFrames
import Ril.Libril.DataCallList
import Ril.Lib.PriorityQueue
import Ril.Mock.Worker
import Ril.Mock.CallControl
import Ril.Mock.WorkerRuns
import Ril.Mock.WorkerStops
import Ril.Samsung.Proofs.SimStatus
import Ril.Samsung.Proofs.Dtmf
import Ril.Samsung.Proofs.DtmfSends
import Ril.Samsung.Proofs.DtmfRuns
import Ril.Samsung.Proofs.CidAllocation
import Ril.Samsung.Proofs.RequestLoop
import Ril.Samsung.Proofs.Serialised
import Ril.Samsung.Proofs.SmsPaths
import Ril.Samsung.Proofs.PayloadCopies
import Ril.Samsung.Proofs.ConnectionSlots
import Ril.Samsung.Proofs.StaleRecords
import Ril.Samsung.Proofs.PinAnswers
import Ril.Reference.AtChannel
import Ril.Reference.Readline
import Ril.Reference.ReadlineRuns
import Ril.Reference.AtCommandRuns
import Ril.Reference.SafeAnswers
import Ril.Reference.CompletedOnce
import Ril.Reference.ModemMode
import Ril.Reference.AtThreads
import Ril.Reference.AtFields
import Ril.Reference.DataCallJoin
import Ril.Libril.EventLists
import Ril.Libril.EventQueues
import Ril.Libril.EventWatch
import Ril.Libril.EventRuns
import Ril.Libril.EventTable
import Ril.Libril.CommandBlocks
import Ril.Ipc.ChunkedFiles
import Ril.Mock.DelayedChanges
import Ril.Samsung.Proofs.RequestDataStore
import Ril.Samsung.Proofs.SmsReports
import Ril.Mock.ControlFraming
import Ril.Mock.AnswerLaw
import Ril.Libril.CommandSessions
