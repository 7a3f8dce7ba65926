import PongHal.Machine
import PongHal.WaitLoop
import PongHal.TaggedWord
import PongHal.BytePipe
import PongHal.DeferredView
import PongHal.LockoutTracker
import PongHal.LockoutHistory
import PongHal.Legacy2Aidl
import PongHal.Lockout
import PongHal.Session
import PongHal.TokenTranslation
import PongHal.SessionEffects
import PongHal.SessionRun
import PongHal.SessionLockout
import PongHal.FingerprintHal
import PongHal.ThreadedHal
import PongHal.CrossSession
import PongHal.Enumeration
import PongHal.WorkerQueue
import PongHal.SessionClosed
import PongHal.Illumination
import PongHal.UiGate
import PongHal.SensorProps
import PongHal.OperationEnds
import PongHal.CancellationSignal
import PongHal.OperationAnswers
import PongHal.SensorEvents
import PongHal.SensorRouting
import PongHal.ReportedSensors
import PongHal.SubHalConfig
import PongHal.SharedWakelock
import PongHal.HalProxy
import PongHal.EventStream
import PongHal.PendingQueue
import PongHal.PendingWrites
import PongHal.WakelockHeld
import PongHal.WakelockAccount
import PongHal.WakelockLeak
import PongHal.PollSensor
import PongHal.ScanInts
import PongHal.FpState
import PongHal.OneShotSensor
import PongHal.SensorCalls
import PongHal.GestureNode
import PongHal.WaitPipe
import PongHal.SensorThread
import PongHal.SensorDestructor
import PongHal.MultiHal
import PongHal.WakelockLeases
import PongHal.ClientStream
import PongHal.StopThreads
import PongHal.OperationModes
import PongHal.DynamicSensors
import PongHal.DirectChannel
import PongHal.SensorTypes
import PongHal.PickUpFilter
import PongHal.PublishedList
import PongHal.SubHalSystem
import PongHal.SubHalPosts
import PongHal.GestureDelivery
import PongHal.LtpoControl
import PongHal.TargetRate
import PongHal.PanelRate
import PongHal.TouchBoost
import PongHal.ConcurrentCalls
import PongHal.Vibrator
import PongHal.RapidPerform
import PongHal.StreamAmplitude
import PongHal.Completions
import PongHal.ThreadedHal
