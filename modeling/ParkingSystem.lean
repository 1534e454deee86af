import ParkingSystem.Lib.Runs
import ParkingSystem.SharedQueue
import ParkingSystem.SqliteDatabase
import ParkingSystem.StoreInvariant
import ParkingSystem.Ledger
import ParkingSystem.Lib.Flow
import ParkingSystem.System
import ParkingSystem.Pipeline
import ParkingSystem.Shutdown
import ParkingSystem.Delivery
import ParkingSystem.Restart
import ParkingSystem.CityIds
import ParkingSystem.StartSteps
import ParkingSystem.Independence
import ParkingSystem.SharedQueueProcesses
import ParkingSystem.Lifecycle
import ParkingSystem.PidFile
import ParkingSystem.SegmentRemoval
import ParkingSystem.MutualWait
import ParkingSystem.RequestOutcome
import ParkingSystem.Lib.CString
import ParkingSystem.RequestFrame
import ParkingSystem.IpcLayout
import ParkingSystem.Config
import ParkingSystem.QueueHandshake
import ParkingSystem.SharedConfiguration
import ParkingSystem.Lib.Sync
import ParkingSystem.NamedSemaphore
import ParkingSystem.WorkerThreads
import ParkingSystem.DatabaseThreads
import ParkingSystem.TcpServerThreads
import ParkingSystem.Wakeups
import ParkingSystem.ConfigInPlace
import ParkingSystem.ConfigGrammar
import ParkingSystem.IntegerSettings
import ParkingSystem.Tariff
import ParkingSystem.BbgClient
import ParkingSystem.Initialization
import ParkingSystem.Lib.Stdio
import ParkingSystem.PriceUpdater
import ParkingSystem.Lib.FileTable
import ParkingSystem.SelectLoop
import ParkingSystem.RequestStreams
import ParkingSystem.SyncObjects
import ParkingSystem.SyncFlags
import ParkingSystem.BbgProcesses
import ParkingSystem.GpsReads
import ParkingSystem.Lib.Occupancy
import ParkingSystem.Lib.Simulation
import ParkingSystem.LogStreams
import ParkingSystem.ParkingLot
import ParkingSystem.Service
import ParkingSystem.Durability
import ParkingSystem.SelectLoopRefinement
