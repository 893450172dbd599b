import MmuFirmware.Protocol.ResponseCorruption
import MmuFirmware.App.Exclusion
import MmuFirmware.App.FilamentRecord
import MmuFirmware.App.Interruptions
import MmuFirmware.App.Motions
import MmuFirmware.App.Responses
import MmuFirmware.App.AwaitedMoves
import MmuFirmware.App.LedPairs
import MmuFirmware.App.SlotTables
import MmuFirmware.App.EjectParking
import MmuFirmware.App.TruthfulAnswers
import MmuFirmware.Modules.StorageRefinement
import MmuFirmware.Hal.Usart
import MmuFirmware.Modules.Junctions
import MmuFirmware.Modules.Quantum
import MmuFirmware.Logic.FeedPolls
import MmuFirmware.App.CutSpeed
import MmuFirmware.App.PlannedRates
import MmuFirmware.Modules.StablePresses
import MmuFirmware.Modules.UserEvents
import MmuFirmware.Modules.EvenWear
import MmuFirmware.Modules.Math
import MmuFirmware.Logic.HwTest
import MmuFirmware.App.ErrorCodes
import MmuFirmware.App.Standstill
import MmuFirmware.App.Engagement
import MmuFirmware.Modules.MotionRefinement
import MmuFirmware.Hal.DriverSetup
import MmuFirmware.Hal.StallGuard
import MmuFirmware.Modules.PlanningInterrupted
import MmuFirmware.Modules.Outputs
import MmuFirmware.Hal.UsartReceiver
import MmuFirmware.Modules.Arrival
import MmuFirmware.Hal.WriteToUsart
import MmuFirmware.App.Settling
import MmuFirmware.App.Settings
import MmuFirmware.Logic.Panics
