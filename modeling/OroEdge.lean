import OroEdge.Storage.Reconnect
import OroEdge.Jobs.Retention
import OroEdge.Scheduler.CronConfig
import OroEdge.Jobs.DailyCoverage
import OroEdge.Health.Monitor
import OroEdge.Jobs.Device
import OroEdge.Jobs.Care
import OroEdge.Jobs.Overdue
import OroEdge.Jobs.DueCoverage
import OroEdge.Jobs.ConfigReminders
import OroEdge.Health.BatteryAlert
import OroEdge.Executor.Video
import OroEdge.Executor.Privacy
import OroEdge.Executor.Continuous
import OroEdge.Executor.Finalisation
import OroEdge.Health.Watchdog
import OroEdge.Health.Stagnation
import OroEdge.Health.BatteryReading
import OroEdge.Health.Pump
import OroEdge.Health.PerEntity
import OroEdge.Health.LostWrites
import OroEdge.Wellbeing.Meals
import OroEdge.Wellbeing.Skipped
import OroEdge.Wellbeing.DailyTotal
import OroEdge.Wellbeing.Refill
import OroEdge.Health.Timeout
import OroEdge.Jobs.Episodes
import OroEdge.Jobs.Failures
import OroEdge.Wellbeing.Insights
import OroEdge.Executor.Treats
import OroEdge.Jobs.LatestFive
import OroEdge.Environment.DeadCamera
import OroEdge.Environment.LiveSensors
import OroEdge.Executor.Admission
import OroEdge.Executor.Responses
import OroEdge.Executor.AtMostOnce
import OroEdge.Executor.CommandIds
import OroEdge.Executor.LidOutcome
import OroEdge.Executor.TreatReport
import OroEdge.Executor.ManualMoves
import OroEdge.Executor.CameraRange
import OroEdge.Executor.SignalTypes
import OroEdge.Scheduler.JobExecutor
import OroEdge.Jobs.WeeklyTotals
import OroEdge.Environment.StoredOnce
import OroEdge.Wellbeing.WaterIntake
import OroEdge.Wellbeing.WaterWindows
import OroEdge.Wellbeing.Servings
import OroEdge.Executor.TwoLids
import OroEdge.Executor.AddressedLid
import OroEdge.Executor.ParseEscapes
import OroEdge.Health.SettingsMetadata
import OroEdge.Executor.CameraMirror
import OroEdge.Executor.LiveSessions
import OroEdge.Environment.FrameSize
import OroEdge.Scheduler.CronSpacing
import OroEdge.Jobs.WeeklyAverages
import OroEdge.Jobs.WorseReadings
import OroEdge.Jobs.Recurrence
import OroEdge.Environment.Brighter
import OroEdge.Executor.LoggedTimes
import OroEdge.Wellbeing.MealLength
import OroEdge.Sensors.Subscribers
import OroEdge.Storage.Statements
import OroEdge.Launcher.Restarts
import OroEdge.Health.Offline
import OroEdge.Health.Vocabulary
import OroEdge.Scheduler.Recovery
import OroEdge.Scheduler.ScheduledJobs
import OroEdge.Jobs.DataCleanup
import OroEdge.Jobs.Snapshots
import OroEdge.Executor.Actuation
import OroEdge.Executor.PanSweep
import OroEdge.Wellbeing.FoodAccount
import OroEdge.Wellbeing.MealLog
import OroEdge.Environment.LightAlert
import OroEdge.Environment.Excursions
import OroEdge.Jobs.NotifiedOnce
