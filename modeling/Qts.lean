import Qts.AggregationOrder
import Qts.BlockedCancels
import Qts.CalendarSpreads
import Qts.CallbackIntake
import Qts.CommissionSettlement
import Qts.ConsolidationComposition
import Qts.EquityDrawdowns
import Qts.EventStoreAgreement
import Qts.ExperimentRuns
import Qts.ExternalSorting
import Qts.FirstNoticeSchedules
import Qts.HonestFills
import Qts.IbkrOrderIds
import Qts.IndexedReading
import Qts.MarketOccupancy
import Qts.MessageLoss
import Qts.MigrationChains
import Qts.MissingMarks
import Qts.OscillatorRanges
import Qts.PartialExecutions
import Qts.PersistentDrift
import Qts.PortfolioExposure
import Qts.PortfolioSnapshots
import Qts.ReconciliationRuns
import Qts.ReplaceAcknowledgements
import Qts.ReplaceRefusals
import Qts.ReplayCacheIdentity
import Qts.ReplayDeliveryOrder
import Qts.ReplayTape
import Qts.RestartBudget
import Qts.RollContinuity
import Qts.RoundedHoldings
import Qts.RouteFidelity
import Qts.SafeCompaction
import Qts.SearchNormalization
import Qts.SelectionOrder
import Qts.SessionPnl
import Qts.SessionRegimes
import Qts.SessionWindows
import Qts.SharedSubscriptions
import Qts.SlicedReports
import Qts.SnapshotRecovery
import Qts.StepUpDiscoveries
import Qts.SubmissionGate
import Qts.SupertrendBands
import Qts.TimerScheduling
import Qts.TrialBudgetRuns
import Qts.VariationMargin
import Qts.WalkForwardRobustness
