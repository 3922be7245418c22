import JupiterSuite.Clients.CyclesProbeSound
import JupiterSuite.Clients.LeaseExclusion
import JupiterSuite.Clients.RetryReservations
import JupiterSuite.Clients.TrailingHints
import JupiterSuite.Disburser.ExactlyOnce
import JupiterSuite.Disburser.SplitBounds
import JupiterSuite.Faucet.PaidOnce
import JupiterSuite.Faucet.PotConservation
import JupiterSuite.Faucet.ScanRuns
import JupiterSuite.Faucet.SustainedFailures
import JupiterSuite.Faucet.TransferTimes
import JupiterSuite.Frontend.BreakEven
import JupiterSuite.Frontend.TransferLoading
import JupiterSuite.Historian.CursorPagination
import JupiterSuite.Historian.ExpectedStatus
import JupiterSuite.Historian.RelayAdmissionBounds
import JupiterSuite.Historian.RelayFactoryIndex
import JupiterSuite.Historian.RelayFundingPromise
import JupiterSuite.Historian.RelaySetupKeys
import JupiterSuite.Historian.RetainedEvidence
import JupiterSuite.Historian.RouteKeyCodec
import JupiterSuite.Historian.RouteRuns
import JupiterSuite.Historian.StakingHints
import JupiterSuite.Historian.SummaryRuns
import JupiterSuite.Memo.BuiltMemos
import JupiterSuite.Relay.CycleEvents
import JupiterSuite.Relay.EligibleBatchAnswers
import JupiterSuite.Relay.FaucetMemo
import JupiterSuite.Relay.JobSummary
import JupiterSuite.Relay.JobUnspent
import JupiterSuite.Relay.PrefixFloors
import JupiterSuite.Relay.ProportionalTopups
import JupiterSuite.Relay.RewardPayoutDrive
import JupiterSuite.Relay.RewardTokenCutoffs
import JupiterSuite.Relay.SplitterIntegrity
import JupiterSuite.SnsRewards.PublishedSnapshots
