import Bitboard.Arkade.SyncRuns
import Bitboard.Arkade.FinalityInterleaving
import Bitboard.Bark.ExitSeizureAgreement
import Bitboard.Crypto.ChainExtension
import Bitboard.Arkade.StepWaitRuns
import Bitboard.Frontend.JobPersistenceRuns
import Bitboard.Frontend.ManualBroadcast
import Bitboard.Frontend.AutomationBroadcast
import Bitboard.Bark.RecordStoreRuns
import Bitboard.Arkade.FundingLostStamp
import Bitboard.Arkade.JoinInterleaving
import Bitboard.Arkade.ExitInProgress
import Bitboard.Frontend.SdkFlushContents
import Bitboard.Arkade.AutonomousModeRuns
import Bitboard.Arkade.SpendChoicesRuns
import Bitboard.Wallet.BarkAccountsRuns
import Bitboard.Wallet.ArkadeAccountsRuns
import Bitboard.Frontend.ReencryptionLock
import Bitboard.Frontend.DataMigrationsFailures
import Bitboard.Bark.SessionRuns
import Bitboard.Frontend.OnchainSaveRuns
import Bitboard.Frontend.LockLifecycleRuns
import Bitboard.Frontend.SecretsFlush
import Bitboard.Frontend.OnchainRowsRuns
import Bitboard.Crypto.ActiveWalletRuns
import Bitboard.Frontend.BackupImport
import Bitboard.Frontend.SendReviewRuns
import Bitboard.Frontend.LightningPayments
import Bitboard.Frontend.LightningConnectionsRuns
import Bitboard.Arkade.ExitPlanOrder
import Bitboard.Arkade.ExitTopology
import Bitboard.Arkade.SpentIntents
import Bitboard.Arkade.SignerMigration
import Bitboard.Arkade.CallerIntents
import Bitboard.Arkade.ExitSpendLock
import Bitboard.Frontend.LabConservation
import Bitboard.Frontend.LabTemplate
import Bitboard.Frontend.LabLedger
import Bitboard.Bark.ExitGraphMerge
import Bitboard.Frontend.DisplayAmountLinks
import Bitboard.Arkade.ExitProgress
import Bitboard.Crypto.PrepareSendFunds
import Bitboard.Crypto.PayToAnchorDraws
import Bitboard.Frontend.FiatAmountRoundTrip
import Bitboard.Frontend.DashboardActivityOrder
import Bitboard.Frontend.LnurlProxyGuardRanges
import Bitboard.Arkade.SnapshotRoundTrip
import Bitboard.Frontend.NearZeroLoad
import Bitboard.Frontend.TipWatchRuns
import Bitboard.Bark.PendingOffboards
