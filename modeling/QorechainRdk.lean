import QorechainRdk.Accounts
import QorechainRdk.Bech32.Canonical
import QorechainRdk.Bridge.MerklePosition
import QorechainRdk.Bridge.MerklePromotion
import QorechainRdk.Bridge.WithdrawalAgreement
import QorechainRdk.Bridge.WithdrawalProofs
import QorechainRdk.Cli.Args
import QorechainRdk.Cli.Receipt
import QorechainRdk.Cli.Withdraw
import QorechainRdk.Client.Features
import QorechainRdk.Client.IntegersAgree
import QorechainRdk.Client.Paging
import QorechainRdk.Config.Builder
import QorechainRdk.Config.ValidateAgreement
import QorechainRdk.Counters
import QorechainRdk.CrossVm.Results
import QorechainRdk.Health.Batches
import QorechainRdk.Health.Blocker
import QorechainRdk.Health.Window
import QorechainRdk.Lib.FirstMatch
import QorechainRdk.Lifecycle.Windows
import QorechainRdk.Manifest.Portable
import QorechainRdk.Monitor.Discipline
import QorechainRdk.Preimages
import QorechainRdk.Receipts.Agreement
import QorechainRdk.Receipts.Anchors
import QorechainRdk.Receipts.Batches
import QorechainRdk.Receipts.Model
import QorechainRdk.Receipts.Rebuild
import QorechainRdk.Receipts.SignBytes
import QorechainRdk.Receipts.Typed
import QorechainRdk.Receipts.UntrustedFields
import QorechainRdk.Receipts.Verify
import QorechainRdk.RulesSdks
import QorechainRdk.Rust.Base64
import QorechainRdk.Rust.BlockTime
import QorechainRdk.Rust.Economics
import QorechainRdk.TransitionSdks
import QorechainRdk.Tx.Anchoring
import QorechainRdk.Tx.AutoAnchor
import QorechainRdk.Tx.HybridRetry
import QorechainRdk.Tx.RoundTrip
import QorechainRdk.Tx.Sdks
import QorechainRdk.Tx.Signing
import QorechainRdk.Tx.Stop
import QorechainRdk.Tx.Withdrawal
import QorechainRdk.Watchtower.Cursor
import QorechainRdk.Watchtower.Discipline
import QorechainRdk.Watchtower.Fraud
import QorechainRdk.Watchtower.Poll
import QorechainRdk.Watchtower.Resubmission
import QorechainRdk.Watchtower.Retries
import QorechainRdk.Watchtower.Runs
