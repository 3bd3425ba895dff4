import StellarTip.Foundation.BoundedInt
import StellarTip.Foundation.KeyedStore
import StellarTip.Foundation.SortedSet
import StellarTip.Foundation.FiniteTotal
import StellarTip.Foundation.Transaction
import StellarTip.Foundation.Transition
import StellarTip.Foundation.Program
import StellarTip.Foundation.Rollback
import StellarTip.Foundation.ProportionalShare
import StellarTip.Foundation.Reserve
import StellarTip.Contract.Types
import StellarTip.Contract.Host
import StellarTip.Contract.Entrypoints
import StellarTip.Contract.Views
import StellarTip.Contract.Effects
import StellarTip.Contract.Specification
import StellarTip.Contract.Semantics
import StellarTip.Contract.Execution
import StellarTip.Contract.Configuration
import StellarTip.Account.Model
import StellarTip.Account.Simulation
import StellarTip.Account.Registry
import StellarTip.Contract.TokenLedger
import StellarTip.Account.Credit
import StellarTip.Account.History
import StellarTip.Account.Ownership
import StellarTip.Account.TokenSet
import StellarTip.Custody.Conforming
import StellarTip.Custody.Solvency
import StellarTip.Custody.Withdrawal
import StellarTip.Rebasing.Token
import StellarTip.Observer.Indexer
import StellarTip.Observer.TipLog
import StellarTip.Account.Capacity
import StellarTip.Account.Determination
import StellarTip.Account.Growth
import StellarTip.Administration.Fallbacks
import StellarTip.Administration.Pause
import StellarTip.Administration.SelfReference
import StellarTip.Custody.Commutation
import StellarTip.Custody.Confinement
import StellarTip.Custody.Exit
import StellarTip.Custody.TypedFailure
import StellarTip.Custody.Frozen
import StellarTip.Rebasing.Surplus
import StellarTip.Rebasing.BankRun
import StellarTip.Observer.Window
import StellarTip.Observer.Retry
import StellarTip.Observer.Wire
import StellarTip.Observer.Network
import StellarTip.Observer.Orchestrator
import StellarTip.Observer.Preflight
import StellarTip.Observer.Abstraction
import StellarTip.Observer.Auditor
import StellarTip.Observer.LogLanguage
import StellarTip.Observer.Churn
import StellarTip.Custody.TipEffect
import StellarTip.Account.Interleaving
import StellarTip.Custody.TipArithmetic
import StellarTip.Custody.Splitting
import StellarTip.Lifetime.Script
import StellarTip.Lifetime.Ledger
import StellarTip.Lifetime.Trail
import StellarTip.Lifetime.Policy
import StellarTip.Lifetime.Survival
import StellarTip.Lifetime.Restoration
