import ArioSolana.Checked
import ArioSolana.Runs
import ArioSolana.Roulette
import ArioSolana.Book
import ArioSolana.Solana
import ArioSolana.SplLedger
import ArioSolana.Borsh
import ArioSolana.GarTypes
import ArioSolana.GarState
import ArioSolana.GarDelegate
import ArioSolana.GarWithdrawal
import ArioSolana.GarPayment
import ArioSolana.GarEpoch
import ArioSolana.GarPrescribe
import ArioSolana.GarRoulette
import ArioSolana.GarSwitch
import ArioSolana.GarRedelegation
import ArioSolana.GarNames
import ArioSolana.GarPrescription
import ArioSolana.GarWeights
import ArioSolana.GarGateway
import ArioSolana.GarDistribution
import ArioSolana.GarProgram
import ArioSolana.GarLedger
import ArioSolana.GarSpecs
import ArioSolana.GarEffects
import ArioSolana.GarPlan
import ArioSolana.GarLifecycle
import ArioSolana.GarRegistry
import ArioSolana.GarBatches
import ArioSolana.GarBatching
import ArioSolana.GarSteps
import ArioSolana.GarAccounting
import ArioSolana.GarStakers
import ArioSolana.GarObservers
import ArioSolana.GarEpochs
import ArioSolana.GarStamps
import ArioSolana.EscrowTypes
import ArioSolana.EscrowVerify
import ArioSolana.AntTypes
import ArioSolana.AntAcl
import ArioSolana.AntProgram
import ArioSolana.AntSteps
import ArioSolana.AntEffects
import ArioSolana.AntAuthority
import ArioSolana.AntLists
import ArioSolana.ArnsTypes
import ArioSolana.CoreReaders
import ArioSolana.CoreVaults
import ArioSolana.CoreVaultSteps
import ArioSolana.CoreVaultBooks
import ArioSolana.CoreVaultRules
import ArioSolana.CoreVaultExits
import ArioSolana.CoreVaultDeposits
import ArioSolana.CoreFormats
import ArioSolana.CoreOwners
import ArioSolana.EscrowProgram
import ArioSolana.EscrowExits
import ArioSolana.EscrowAnt
import ArioSolana.HashChain
import ArioSolana.EscrowHistory
import ArioSolana.EscrowMessages
import ArioSolana.EscrowNonces
import ArioSolana.GarAdmission
import ArioSolana.ArnsDemand
import ArioSolana.ArnsRollover
import ArioSolana.ArnsPricing
import ArioSolana.ArnsHistory
import ArioSolana.GarFunding
import ArioSolana.GarVaults
import ArioSolana.GarLocks
import ArioSolana.GarSettlement
import ArioSolana.EscrowAttest
import ArioSolana.GarRent
import ArioSolana.ArnsHalving
import ArioSolana.Base58
import ArioSolana.EscrowCanonical
import ArioSolana.AnchorAccounts
import ArioSolana.AntAttributes
import ArioSolana.AntLayouts
import ArioSolana.AntMigration
import ArioSolana.EscrowRelock
import ArioSolana.GarOperationsKey
import ArioSolana.GarCashOut
import ArioSolana.EscrowSignatures
import ArioSolana.ArnsNameRuns
import ArioSolana.CorePrimaryNameRuns
import ArioSolana.GarUnblocked
import ArioSolana.AntImport
