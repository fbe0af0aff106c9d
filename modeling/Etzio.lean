import Etzio.CheckedRun
import Etzio.Objects
import Etzio.Events
import Etzio.Receipts
import Etzio.Reducer
import Etzio.Turns
import Etzio.History
import Etzio.LeaseBook
import Etzio.LeaseRefinement
import Etzio.Dispositions
import Etzio.LeaseChains
import Etzio.MissionLaws
import Etzio.IntegrityRecords
import Etzio.IntegrityValidation
import Etzio.BlockedFinality
import Etzio.Rows
import Etzio.StoreTables
import Etzio.StoreReplay
import Etzio.StoreWrites
import Etzio.StoreSystem
import Etzio.StoreFrames
import Etzio.StoreOrder
import Etzio.StoreAcceptance
import Etzio.StorePhases
import Etzio.StoreAppends
import Etzio.StoreRecovery
import Etzio.StoreCommits
import Etzio.StoreRuns
import Etzio.StoreGovernance
import Etzio.CheckpointChain
import Etzio.StorePredecessors
import Etzio.StoreStreams
import Etzio.StoreIdempotence
import Etzio.StoreSeal
import Etzio.EvidenceVault
import Etzio.StoreCapacity
import Etzio.VaultOwnership
import Etzio.FinalityReserve
import Etzio.Interaction
import Etzio.FinalizingFacade
import Etzio.FacadeFinality
import Etzio.FailedAppends
import Etzio.BlockRounds
import Etzio.BlockHistories
import Etzio.Ledger
import Etzio.Proposals
import Etzio.CommandRequests
import Etzio.VaultReads
import Etzio.LeaseCommands
import Etzio.VerificationCommands
import Etzio.MissionClosing
import Etzio.JsonText
import Etzio.CanonicalJson
import Etzio.Envelopes
import Etzio.AcquisitionCustody
import Etzio.CommandRefinement
import Etzio.CommandAcceptance
import Etzio.CommandLookups
import Etzio.CommandRetries
import Etzio.MerkleTrees
import Etzio.MerkleProofs
import Etzio.MerkleFrontier
import Etzio.ClockBounds
import Etzio.ElapsedTime
import Etzio.Base64
import Etzio.IntervalFusion
import Etzio.SignedRecords
import Etzio.AdapterRecords
import Etzio.TimeBundles
import Etzio.QualifiedRevocation
import Etzio.WireRecords
import Etzio.AuthorityRecords
import Etzio.MissionRecords
import Etzio.VerificationRecords
import Etzio.EventPayloads
import Etzio.EventCodec
import Etzio.PathGrammar
import Etzio.Delimiters
import Etzio.TimestampBody
import Etzio.ModeledCatalog
import Etzio.PythonSast
import Etzio.ExpectedOutputs
import Etzio.HeadBundles
import Etzio.HeadClaims
import Etzio.CatalogHistories
import Etzio.AnchorPlaces
