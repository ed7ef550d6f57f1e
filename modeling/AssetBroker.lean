import AssetBroker.Bridge.Kind
import AssetBroker.Factory
import AssetBroker.Json.Payload
import AssetBroker.Manager.Batch
import AssetBroker.Pager
import AssetBroker.Rehearsal.Performance
import AssetBroker.Proofs.Collecting
import AssetBroker.Proofs.Warnings
import AssetBroker.Proofs.Settling
import AssetBroker.Proofs.Transcript
import AssetBroker.Proofs.Gathering
import AssetBroker.Proofs.BatchOutcomes
import AssetBroker.Proofs.ReportOrder
import AssetBroker.Proofs.Outputs
import AssetBroker.Proofs.Validation
import AssetBroker.Proofs.PagerCustody
import AssetBroker.Proofs.Enrichment
import AssetBroker.Proofs.Singles
import AssetBroker.Proofs.ElementWise
import AssetBroker.Proofs.Session
import AssetBroker.Proofs.SetUp
import AssetBroker.Proofs.PrefixCache
import AssetBroker.Proofs.Lookups
import AssetBroker.Proofs.History
import AssetBroker.Proofs.DocumentReading
import AssetBroker.Proofs.PayloadRoundTrip
import AssetBroker.Proofs.Ingestion
import AssetBroker.Proofs.Delimiters
import AssetBroker.Proofs.Substitution
import AssetBroker.Proofs.ExceptionMessages
import AssetBroker.Proofs.ContainerHistory
import AssetBroker.Proofs.ContainerEquality
import AssetBroker.Proofs.ExceptionEquality
import AssetBroker.Proofs.Uniformity
import AssetBroker.Proofs.HandleHistory
import AssetBroker.Proofs.HandleBookkeeping
import AssetBroker.Proofs.HandleLookup
import AssetBroker.Proofs.DistinctKeys
import AssetBroker.Proofs.ReferenceForms
import AssetBroker.Proofs.SettingsConversion
import AssetBroker.Proofs.DefaultManager
import AssetBroker.Proofs.ContextTokens
import AssetBroker.Proofs.ContextTrees
import AssetBroker.Proofs.ReferenceBalance
import AssetBroker.Proofs.Lifetimes
import AssetBroker.Rehearsal.Directory
import AssetBroker.Proofs.CustodyHistory
