import DataplaneSync.Audit.Record
import DataplaneSync.Json.Reader
import DataplaneSync.Main
import DataplaneSync.Session
import DataplaneSync.Proofs.AddressRoundTrip
import DataplaneSync.Proofs.AddressSpellings
import DataplaneSync.Proofs.AuditTrail
import DataplaneSync.Proofs.CallAtomicity
import DataplaneSync.Proofs.ColdStart
import DataplaneSync.Proofs.DestinationConvergence
import DataplaneSync.Proofs.DocumentRoundTrip
import DataplaneSync.Proofs.DumpOrder
import DataplaneSync.Proofs.FirstRefusal
import DataplaneSync.Proofs.GlobalReconciliation
import DataplaneSync.Proofs.IndexFreshness
import DataplaneSync.Proofs.InterfaceConvergence
import DataplaneSync.Proofs.InterfaceDeletion
import DataplaneSync.Proofs.InterfaceDrift
import DataplaneSync.Proofs.InterfaceViews
import DataplaneSync.Proofs.KeyReconciliation
import DataplaneSync.Proofs.MappingIdentifiers
import DataplaneSync.Proofs.PairPlaces
import DataplaneSync.Proofs.ReferenceIntegrity
import DataplaneSync.Proofs.RegistryBijection
import DataplaneSync.Proofs.RegistryHistory
import DataplaneSync.Proofs.ReportExactness
import DataplaneSync.Proofs.RuleIdempotence
import DataplaneSync.Proofs.SessionReconciliation
import DataplaneSync.Proofs.SocketIds
import DataplaneSync.Proofs.VerbatimInterfaces
