import GraphQuery.Calendar.Iso
import GraphQuery.Proofs.Cypher.AffectedRows
import GraphQuery.Proofs.Cypher.Conjuncts
import GraphQuery.Proofs.Cypher.Identifiers
import GraphQuery.Proofs.Cypher.RelationshipNames
import GraphQuery.Proofs.Cypher.TextStatements
import GraphQuery.Proofs.Execution.ChosenNames
import GraphQuery.Proofs.Execution.Counts
import GraphQuery.Proofs.Execution.CreatedNodes
import GraphQuery.Proofs.Execution.FailedTransactions
import GraphQuery.Proofs.Execution.LeadingColumns
import GraphQuery.Proofs.Execution.PageWindows
import GraphQuery.Proofs.Execution.PretendedLog
import GraphQuery.Proofs.Execution.TakenIdentities
import GraphQuery.Proofs.Execution.TargetClasses
import GraphQuery.Proofs.Execution.Totals
import GraphQuery.Proofs.Record.ClassResolution
import GraphQuery.Proofs.Record.Conversion
import GraphQuery.Proofs.Record.ElementIds
import GraphQuery.Proofs.Record.Reattaching
import GraphQuery.Proofs.Session.ClosedDrivers
import GraphQuery.Proofs.Session.Containment
import GraphQuery.Proofs.Session.EngineTraffic
import GraphQuery.Proofs.Session.OpenSessions
import GraphQuery.Proofs.Session.ParameterValues
import GraphQuery.Proofs.Workspace.Adoption
import GraphQuery.Proofs.Workspace.TableCalls
import GraphQuery.Proofs.Workspace.Twin
