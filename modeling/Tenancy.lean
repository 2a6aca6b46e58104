import Tenancy.Config.Load
import Tenancy.Config.Overview
import Tenancy.Http.Site
import Tenancy.Proofs.Lock
import Tenancy.Proofs.LockEntries
import Tenancy.Proofs.RelyGuarantee
import Tenancy.Proofs.SchemaName
import Tenancy.Proofs.StoreEffect
import Tenancy.Proofs.TimeOrder
import Tenancy.Proofs.FoundRows
import Tenancy.Simulation.Installation
import Tenancy.Simulation.Trace
import Tenancy.Proofs.Interleaving
import Tenancy.Proofs.Contract
import Tenancy.Proofs.Outline
import Tenancy.Proofs.Exclusion
import Tenancy.Proofs.Serialization
import Tenancy.Proofs.Overwriting
import Tenancy.Proofs.SchemaExistence
import Tenancy.Proofs.Sequential
import Tenancy.Proofs.Isolation
import Tenancy.Proofs.Succession
import Tenancy.Proofs.AuditProgress
import Tenancy.Proofs.Agreement
import Tenancy.Proofs.Attendance
import Tenancy.Proofs.Convergence
import Tenancy.Proofs.Naming
import Tenancy.Proofs.CleanPass
import Tenancy.Proofs.Repair
import Tenancy.Proofs.Resolution
import Tenancy.Proofs.Refusal
import Tenancy.Proofs.Sessions
import Tenancy.Proofs.Custody
import Tenancy.Proofs.PoolEffect
import Tenancy.Proofs.Holding
import Tenancy.Proofs.Traffic
import Tenancy.Proofs.SearchPath
import Tenancy.Proofs.Observation
import Tenancy.Proofs.ModuleName
import Tenancy.Proofs.Routing
import Tenancy.Proofs.BestEffort
import Tenancy.Proofs.Frame
import Tenancy.Proofs.Additions
import Tenancy.Proofs.Installations
import Tenancy.Proofs.SingleInstall
import Tenancy.Proofs.Quoting
import Tenancy.Proofs.Admission
import Tenancy.Proofs.Secrecy
import Tenancy.Proofs.Account
import Tenancy.Proofs.SlugWords
import Tenancy.Proofs.NameForm
import Tenancy.Proofs.Collision
import Tenancy.Proofs.SchemaAccess
import Tenancy.Proofs.SettingText
import Tenancy.Proofs.SettingLocality
import Tenancy.Proofs.RowWork
import Tenancy.Proofs.IndependentRows
import Tenancy.Proofs.FaultyPass
import Tenancy.Proofs.Serving
import Tenancy.Proofs.SharedSecret
import Tenancy.Proofs.SpanText
import Tenancy.Proofs.Staleness
import Tenancy.Proofs.TextBytes
import Tenancy.Proofs.Chronology
