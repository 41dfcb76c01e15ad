import NodeFamilies.Json.Rows
import NodeFamilies.Main
import NodeFamilies.Session
import NodeFamilies.Proofs.Identifiers
import NodeFamilies.Proofs.Scans
import NodeFamilies.Proofs.WellFormed
import NodeFamilies.Proofs.Lines
import NodeFamilies.Proofs.SameModule
import NodeFamilies.Proofs.Buffers
import NodeFamilies.Proofs.Disks
import NodeFamilies.Proofs.Documents
import NodeFamilies.Proofs.Generating
import NodeFamilies.Proofs.Modes
import NodeFamilies.Proofs.TypeNames
import NodeFamilies.Proofs.ByValue
import NodeFamilies.Proofs.Topics
import NodeFamilies.Proofs.Duplicates
import NodeFamilies.Proofs.Reading
import NodeFamilies.Proofs.PrintedChecks
import NodeFamilies.Proofs.Items
import NodeFamilies.Proofs.Quotas
import NodeFamilies.Proofs.Places
import NodeFamilies.Proofs.Sessions
import NodeFamilies.Proofs.Effects
import NodeFamilies.Proofs.FamilyNames
import NodeFamilies.Proofs.OptionLayers
import NodeFamilies.Proofs.OptionRounds
import NodeFamilies.Proofs.Json.Numbers
import NodeFamilies.Proofs.Json.Skipping
import NodeFamilies.Proofs.Json.Completeness
import NodeFamilies.Proofs.Json.Keys
import NodeFamilies.Proofs.Json.Changes
import NodeFamilies.Proofs.FaultPaths
import NodeFamilies.Proofs.KeyFaults
import NodeFamilies.Proofs.Repetitions
import NodeFamilies.Proofs.Rearranging
import NodeFamilies.Proofs.Growing
import NodeFamilies.Proofs.Unbuffered
