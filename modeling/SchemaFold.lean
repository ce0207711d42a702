import SchemaFold.Main
import SchemaFold.Proofs.Generating
import SchemaFold.Proofs.ModuleReading
import SchemaFold.Session
import SchemaFold.Proofs.Filtering
import SchemaFold.Proofs.References
import SchemaFold.Proofs.PathText
import SchemaFold.Proofs.ProperDisk
import SchemaFold.Proofs.Loading
import SchemaFold.Proofs.Reordering
import SchemaFold.Proofs.Atomicity
import SchemaFold.Proofs.Regenerating
import SchemaFold.Proofs.Independence
import SchemaFold.Proofs.JoinedSchema
import SchemaFold.Proofs.AliasMembers
import SchemaFold.Proofs.OperationRoots
import SchemaFold.Proofs.ResolvedPath
import SchemaFold.Proofs.CommandLine
import SchemaFold.Proofs.RegistryHistory
import SchemaFold.Proofs.ScalarTypes
import SchemaFold.Proofs.BlankSource
import SchemaFold.Proofs.TreeShape
import SchemaFold.Proofs.MissingTypes
import SchemaFold.Proofs.DocumentShape
import SchemaFold.Proofs.FieldLines
import SchemaFold.Proofs.PassedThrough
import SchemaFold.Proofs.BlankLines
import SchemaFold.Proofs.ScalarOptions
