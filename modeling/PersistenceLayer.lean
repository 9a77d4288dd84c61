import PersistenceLayer.Artifact.Contract
import PersistenceLayer.Artifact.DataHolder
import PersistenceLayer.Artifact.Emission
import PersistenceLayer.Artifact.Extension
import PersistenceLayer.Artifact.Kind
import PersistenceLayer.Artifact.Mapping
import PersistenceLayer.Artifact.Metamodel
import PersistenceLayer.Artifact.Naming
import PersistenceLayer.Artifact.Persisted
import PersistenceLayer.Artifact.Rendering
import PersistenceLayer.Artifact.SourceFile
import PersistenceLayer.Artifact.Vocabulary
import PersistenceLayer.CommandLine
import PersistenceLayer.Config
import PersistenceLayer.Decimal.Shortest
import PersistenceLayer.Json.Document
import PersistenceLayer.Json.Fault
import PersistenceLayer.Json.Number
import PersistenceLayer.Json.Printer
import PersistenceLayer.Json.Record
import PersistenceLayer.Json.Tagged
import PersistenceLayer.Json.Token
import PersistenceLayer.Json.Value
import PersistenceLayer.Main
import PersistenceLayer.Model.ColumnType
import PersistenceLayer.Model.Decode
import PersistenceLayer.Model.Defect
import PersistenceLayer.Model.Draft
import PersistenceLayer.Model.Encode
import PersistenceLayer.Model.Entity
import PersistenceLayer.Model.EntitySet
import PersistenceLayer.Model.Relationship
import PersistenceLayer.Model.Validation
import PersistenceLayer.Options
import PersistenceLayer.Path
import PersistenceLayer.Proofs.ArtifactPaths
import PersistenceLayer.Proofs.AttributeOrder
import PersistenceLayer.Proofs.BracketedArtifacts
import PersistenceLayer.Proofs.Brackets
import PersistenceLayer.Proofs.ClientTypes
import PersistenceLayer.Proofs.Coexistence
import PersistenceLayer.Proofs.Collisions
import PersistenceLayer.Proofs.Confinement
import PersistenceLayer.Proofs.Conflicts
import PersistenceLayer.Proofs.CopyFunctions
import PersistenceLayer.Proofs.CopyGates
import PersistenceLayer.Proofs.CriteriaCalls
import PersistenceLayer.Proofs.CriteriaPaths
import PersistenceLayer.Proofs.DataOnlyRuns
import PersistenceLayer.Proofs.DeclarationOrder
import PersistenceLayer.Proofs.DeclaredTypes
import PersistenceLayer.Proofs.Destinations
import PersistenceLayer.Proofs.DiskSteps
import PersistenceLayer.Proofs.DistinctMembers
import PersistenceLayer.Proofs.DraftScopes
import PersistenceLayer.Proofs.Duplicates
import PersistenceLayer.Proofs.EagerValidation
import PersistenceLayer.Proofs.Emission
import PersistenceLayer.Proofs.FileNames
import PersistenceLayer.Proofs.GeneratedDeclarations
import PersistenceLayer.Proofs.GeneratedFunctions
import PersistenceLayer.Proofs.GeneratedNames
import PersistenceLayer.Proofs.IdentifierNames
import PersistenceLayer.Proofs.ImportLines
import PersistenceLayer.Proofs.ImportedTypes
import PersistenceLayer.Proofs.JsonFields
import PersistenceLayer.Proofs.JsonGrammar
import PersistenceLayer.Proofs.JsonLiterals
import PersistenceLayer.Proofs.JsonRecords
import PersistenceLayer.Proofs.JsonTrees
import PersistenceLayer.Proofs.KeptDirectories
import PersistenceLayer.Proofs.Locality
import PersistenceLayer.Proofs.MappingAnnotations
import PersistenceLayer.Proofs.ModelMeaning
import PersistenceLayer.Proofs.ModelRoundTrip
import PersistenceLayer.Proofs.Moments
import PersistenceLayer.Proofs.OptionScope
import PersistenceLayer.Proofs.Overwriting
import PersistenceLayer.Proofs.PathComponents
import PersistenceLayer.Proofs.Places
import PersistenceLayer.Proofs.Presentation
import PersistenceLayer.Proofs.PresentedModels
import PersistenceLayer.Proofs.PresentedRecords
import PersistenceLayer.Proofs.Publishing
import PersistenceLayer.Proofs.QueryBranches
import PersistenceLayer.Proofs.QuotedNames
import PersistenceLayer.Proofs.ReadableAnnotations
import PersistenceLayer.Proofs.Refinement
import PersistenceLayer.Proofs.RelationshipTargets
import PersistenceLayer.Proofs.RenderedArtifacts
import PersistenceLayer.Proofs.Reruns
import PersistenceLayer.Proofs.RollBack
import PersistenceLayer.Proofs.RunMoments
import PersistenceLayer.Proofs.Runs
import PersistenceLayer.Proofs.ScannedTokens
import PersistenceLayer.Proofs.StableCasing
import PersistenceLayer.Proofs.Staging
import PersistenceLayer.Proofs.StringLiterals
import PersistenceLayer.Proofs.ThoroughReaders
import PersistenceLayer.Proofs.Tokens
import PersistenceLayer.Proofs.TreeChanges
import PersistenceLayer.Proofs.TreeRecords
import PersistenceLayer.Proofs.TreeTags
import PersistenceLayer.Proofs.TypeMentions
import PersistenceLayer.Proofs.UnambiguousTypes
import PersistenceLayer.Proofs.UniformFailure
import PersistenceLayer.Proofs.VocabularyLeaves
import PersistenceLayer.Proofs.WholeDocuments
import PersistenceLayer.Proofs.WritingMoments
import PersistenceLayer.Run.Failure
import PersistenceLayer.Run.FileTree
import PersistenceLayer.Run.Rendering
import PersistenceLayer.Run.Storage
import PersistenceLayer.Run.Writing
import PersistenceLayer.Sample
import PersistenceLayer.Text.Blank
import PersistenceLayer.Text.CaseTable
import PersistenceLayer.Text.Casing
import PersistenceLayer.Text.Hex
import PersistenceLayer.Text.Identifier
import PersistenceLayer.Text.LineSet
import PersistenceLayer.Text.Quoted
import PersistenceLayer.Text.Split
import PersistenceLayer.Text.Unprintable
