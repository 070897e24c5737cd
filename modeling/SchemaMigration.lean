import SchemaMigration.Batch.Edit
import SchemaMigration.Draft
import SchemaMigration.Main
import SchemaMigration.Proofs.Keys
import SchemaMigration.Proofs.Resolution
import SchemaMigration.Proofs.Extraction
import SchemaMigration.Proofs.ProvidedKeys
import SchemaMigration.Proofs.KeyAgreement
import SchemaMigration.Proofs.ReferenceSites
import SchemaMigration.Proofs.Reading
import SchemaMigration.Proofs.Spelling
import SchemaMigration.Proofs.Containers
import SchemaMigration.Proofs.WrittenForm
import SchemaMigration.Proofs.Respelling
import SchemaMigration.Proofs.Mention
import SchemaMigration.Proofs.EdgeExport
import SchemaMigration.Proofs.Spacing
import SchemaMigration.Proofs.Untouched
import SchemaMigration.Proofs.CheckedRuns
import SchemaMigration.Proofs.RenderedText
import SchemaMigration.Proofs.Nesting
import SchemaMigration.Proofs.ColumnByColumn
import SchemaMigration.Proofs.Interchange
import SchemaMigration.Proofs.Rephrasing
import SchemaMigration.Proofs.JsonRoundTrip
import SchemaMigration.Proofs.EscapeSequences
import SchemaMigration.Proofs.WrittenFile
import SchemaMigration.Proofs.ScriptLines
import SchemaMigration.Proofs.OutputsAgree
import SchemaMigration.Proofs.SameObject
import SchemaMigration.Proofs.Form
import SchemaMigration.Proofs.ReadAtPlace
import SchemaMigration.Proofs.FaultPlace
import SchemaMigration.Proofs.FaultPath
import SchemaMigration.Proofs.PartChange
import SchemaMigration.Proofs.KeyOrder
import SchemaMigration.Proofs.NullKeys
import SchemaMigration.Proofs.RefusedPart
import SchemaMigration.Proofs.JsonIntegers
import SchemaMigration.Proofs.FileFaults
import SchemaMigration.Proofs.TomlIntegers
import SchemaMigration.Proofs.SettingSources
import SchemaMigration.Proofs.DecidedSettings
import SchemaMigration.Proofs.SettingFaults
import SchemaMigration.Proofs.Grouping
import SchemaMigration.Proofs.JsonDistinct
import SchemaMigration.Proofs.EdgeReading
import SchemaMigration.Proofs.SameBuild
