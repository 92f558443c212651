import ModulePack.Main
import ModulePack.Minify.Tool
import ModulePack.Proofs.Order.Refinement
import ModulePack.Proofs.Json.Number
import ModulePack.Proofs.Json.Text
import ModulePack.Proofs.Json.RoundTrip
import ModulePack.Proofs.Entry.Wire
import ModulePack.Proofs.FileSystem.Writing
import ModulePack.Proofs.Json.Characters
import ModulePack.Proofs.Store.Agreement
import ModulePack.Proofs.Store.Snapshot
import ModulePack.Proofs.Assembly.Entries
import ModulePack.Proofs.Assembly.Emitted
import ModulePack.Proofs.Assembly.Loading
import ModulePack.Proofs.Order.Agreement
import ModulePack.Proofs.Order.Coherence
import ModulePack.Proofs.Order.Trace
import ModulePack.Proofs.Assembly.Result
import ModulePack.Proofs.Assembly.Schedule
import ModulePack.Proofs.Assembly.Dependence
import ModulePack.Proofs.Assembly.Production
import ModulePack.Proofs.Mapping.Table
import ModulePack.Proofs.Mapping.Decision
import ModulePack.Proofs.Path.Way
import ModulePack.Proofs.Specifier.ModuleName
import ModulePack.Proofs.Specifier.Mapped
import ModulePack.Proofs.Assembly.Session
import ModulePack.Proofs.Minify.Expression
import ModulePack.Proofs.Assembly.Minified
import ModulePack.Proofs.Assembly.Launch
import ModulePack.Proofs.Assembly.Wrapping
import ModulePack.Proofs.Assembly.Again
import ModulePack.Proofs.Assembly.CodeFile
import ModulePack.Proofs.Entry.Shortest
import ModulePack.Proofs.Mapping.Substitution
import ModulePack.Proofs.Specifier.SourceName
import ModulePack.Proofs.Assembly.Filters
import ModulePack.Proofs.Manifest.Profile
import ModulePack.Proofs.Assembly.Opening
import ModulePack.Proofs.Assembly.Once
import ModulePack.Proofs.Store.Operations
import ModulePack.Proofs.FileSystem.Reading
import ModulePack.Proofs.Store.Reading
import ModulePack.Proofs.Assembly.Failure
