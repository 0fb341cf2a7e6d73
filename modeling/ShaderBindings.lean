import ShaderBindings.Main
import ShaderBindings.Session
import ShaderBindings.Proofs.Bindings.Composition
import ShaderBindings.Proofs.Bindings.ShaderLines
import ShaderBindings.Proofs.Bindings.LoadBlocks
import ShaderBindings.Proofs.Bindings.Output
import ShaderBindings.Proofs.Bindings.SourceInjective
import ShaderBindings.Proofs.Bindings.WellNested
import ShaderBindings.Proofs.Execution.Loading
import ShaderBindings.Proofs.Session.BrokenDrafts
import ShaderBindings.Proofs.Session.Reachability
import ShaderBindings.Proofs.Shader.Violations
import ShaderBindings.Proofs.Catalog.Collection
import ShaderBindings.Proofs.MacroName
import ShaderBindings.Proofs.CommandLine
import ShaderBindings.Proofs.Code.Frame
import ShaderBindings.Proofs.Bindings.Includes
