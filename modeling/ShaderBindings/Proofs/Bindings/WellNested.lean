import ShaderBindings.Catalog.Builtin
import ShaderBindings.Proofs.Bindings.HeaderStruct
import ShaderBindings.Proofs.Bindings.SourceFunctions
import ShaderBindings.Proofs.Code.Layout

/-!
# Nesting in the generated files

Both generated files are balanced lists of lines, and each of their lines is
tidy: names are identifiers, the include guard has no marks, and what a path
or an include holds stands in a literal.  So both texts are well nested, which
is the main theorem, `Catalog.files_wellNested`.

Of the configuration it asks no more than that its names are identifiers and
that the generator, which stands in a comment, has no marks.
-/

namespace ShaderBindings

/-! ## The blocks of the files -/

/-- The lines of the header behind the struct. -/
def Config.headerEnd (config : Config) : List Line :=
  [.blank, .declareExtern config.typeName config.instanceName, .blank,
    .declareFunction config.loadFunction,
    .declareFunction config.unloadFunction, .endUnless]

/-- The header: a preamble, the struct of all shaders, and an end. -/
theorem Catalog.headerLines_eq (config : Config) (catalog : Catalog) :
    catalog.headerLines config =
      config.headerPreamble ++
        ([.openTypedef config.typeName] ++
          catalog.shaders.flatMap (Shader.structLines config) ++
          [.closeStruct config.typeName]) ++
        config.headerEnd := by
  simp [headerLines, Config.headerOpening_eq, Config.headerClosing,
    Config.headerEnd]

theorem Catalog.balanced_headerLines (config : Config) (catalog : Catalog) :
    Balanced (catalog.headerLines config) := by
  have preamble : Balanced config.headerPreamble :=
    .of_forall_stays fun _ => Config.nesting_of_mem_headerPreamble
  have ending : Balanced config.headerEnd :=
    .of_forall_stays (by simp [Config.headerEnd, Line.nesting])
  rw [headerLines_eq]
  exact (preamble.append
    (.block rfl rfl (catalog.balanced_structLines config))).append ending

theorem Catalog.balanced_sourceLines (config : Config) (catalog : Catalog) :
    Balanced (catalog.sourceLines config) := by
  have preamble : Balanced config.sourcePreamble :=
    .of_forall_stays fun _ => Config.nesting_of_mem_sourcePreamble
  have load := balanced_functionLines config.loadFunction
    (catalog.balanced_loadLines config)
  have unload := balanced_functionLines config.unloadFunction
    (catalog.balanced_unloadLines config)
  rw [sourceLines_eq]
  exact preamble.append (load.append ((Balanced.single rfl).append unload))

/-! ## The lines of the files -/

section TidyLines

variable {config : Config} (named : config.IsWellNamed)
  (plain : IsPlain config.generator.toList)

include plain in
theorem Config.isTidy_banner :
    (Line.comment ("FILE GENERATED BY " ++ config.generator)).IsTidy := by
  apply Line.isTidy_comment
  rw [String.toList_append, isPlain_append]
  exact ⟨by decide, plain⟩

include plain in
theorem Config.isTidy_of_mem_headerPreamble {line : Line}
    (member : line ∈ config.headerPreamble) : line.IsTidy := by
  rcases Config.mem_headerPreamble member with
    rfl | rfl | rfl | rfl | ⟨header, rfl⟩
  · exact config.isTidy_banner plain
  · exact Or.inl rfl
  · exact Line.isTidy_unlessDefined config.isPlain_includeGuard
  · exact Line.isTidy_define config.isPlain_includeGuard
  · exact Line.isTidy_includeLocal header

include named in
theorem Config.isTidy_of_mem_headerEnd {line : Line}
    (member : line ∈ config.headerEnd) : line.IsTidy := by
  simp only [headerEnd, List.mem_cons, List.not_mem_nil, or_false] at member
  rcases member with rfl | rfl | rfl | rfl | rfl | rfl
  · exact Or.inl rfl
  · exact Line.isTidy_declareExtern named.typeName named.instanceName
  · exact Or.inl rfl
  · exact Line.isTidy_declareFunction named.loadFunction
  · exact Line.isTidy_declareFunction named.unloadFunction
  · exact Or.inr ⟨by decide, IsPlain.isNeutral (by decide)⟩

include named plain in
theorem Config.isTidy_of_mem_sourcePreamble {line : Line}
    (member : line ∈ config.sourcePreamble) : line.IsTidy := by
  rcases Config.mem_sourcePreamble member with
    rfl | rfl | rfl | ⟨header, rfl⟩ | rfl
  · exact config.isTidy_banner plain
  · exact Or.inl rfl
  · exact Or.inr ⟨by decide, IsPlain.isNeutral (by decide)⟩
  · exact Line.isTidy_includeLocal header
  · exact Line.IsStructLine.isTidy ⟨named.typeName, named.instanceName⟩

include named plain in
/-- No line of the header has a brace of its own or an open literal. -/
theorem Catalog.isTidy_of_mem_headerLines
    (handleNamed : isIdentifier config.gl.handleType = true)
    (catalog : Catalog) :
    ∀ line ∈ catalog.headerLines config, line.IsTidy := by
  intro line member
  rw [headerLines_eq] at member
  simp only [List.mem_append, List.mem_singleton, List.mem_flatMap] at member
  rcases member with
    (preamble | ((rfl | ⟨shader, _, inside⟩) | rfl)) | ending
  · exact config.isTidy_of_mem_headerPreamble plain preamble
  · exact Line.isTidy_openTypedef named.typeName
  · exact (shader.isStructLine_of_mem_structLines handleNamed line
      inside).isTidy
  · exact Line.IsStructLine.isTidy named.typeName
  · exact config.isTidy_of_mem_headerEnd named ending

include named plain in
/-- No line of the source file has a brace of its own or an open literal. -/
theorem Catalog.isTidy_of_mem_sourceLines (catalog : Catalog) :
    ∀ line ∈ catalog.sourceLines config, line.IsTidy := by
  intro line member
  rw [sourceLines_eq] at member
  simp only [functionLines, List.mem_append, List.mem_singleton] at member
  rcases member with preamble | ((rfl | load) | rfl) | rfl |
    ((rfl | unload) | rfl)
  · exact config.isTidy_of_mem_sourcePreamble named plain preamble
  · exact Line.isTidy_openFunction named.loadFunction
  · exact (catalog.isStatement_of_mem_loadLines named.instanceName named.gl
      line load).isTidy
  · exact Line.IsStatement.isTidy trivial
  · exact Or.inl rfl
  · exact Line.isTidy_openFunction named.unloadFunction
  · exact (catalog.isStatement_of_mem_unloadLines named.instanceName named.gl
      line unload).isTidy
  · exact Line.IsStatement.isTidy trivial

end TidyLines

/-- Whatever the paths, the includes and the name of the header hold, braces
and parentheses match in both files and every line is indented for them. -/
theorem Catalog.files_wellNested {config : Config}
    (named : config.IsWellNamed)
    (handleNamed : isIdentifier config.gl.handleType = true)
    (plain : IsPlain config.generator.toList) (catalog : Catalog) :
    IsWellNested (catalog.header config).toList ∧
      IsWellNested (catalog.source config).toList := by
  constructor
  · exact (catalog.balanced_headerLines config).isWellNested_render
      (catalog.isTidy_of_mem_headerLines named plain handleNamed)
      (catalog.isOneLine_of_mem_headerLines
        (named.lack_bareTexts handleNamed))
  · exact (catalog.balanced_sourceLines config).isWellNested_render
      (catalog.isTidy_of_mem_sourceLines named plain)
      (catalog.isOneLine_of_mem_sourceLines named.lack_sourceTexts)

/-- A configuration with marks wherever it may have any. -/
def Config.marked : Config where
  headerName := "a\"\x7b(\\"
  headerIncludes := ["\x7d.h", "\\"]
  sourceIncludes := ["(\n)\""]

/-- Braces in the paths of includes are inside of literals. -/
theorem Catalog.builtin_files_wellNested :
    Config.marked.IsWellNamed ∧
      isIdentifier Config.marked.gl.handleType = true ∧
      IsPlain Config.marked.generator.toList ∧
      IsWellNested (builtin.header Config.marked).toList ∧
      IsWellNested (builtin.source Config.marked).toList := by
  have named : Config.marked.IsWellNamed := { Config.isWellNamed_default with }
  exact ⟨named, by decide, by decide,
    Catalog.files_wellNested named (by decide) (by decide) builtin⟩

end ShaderBindings
