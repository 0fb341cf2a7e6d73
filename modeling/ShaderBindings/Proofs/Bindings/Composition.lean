import ShaderBindings.Bindings.Files
import ShaderBindings.Proofs.Bindings.HeaderStruct
import ShaderBindings.Proofs.Bindings.SourceFunctions
import ShaderBindings.Proofs.Code.Frame

/-!
# Files put together from shaders

A file is printed by one printer which goes from shader to shader, and its
depth is that of all blocks that are open.  Every construct closes what it
opens and nothing else, so that the lines of a shader keep the frame in which
they are printed, whatever that is: `Shader.lines_keepFrame`.

Hence what is printed for a shader is what a printer of its own prints for it
one block deep.  So each file consists of fixed texts and of the texts of the
single shaders in between.

`Catalog.generation` prints both files with a record for each shader.  Its lines
are those of the files and its records those of the shaders, each in order,
since neither of them touches the other.

The main theorem, `Catalog.generation_compositional`, says all of this with
the fixed texts depending on the configuration only.
-/

namespace ShaderBindings

/-! ## The frame of a shader -/

namespace Shader

variable (config : Config) (shader : Shader)

theorem blank_notMem_structLines :
    Line.blank ∉ shader.structLines config := by
  have visible : ∀ line ∈ shader.structLines config, line ≠ .blank :=
    shader.forall_mem_structLines (by simp) (by simp) (by simp)
  exact fun member => visible _ member rfl

theorem isIndentedAlike_structLines
    (lack : Lack '\n' config.bareTexts) :
    IsIndentedAlike (shader.structLines config) := by
  have lines := shader.lack_of_mem_structLines (by decide)
    (lack_cons_iff.1 lack).1
  exact (shader.balanced_structLines config).isIndentedAlike
    (shader.blank_notMem_structLines config) fun line member =>
      Line.isOneLine_of_lack (lines line member)

theorem isIndentedAlike_loadLines
    (lack : Lack '\n' config.bareTexts) :
    IsIndentedAlike (shader.loadLines config) := by
  have instanceName : '\n' ∉ config.instanceName.toList :=
    lack _ (by simp [Config.bareTexts, Config.sourceTexts])
  have names : Lack '\n' config.gl.names := fun name member =>
    lack name (List.mem_cons_of_mem _ (List.mem_append_right _ member))
  have lines := shader.lack_of_mem_loadLines (by decide) instanceName names
  exact (shader.balanced_loadLines config).isIndentedAlike
    (shader.blank_notMem_loadLines config) fun line member =>
      Line.isOneLine_of_lack (lines line member)

/--
The struct of a shader and its statements keep every frame: whatever has been
printed stays in front of them, they leave as many blocks open as they have
found, and on the way no block is closed that was open before.  Unless a bare
text of the configuration has a newline, they are indented for the frame and
look the same in all frames apart from that.
-/
theorem lines_keepFrame :
    KeepsFrame (shader.structLines config) ∧
      KeepsFrame (shader.loadLines config) ∧
      (Lack '\n' config.bareTexts →
        IsIndentedAlike (shader.structLines config) ∧
          IsIndentedAlike (shader.loadLines config)) :=
  ⟨(shader.balanced_structLines config).keepsFrame,
    (shader.balanced_loadLines config).keepsFrame, fun lack =>
      ⟨shader.isIndentedAlike_structLines config lack,
        shader.isIndentedAlike_loadLines config lack⟩⟩

end Shader

/-! ## Printing with a log -/

namespace Emission

/-- The line that is printed, if one is. -/
def line? : Emission → Option Line
  | .line printed => some printed
  | .record _ => none

/-- The record that is made, if one is. -/
def record? : Emission → Option LogRecord
  | .line _ => none
  | .record entry => some entry

@[simp]
theorem filterMap_line?_recorded (entry : LogRecord) (lines : List Line) :
    (recorded entry lines).filterMap line? = lines := by
  simp [recorded, List.filterMap_cons, line?, Function.comp_def]

@[simp]
theorem filterMap_record?_recorded (entry : LogRecord)
    (lines : List Line) :
    (recorded entry lines).filterMap record? = [entry] := by
  simp [recorded, record?, Function.comp_def]

end Emission

/-- Lines do not touch the log, and records do not touch the text. -/
theorem Emitter.emitAll_eq (emitter : Emitter) (emissions : List Emission) :
    emitter.emitAll emissions =
      { printer :=
          emitter.printer.printAll (emissions.filterMap Emission.line?)
        log := emitter.log ++ emissions.filterMap Emission.record? } := by
  induction emissions generalizing emitter with
  | nil => simp [emitAll]
  | cons emission rest inductionHypothesis =>
      have next : emitter.emitAll (emission :: rest) =
          (emitter.emit emission).emitAll rest := rfl
      rw [next, inductionHypothesis]
      cases emission with
      | line printed =>
          simp [emit, List.filterMap_cons, Emission.line?, Emission.record?]
      | record entry =>
          simp [emit, List.filterMap_cons, Emission.line?, Emission.record?]

/-! ## The generation of both files -/

namespace Catalog

variable (config : Config) (catalog : Catalog)

/-- Without its records, the generation of the header prints its lines. -/
theorem line?_headerEmissions :
    (catalog.headerEmissions config).filterMap Emission.line? =
      catalog.headerLines config := by
  simp [headerEmissions, headerLines, List.filterMap_flatMap,
    Emission.line?, Function.comp_def]

/-- One record for each shader, in the order of the catalog. -/
theorem record?_headerEmissions :
    (catalog.headerEmissions config).filterMap Emission.record? =
      catalog.shaders.map fun shader => .declaring shader.name := by
  rw [List.map_eq_flatMap]
  simp [headerEmissions, List.filterMap_flatMap, Emission.record?,
    Function.comp_def]

/-- Without its records, the generation of the source prints its lines. -/
theorem line?_sourceEmissions :
    (catalog.sourceEmissions config).filterMap Emission.line? =
      catalog.sourceLines config := by
  simp [sourceEmissions, sourceLines, loadLines, filterMap_intercalate,
    Emission.line?, Function.comp_def]

/-- One record for each shader, in the order of the catalog. -/
theorem record?_sourceEmissions :
    (catalog.sourceEmissions config).filterMap Emission.record? =
      catalog.shaders.map fun shader => .loading shader.name := by
  rw [List.map_eq_flatMap, List.flatMap_def]
  simp [sourceEmissions, filterMap_intercalate, nil_intercalate,
    List.filterMap_cons, Emission.record?, Function.comp_def]

/-- The generation comes to the texts of both files and to both records. -/
theorem generation_eq :
    catalog.generation config =
      ({ header :=
          { name := config.headerName
            contents := catalog.header config }
         source :=
          { name := config.sourceName
            contents := catalog.source config } },
        catalog.shaders.map (fun shader => .declaring shader.name) ++
          catalog.shaders.map fun shader => .loading shader.name) := by
  simp [generation, Emitter.emitAll_eq, line?_headerEmissions,
    record?_headerEmissions, line?_sourceEmissions, record?_sourceEmissions,
    header, source, render, renderAt]

/-- The files are the text of the header and the text of the source file. -/
theorem generate_eq :
    catalog.generate config =
      { header :=
          { name := config.headerName
            contents := catalog.header config }
        source :=
          { name := config.sourceName
            contents := catalog.source config } } :=
  congrArg Prod.fst (catalog.generation_eq config)

/-- First all shaders are declared and then all are loaded, each in order. -/
theorem generationLog_eq :
    catalog.generationLog config =
      catalog.shaders.map (fun shader => .declaring shader.name) ++
        catalog.shaders.map fun shader => .loading shader.name :=
  congrArg Prod.snd (catalog.generation_eq config)

end Catalog

/-! ## The texts around and between the shaders -/

/-- The statement that deletes the program of a shader, as it is printed. -/
def Shader.deletion (config : Config) (shader : Shader) : String :=
  "   " ++ config.gl.deleteProgram ++ "(" ++ config.instanceName ++ "." ++
    shader.name ++ ".program);\n"

/-- The deletion of a program is one indented line. -/
theorem Shader.renderAt_deleteLine (config : Config) (shader : Shader) :
    renderAt 1 [shader.deleteLine config] = shader.deletion config := by
  have printed : renderAt 1 [shader.deleteLine config] =
      "   " ++ (shader.deleteLine config).text ++ "\n" := rfl
  rw [printed, deleteLine]
  apply String.toList_injective
  simp [Line.toList_text_perform, Call.text, Argument.text, Place.text,
    programPlace, place, programMember, deletion]

namespace Catalog

variable (config : Config) (catalog : Catalog)

/--
The declarations follow one another in the header, with nothing in between.
-/
theorem header_eq_join :
    catalog.header config =
      render config.headerOpening ++
        String.join (catalog.shaders.map (Shader.declaration config)) ++
        renderAt 1 config.headerClosing := by
  rw [header_eq, renderAt_flatMap fun shader _ =>
    shader.balanced_structLines config]
  rfl

/-- The definitions are one blank line apart. -/
theorem renderAt_loadLines :
    renderAt 1 (catalog.loadLines config) =
      "\n".intercalate (catalog.shaders.map (Shader.definition config)) := by
  rw [loadLines, renderAt_intercalate (.single rfl)
    (catalog.forall_balanced_loadLines config), List.map_map]
  rfl

theorem renderAt_deleteLines :
    renderAt 1 (catalog.shaders.map (Shader.deleteLine config)) =
      String.join (catalog.shaders.map (Shader.deletion config)) := by
  rw [List.map_eq_flatMap, renderAt_flatMap fun _ _ => .single rfl]
  simp only [Shader.renderAt_deleteLine]

/-- Both functions of the source file, with what stands around their bodies. -/
theorem source_eq_join :
    catalog.source config =
      render config.sourceOpening ++
        "\n".intercalate (catalog.shaders.map (Shader.definition config)) ++
        renderAt 1 config.sourceMiddle ++
        String.join (catalog.shaders.map (Shader.deletion config)) ++
        renderAt 1 config.sourceClosing := by
  have middleEnd : depthBehind 1 config.sourceMiddle = 1 := rfl
  have deletions :
      Balanced (catalog.shaders.map (Shader.deleteLine config)) := by
    apply Balanced.of_forall_stays
    intro line member
    obtain ⟨shader, _, rfl⟩ := List.mem_map.1 member
    rfl
  rw [source, sourceLines, render, List.append_assoc, List.append_assoc,
    List.append_assoc, renderAt_append, depthBehind_sourceOpening,
    renderAt_append_of_balanced (catalog.balanced_loadLines config),
    renderAt_append, middleEnd, renderAt_append_of_balanced deletions,
    renderAt_loadLines, renderAt_deleteLines]
  simp only [render, String.append_assoc]

/--
For each configuration there are texts such that for every catalog the header
and the source file consist of them and of the texts of the single shaders, in
the order of the catalog.  The text of a shader ends with its last line, and in
the source file there is one empty line between two shaders.  The log of
printing both files has a record for each shader when it is declared, and then
one for each when it is loaded.
-/
theorem generation_compositional (config : Config) :
    (∀ shader : Shader, ∃ text, shader.definition config = text ++ "\n") ∧
      ∃ headerStart headerEnd sourceStart sourceMiddle sourceEnd : String,
        ∀ catalog : Catalog,
          catalog.header config =
              headerStart ++
                String.join
                  (catalog.shaders.map (Shader.declaration config)) ++
                headerEnd ∧
            catalog.source config =
              sourceStart ++
                "\n".intercalate
                  (catalog.shaders.map (Shader.definition config)) ++
                sourceMiddle ++
                String.join (catalog.shaders.map fun shader =>
                  "   " ++ config.gl.deleteProgram ++ "(" ++
                    config.instanceName ++ "." ++ shader.name ++
                    ".program);\n") ++
                sourceEnd ∧
            catalog.generation config =
              ({ header :=
                  { name := config.headerName
                    contents := catalog.header config }
                 source :=
                  { name := config.sourceName
                    contents := catalog.source config } },
                catalog.shaders.map (fun shader => .declaring shader.name) ++
                  catalog.shaders.map fun shader => .loading shader.name) := by
  refine ⟨fun shader => exists_renderAt_eq (List.cons_ne_nil _ _) 1,
    render config.headerOpening, renderAt 1 config.headerClosing,
    render config.sourceOpening, renderAt 1 config.sourceMiddle,
    renderAt 1 config.sourceClosing, fun catalog =>
      ⟨catalog.header_eq_join config, catalog.source_eq_join config,
        catalog.generation_eq config⟩⟩

end Catalog

end ShaderBindings
