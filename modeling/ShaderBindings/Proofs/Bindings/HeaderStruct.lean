import ShaderBindings.Bindings.Header
import ShaderBindings.Proofs.Bindings.ShaderLines
import ShaderBindings.Proofs.Code.Structs
import ShaderBindings.Proofs.IncludeGuard

/-!
# The struct in the header

The lines of the struct in the header are those of its members: one member for
each shader, which holds the handles of the shader and one struct for each
subroutine group.  They are read back from the text of the header, with no
regard to the rest of the configuration.

The text of the header is determined by these members, and so by the names of
the shaders, their attributes and uniforms taken together, and their groups:
`Catalog.header_eq_iff_sameLayout`.
-/

namespace ShaderBindings

/-! ## The members -/

/-- One handle for each name. -/
def Config.handleMembers (config : Config) (names : List String) :
    List Member :=
  names.map (.handle config.gl.handleType)

/-- The struct of a subroutine group. -/
def SubroutineGroup.member (config : Config) (group : SubroutineGroup) :
    Member :=
  .struct group.name (config.handleMembers group.members)

/-- What stands in the struct of a shader. -/
def Shader.structMembers (config : Config) (shader : Shader) : List Member :=
  config.handleMembers
      (programMember :: (shader.attributes ++ shader.uniforms)) ++
    shader.groups.map (SubroutineGroup.member config)

/-- The struct of a shader. -/
def Shader.member (config : Config) (shader : Shader) : Member :=
  .struct shader.name (shader.structMembers config)

/-- The members of the struct in the header. -/
def Catalog.members (config : Config) (catalog : Catalog) : List Member :=
  catalog.shaders.map (Shader.member config)

section MemberLines

variable (config : Config)

/-- The lines of handles are those that the header prints for them. -/
theorem memberLines_handleMembers (names : List String) :
    memberLines (config.handleMembers names) = config.handleLines names := by
  induction names with
  | nil => simp [Config.handleMembers, Config.handleLines, memberLines]
  | cons name rest inductionHypothesis =>
      simp only [Config.handleMembers, Config.handleLines, List.map_cons,
        memberLines] at inductionHypothesis ⊢
      rw [inductionHypothesis]

theorem SubroutineGroup.memberLines_member (group : SubroutineGroup) :
    memberLines [group.member config] = group.structLines config := by
  simp [member, memberLines, memberLines_handleMembers, structLines]

theorem Shader.memberLines_member (shader : Shader) :
    memberLines [shader.member config] = shader.structLines config := by
  simp [member, structMembers, memberLines, memberLines_handleMembers,
    memberLines_map, SubroutineGroup.memberLines_member, structLines]

/-- The lines of the members are the structs of the shaders, in order. -/
theorem Catalog.memberLines_members (catalog : Catalog) :
    memberLines (catalog.members config) =
      catalog.shaders.flatMap (Shader.structLines config) := by
  simp [members, memberLines_map, Shader.memberLines_member]

end MemberLines

/-! ## Reading the struct back -/

section Reading

variable {config : Config}
  (handleNamed : isIdentifier config.gl.handleType = true)

include handleNamed

/-- The struct of a shader has lines of structs only. -/
theorem Shader.isStructLine_of_mem_structLines (shader : Shader) :
    ∀ line ∈ shader.structLines config, line.IsStructLine :=
  shader.forall_mem_structLines trivial
    (fun _ identifier => ⟨handleNamed, identifier⟩)
    (fun _ identifier => identifier)

theorem Catalog.isStructLine_of_mem_memberLines (catalog : Catalog) :
    ∀ line ∈ memberLines (catalog.members config), line.IsStructLine := by
  intro line member
  rw [memberLines_members, List.mem_flatMap] at member
  rcases member with ⟨shader, _, inside⟩
  exact shader.isStructLine_of_mem_structLines handleNamed line inside

/-- The members are read back from the lines of the structs. -/
theorem Catalog.readMembers_structLines (catalog : Catalog) :
    readMembers (indentedLines 1
        (catalog.shaders.flatMap (Shader.structLines config))) =
      some (catalog.members config) := by
  rw [← memberLines_members]
  exact readMembers_indentedLines
    (catalog.isStructLine_of_mem_memberLines handleNamed) 1

end Reading

/-! ## The text of the header -/

/-- The lines of the header in front of the struct. -/
def Config.headerPreamble (config : Config) : List Line :=
  config.bannerLines ++
    [.unlessDefined config.includeGuard, .define config.includeGuard] ++
    config.headerIncludes.map .includeLocal ++ [.blank]

/-- Behind the preamble of the header, the struct is opened. -/
theorem Config.headerOpening_eq (config : Config) :
    config.headerOpening =
      config.headerPreamble ++ [.openTypedef config.typeName] := by
  simp [headerOpening, headerPreamble]

/-- What lines there are in front of the struct. -/
theorem Config.mem_headerPreamble {config : Config} {line : Line}
    (member : line ∈ config.headerPreamble) :
    line = .comment ("FILE GENERATED BY " ++ config.generator) ∨
      line = .blank ∨ line = .unlessDefined config.includeGuard ∨
      line = .define config.includeGuard ∨
      ∃ header, line = .includeLocal header := by
  simp only [headerPreamble, bannerLines, List.mem_append, List.mem_cons,
    List.not_mem_nil, or_false, List.mem_map] at member
  rcases member with (((rfl | rfl) | (rfl | rfl)) | ⟨header, _, rfl⟩) | rfl
  all_goals simp

theorem Config.nesting_of_mem_headerPreamble {config : Config} {line : Line}
    (member : line ∈ config.headerPreamble) : line.nesting = .stays := by
  rcases mem_headerPreamble member with
    rfl | rfl | rfl | rfl | ⟨header, rfl⟩
  all_goals rfl

/-- In front of the structs of the shaders one block is open. -/
theorem Config.depthBehind_headerOpening (config : Config) :
    depthBehind 0 config.headerOpening = 1 := by
  have preamble : Balanced config.headerPreamble :=
    .of_forall_stays fun _ => nesting_of_mem_headerPreamble
  rw [headerOpening_eq, depthBehind_append, preamble.depthBehind_eq]
  rfl

/-- The struct of a shader closes the structs in it and itself. -/
theorem Shader.balanced_structLines (config : Config) (shader : Shader) :
    Balanced (shader.structLines config) := by
  rw [← memberLines_member]
  exact balanced_memberLines _

theorem Catalog.balanced_structLines (config : Config) (catalog : Catalog) :
    Balanced (catalog.shaders.flatMap (Shader.structLines config)) :=
  .flatMap fun shader _ => shader.balanced_structLines config

/-- The text of the header: what precedes the members, they, and the rest. -/
theorem Catalog.header_eq (config : Config) (catalog : Catalog) :
    catalog.header config =
      render config.headerOpening ++
        renderAt 1 (catalog.shaders.flatMap (Shader.structLines config)) ++
        renderAt 1 config.headerClosing := by
  rw [header, headerLines, render, renderAt_append, renderAt_append,
    depthBehind_append, config.depthBehind_headerOpening,
    (catalog.balanced_structLines config).depthBehind_eq, render]

theorem Config.lack_of_mem_headerPreamble {config : Config}
    {character : Char} (fixed : character ∉ "FILE GENERATED BY ".toList)
    (guard : character ∉ config.includeGuard.toList)
    (lack : Lack character config.sourceTexts) :
    ∀ line ∈ config.headerPreamble, Lack character line.bareTexts := by
  intro line member
  rcases Config.mem_headerPreamble member with
    rfl | rfl | rfl | rfl | ⟨header, rfl⟩
  · exact lack_banner fixed lack
  · exact lack_nil
  · exact lack_cons_iff.2 ⟨guard, lack_nil⟩
  · exact lack_cons_iff.2 ⟨guard, lack_nil⟩
  · exact lack_nil

theorem Config.lack_of_mem_headerClosing {config : Config}
    {character : Char} (lack : Lack character config.sourceTexts) :
    ∀ line ∈ config.headerClosing, Lack character line.bareTexts := by
  simp only [sourceTexts, List.cons_append, lack_cons_iff] at lack
  obtain ⟨_, typeName, instanceName, loadFunction, unloadFunction, _⟩ := lack
  simp only [headerClosing, List.forall_mem_cons, Line.bareTexts,
    lack_cons_iff, lack_nil, and_true, true_and]
  exact ⟨typeName, ⟨typeName, instanceName⟩, loadFunction, unloadFunction,
    List.forall_mem_nil _⟩

/-- No line of the preamble could be taken for the start of the struct. -/
theorem Config.text_ne_openTypedef {config : Config} {line : Line}
    (member : line ∈ config.headerPreamble) :
    line.text.toList ≠ (Line.openTypedef config.typeName).text.toList := by
  have start : (Line.openTypedef config.typeName).text.toList.head? =
      some 't' := by
    show ("typedef struct " ++ config.typeName ++ "_ \x7b").toList.head? = _
    simp
  intro same
  rw [← same] at start
  rcases mem_headerPreamble member with rfl | rfl | rfl | rfl | ⟨header, rfl⟩
  · change ("/* " ++ ("FILE GENERATED BY " ++ config.generator) ++
      " */").toList.head? = _ at start
    simp at start
  · cases start
  · change ("#ifndef " ++ config.includeGuard).toList.head? = _ at start
    simp at start
  · change ("#define " ++ config.includeGuard).toList.head? = _ at start
    simp at start
  · change ("#include " ++ quote header).toList.head? = _ at start
    simp at start

theorem Config.indentedLines_headerOpening (config : Config) :
    indentedLines 0 config.headerOpening =
      config.headerPreamble.map (Line.indentedAt 0) ++
        [(Line.openTypedef config.typeName).text.toList] := by
  have stays : ∀ line ∈ config.headerPreamble, line.nesting = .stays :=
    fun _ => nesting_of_mem_headerPreamble
  rw [headerOpening_eq, indentedLines_append, indentedLines_of_stays stays,
    (Balanced.of_forall_stays stays).depthBehind_eq]
  simp [indentedLines, Line.level, Line.nesting]

/-- The struct is closed at the margin, before anything else. -/
theorem Config.indentedLines_headerClosing (config : Config) :
    indentedLines 1 config.headerClosing =
      (Line.closeStruct config.typeName).text.toList ::
        indentedLines 0 (config.headerClosing.drop 1) := by
  rw [← Line.indentedAt_zero]
  rfl

/-- Where the bare texts of the header come from. -/
theorem Catalog.lack_of_mem_headerLines {config : Config} {character : Char}
    (noPart : isIdentifierPart character = false)
    (fixed : character ∉ "FILE GENERATED BY ".toList)
    (guard : character ∉ config.includeGuard.toList)
    (lack : Lack character config.bareTexts) (catalog : Catalog) :
    ∀ line ∈ catalog.headerLines config, Lack character line.bareTexts := by
  rw [Config.bareTexts, lack_cons_iff] at lack
  have typeName : character ∉ config.typeName.toList :=
    lack.2 _ (by simp [Config.sourceTexts])
  rw [headerLines, config.headerOpening_eq]
  simp only [List.forall_mem_append, List.forall_mem_singleton,
    List.forall_mem_flatMap]
  exact ⟨⟨⟨Config.lack_of_mem_headerPreamble fixed guard lack.2,
      lack_cons_iff.2 ⟨typeName, lack_nil⟩⟩,
    fun shader _ => shader.lack_of_mem_structLines noPart lack.1⟩,
    Config.lack_of_mem_headerClosing lack.2⟩

/-- No line of the header is broken unless the configuration breaks it. -/
theorem Catalog.isOneLine_of_mem_headerLines {config : Config}
    (lack : Lack '\n' config.bareTexts) (catalog : Catalog) :
    ∀ line ∈ catalog.headerLines config, line.IsOneLine := by
  have guard : '\n' ∉ config.includeGuard.toList :=
    config.notMem_includeGuard (by decide +kernel) (by decide) (by decide)
  have lines := catalog.lack_of_mem_headerLines (by decide) (by decide)
    guard lack
  exact fun line member => Line.isOneLine_of_lack (lines line member)

section ReadingText

variable {config : Config} (named : config.IsWellNamed)
  (handleNamed : isIdentifier config.gl.handleType = true)
  (catalog : Catalog)

include named handleNamed

/-- The members of the struct are read back from the text of the header. -/
theorem Catalog.readTypedef_header :
    readTypedef config.typeName (cutLines (catalog.header config).toList) =
      some (catalog.members config) := by
  have cut := cutLines_renderAt
    (catalog.isOneLine_of_mem_headerLines
      (named.lack_bareTexts handleNamed)) 0 []
  have struct := catalog.balanced_structLines config
  have noOpening : ∀ text ∈ config.headerPreamble.map (Line.indentedAt 0),
      text ≠ (Line.openTypedef config.typeName).text.toList := by
    intro text member
    rcases List.mem_map.1 member with ⟨line, lineMember, rfl⟩
    rw [Line.indentedAt_zero]
    exact config.text_ne_openTypedef lineMember
  have noClosing : ∀ text ∈ indentedLines 1
      (catalog.shaders.flatMap (Shader.structLines config)),
      text ≠ (Line.closeStruct config.typeName).text.toList :=
    fun text member => (struct.isIndented 1 text member).ne_closeStruct _
  rw [List.append_nil, headerLines, indentedLines_append,
    indentedLines_append, depthBehind_append,
    config.depthBehind_headerOpening, struct.depthBehind_eq,
    config.indentedLines_headerOpening, config.indentedLines_headerClosing]
    at cut
  rw [header, render, headerLines, cut]
  simp only [List.append_assoc, List.cons_append, List.nil_append]
  rw [readTypedef_append noOpening noClosing]
  exact catalog.readMembers_structLines handleNamed

end ReadingText

/-! ## The header depends on the layout -/

/-- The structs of two shaders are the same. -/
structure Shader.SameLayout (shader other : Shader) : Prop where
  name : shader.name = other.name
  handles : shader.attributes ++ shader.uniforms =
    other.attributes ++ other.uniforms
  groups : shader.groups = other.groups

/-- Whether a member is a handle and no struct. -/
def Member.isHandle : Member → Bool
  | handle _ _ => true
  | struct _ _ => false

theorem Config.handleMembers_injective (config : Config) :
    Function.Injective config.handleMembers := by
  apply List.map_injective_iff.2
  intro first second same
  cases same
  rfl

/-- The struct of a group tells its name and its variants. -/
theorem SubroutineGroup.member_injective (config : Config) :
    Function.Injective (SubroutineGroup.member config) := by
  intro first second same
  injection same with name members
  have handles := config.handleMembers_injective members
  injection handles with _ variants
  exact congrArg₂ SubroutineGroup.mk name variants

/-- The struct of a shader tells the layout and nothing else. -/
theorem Shader.member_eq_iff (config : Config) (shader other : Shader) :
    shader.member config = other.member config ↔
      shader.SameLayout other := by
  have inside (names : List String) :
      ∀ member ∈ config.handleMembers names, member.isHandle = true := by
    intro member handle
    rcases List.mem_map.1 handle with ⟨name, _, rfl⟩
    rfl
  have stops (groups : List SubroutineGroup) : Stops Member.isHandle
      (groups.map (SubroutineGroup.member config)) := by
    cases groups with
    | nil => exact stops_nil
    | cons group later => exact stops_cons rfl _
  constructor
  · intro same
    injection same with name members
    rcases append_inj_of_stops (inside _) (stops _) (inside _) (stops _)
      members with ⟨handles, groups⟩
    have fields := config.handleMembers_injective handles
    injection fields with _ fields
    exact ⟨name, fields, List.map_injective_iff.2
      (SubroutineGroup.member_injective config) groups⟩
  · intro same
    simp [member, structMembers, same.name, same.handles, same.groups]

/-- The members tell the layouts of the shaders, one by one. -/
theorem Catalog.members_eq_iff (config : Config) (catalog other : Catalog) :
    catalog.members config = other.members config ↔
      List.Forall₂ Shader.SameLayout catalog.shaders other.shaders := by
  rw [members, members, ← List.forall₂_eq_eq_eq, List.forall₂_map_left_iff,
    List.forall₂_map_right_iff]
  simp only [Shader.member_eq_iff]

/--
Two headers are the same exactly when the shaders agree, one by one, in the
name, in the attributes and uniforms taken together, and in the groups.
-/
theorem Catalog.header_eq_iff_sameLayout {config : Config}
    (handleNamed : isIdentifier config.gl.handleType = true)
    (catalog other : Catalog) :
    catalog.header config = other.header config ↔
      List.Forall₂ Shader.SameLayout catalog.shaders other.shaders := by
  rw [← members_eq_iff config]
  constructor
  · intro same
    have oneLine (either : Catalog) :
        ∀ line ∈ either.shaders.flatMap (Shader.structLines config),
          line.IsOneLine := by
      rw [← memberLines_members]
      intro line member
      exact (either.isStructLine_of_mem_memberLines handleNamed line
        member).isOneLine
    rw [header_eq, header_eq, String.append_left_inj,
      String.append_right_inj] at same
    have lines := indentedLines_eq_of_renderAt_eq (oneLine catalog)
      (oneLine other) same
    have read := catalog.readMembers_structLines handleNamed
    rw [lines, other.readMembers_structLines handleNamed] at read
    exact (Option.some.inj read).symm
  · intro same
    rw [header_eq, header_eq, ← memberLines_members, same,
      memberLines_members]

/-- A uniform becomes an attribute, and the header does not change. -/
theorem Catalog.header_eq_of_moved_uniform :
    isIdentifier ({} : Config).gl.handleType = true ∧
      Catalog.header {}
          { shaders :=
              [{ name := "sky"
                 vertexPath := "sky.vert"
                 fragmentPath := "sky.frag"
                 attributes := ["position"]
                 uniforms := ["time"] }] } =
        Catalog.header {}
          { shaders :=
              [{ name := "sky"
                 vertexPath := "quad.vert"
                 fragmentPath := "stars.frag"
                 attributes := ["position", "time"] }] } :=
  ⟨by decide, (header_eq_iff_sameLayout (by decide) _ _).2
    (.cons ⟨rfl, rfl, rfl⟩ .nil)⟩

end ShaderBindings
