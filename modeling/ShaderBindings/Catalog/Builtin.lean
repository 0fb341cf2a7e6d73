import ShaderBindings.Catalog.Basic

/-!
# The built-in catalog

The shaders of the game client.  The paths are relative to the client's
shader directory; they are resolved when the programs are built.
-/

namespace ShaderBindings

/-- The shaders that are bound when nothing else is asked for. -/
def builtinShaders : List Shader :=
  [{ name := "circle"
     vertexPath := "circle.vert"
     fragmentPath := "circle.frag"
     attributes := ["vertex"]
     uniforms := ["projection", "color", "radius"] },
   { name := "circle_filled"
     vertexPath := "circle.vert"
     fragmentPath := "circle_filled.frag"
     attributes := ["vertex"]
     uniforms := ["projection", "color", "radius"] },
   { name := "circle_partial"
     vertexPath := "circle.vert"
     fragmentPath := "circle_partial.frag"
     attributes := ["vertex"]
     uniforms := ["projection", "color", "radius", "angle1", "angle2"] },
   { name := "solid"
     vertexPath := "project.vert"
     fragmentPath := "solid.frag"
     attributes := ["vertex"]
     uniforms := ["projection", "color"] },
   { name := "trail"
     vertexPath := "project_pos.vert"
     fragmentPath := "trail.frag"
     attributes := ["vertex"]
     uniforms :=
       ["projection", "c1", "c2", "t1", "t2", "dt", "pos1", "pos2", "r",
         "nebu_col"]
     groups :=
       [{ name := "trail_func"
          variants :=
            ["trail_default", "trail_pulse", "trail_wave", "trail_flame",
             "trail_nebula", "trail_arc", "trail_bubbles"] }] },
   { name := "smooth"
     vertexPath := "smooth.vert"
     fragmentPath := "smooth.frag"
     attributes := ["vertex", "vertex_color"]
     uniforms := ["projection"] },
   { name := "texture"
     vertexPath := "texture.vert"
     fragmentPath := "texture.frag"
     attributes := ["vertex"]
     uniforms := ["projection", "color", "tex_mat"] },
   { name := "texture_interpolate"
     vertexPath := "texture.vert"
     fragmentPath := "texture_interpolate.frag"
     attributes := ["vertex"]
     uniforms :=
       ["projection", "color", "tex_mat", "sampler1", "sampler2", "inter"] },
   { name := "nebula"
     vertexPath := "nebula.vert"
     fragmentPath := "nebula_overlay.frag"
     attributes := ["vertex"]
     uniforms :=
       ["projection", "hue", "brightness", "horizon", "eddy_scale", "time"] },
   { name := "nebula_background"
     vertexPath := "nebula.vert"
     fragmentPath := "nebula_background.frag"
     attributes := ["vertex"]
     uniforms := ["projection", "hue", "brightness", "eddy_scale", "time"] },
   { name := "nebula_map"
     vertexPath := "nebula_map.vert"
     fragmentPath := "nebula_map.frag"
     attributes := ["vertex"]
     uniforms :=
       ["projection", "hue", "eddy_scale", "time", "globalpos", "alpha"] },
   { name := "stars"
     vertexPath := "stars.vert"
     fragmentPath := "stars.frag"
     attributes := ["vertex", "brightness"]
     uniforms := ["projection", "star_xy", "wh", "xy", "scale"] },
   { name := "font"
     vertexPath := "font.vert"
     fragmentPath := "font.frag"
     attributes := ["vertex", "tex_coord"]
     uniforms := ["projection", "color", "outline_color"] },
   { name := "safelanes"
     vertexPath := "project_pos.vert"
     fragmentPath := "safelanes.frag"
     attributes := ["vertex"]
     uniforms := ["projection", "color", "dimensions"] },
   { name := "beam"
     vertexPath := "project_pos.vert"
     fragmentPath := "beam.frag"
     attributes := ["vertex"]
     uniforms := ["projection", "color", "dt", "r", "dimensions"]
     groups :=
       [{ name := "beam_func"
          variants :=
            ["beam_default", "beam_wave", "beam_arc", "beam_helix",
             "beam_organic", "beam_unstable", "beam_fuzzy"] }] },
   { name := "tk"
     vertexPath := "tk.vert"
     fragmentPath := "tk.frag"
     attributes := ["vertex"]
     uniforms :=
       ["projection", "c", "dc", "lc", "oc", "wh", "corner_radius"] },
   { name := "jump"
     vertexPath := "project_pos.vert"
     fragmentPath := "jump.frag"
     attributes := ["vertex"]
     uniforms := ["projection", "progress", "direction", "dimensions"]
     groups :=
       [{ name := "jump_func"
          variants :=
            ["jump_default", "jump_nebula", "jump_organic", "jump_circular",
             "jump_wind"] }] },
   { name := "colorblind"
     vertexPath := "postprocess.vert"
     fragmentPath := "colorblind.frag"
     attributes := ["VertexPosition"]
     uniforms := ["ClipSpaceFromLocal", "MainTex"] },
   { name := "shake"
     vertexPath := "postprocess.vert"
     fragmentPath := "shake.frag"
     attributes := ["VertexPosition"]
     uniforms :=
       ["ClipSpaceFromLocal", "MainTex", "shake_pos", "shake_vel",
         "shake_force"] },
   { name := "damage"
     vertexPath := "postprocess.vert"
     fragmentPath := "damage.frag"
     attributes := ["VertexPosition"]
     uniforms :=
       ["ClipSpaceFromLocal", "MainTex", "damage_strength",
         "love_ScreenSize"] },
   { name := "gamma_correction"
     vertexPath := "postprocess.vert"
     fragmentPath := "gamma_correction.frag"
     attributes := ["VertexPosition"]
     uniforms := ["ClipSpaceFromLocal", "MainTex", "gamma"] },
   { name := "status"
     vertexPath := "project_pos.vert"
     fragmentPath := "status.frag"
     attributes := ["vertex"]
     uniforms := ["projection", "ok"] },
   { name := "progressbar"
     vertexPath := "project_pos.vert"
     fragmentPath := "progressbar.frag"
     attributes := ["vertex"]
     uniforms := ["projection", "dimensions", "progress"] }]

/-- The catalog of the built-in shaders. -/
def Catalog.builtin : Catalog where
  shaders := builtinShaders

end ShaderBindings
