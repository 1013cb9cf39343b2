import ShaderHandles.Registry.Basic

/-!
# The production registry

The shaders that the game ships with: the general shaders first, then the simple marker and overlay
effects.

* `Registry.production`: both, in that order.
-/

namespace ShaderHandles.Registry

def productionGeneral : List GeneralShader :=
  [{ name := "circle_partial", vertexPath := "circle.vert", fragmentPath := "circle_partial.frag",
      attributes := ["vertex"],
      uniforms := ["projection", "color", "radius", "angle1", "angle2"] },
    { name := "solid", vertexPath := "project.vert", fragmentPath := "solid.frag",
      attributes := ["vertex"],
      uniforms := ["projection", "color"] },
    { name := "trail", vertexPath := "project_pos.vert", fragmentPath := "trail.frag",
      attributes := ["vertex"],
      uniforms := ["projection", "c1", "c2", "t1", "t2", "dt", "pos1", "pos2", "r", "nebu_col"],
      groups := [⟨"trail_func",
        ["trail_default", "trail_pulse", "trail_wave", "trail_flame", "trail_nebula",
         "trail_arc", "trail_bubbles"]⟩] },
    { name := "smooth", vertexPath := "smooth.vert", fragmentPath := "smooth.frag",
      attributes := ["vertex", "vertex_color"],
      uniforms := ["projection"] },
    { name := "texture", vertexPath := "texture.vert", fragmentPath := "texture.frag",
      attributes := ["vertex"],
      uniforms := ["projection", "color", "tex_mat"] },
    { name := "texture_interpolate", vertexPath := "texture.vert",
      fragmentPath := "texture_interpolate.frag",
      attributes := ["vertex"],
      uniforms := ["projection", "color", "tex_mat", "sampler1", "sampler2", "inter"] },
    { name := "nebula", vertexPath := "nebula.vert", fragmentPath := "nebula_overlay.frag",
      attributes := ["vertex"],
      uniforms := ["projection", "hue", "brightness", "horizon", "eddy_scale", "time"] },
    { name := "nebula_background", vertexPath := "nebula.vert",
      fragmentPath := "nebula_background.frag",
      attributes := ["vertex"],
      uniforms := ["projection", "hue", "brightness", "eddy_scale", "time"] },
    { name := "nebula_map", vertexPath := "nebula_map.vert", fragmentPath := "nebula_map.frag",
      attributes := ["vertex"],
      uniforms := ["projection", "hue", "eddy_scale", "time", "globalpos", "alpha"] },
    { name := "stars", vertexPath := "stars.vert", fragmentPath := "stars.frag",
      attributes := ["vertex", "brightness", "relspeed", "color"],
      uniforms := ["projection", "star_xy", "wh", "xy", "scale"] },
    { name := "font", vertexPath := "font.vert", fragmentPath := "font.frag",
      attributes := ["vertex", "tex_coord"],
      uniforms := ["projection", "m", "color", "outline_color"] },
    { name := "beam", vertexPath := "project_pos.vert", fragmentPath := "beam.frag",
      attributes := ["vertex"],
      uniforms := ["projection", "color", "dt", "r", "dimensions"],
      groups := [⟨"beam_func",
        ["beam_default", "beam_wave", "beam_arc", "beam_helix", "beam_organic",
         "beam_unstable", "beam_fuzzy"]⟩] },
    { name := "jump", vertexPath := "project_pos.vert", fragmentPath := "jump.frag",
      attributes := ["vertex"],
      uniforms := ["projection", "progress", "direction", "dimensions"],
      groups := [⟨"jump_func",
        ["jump_default", "jump_nebula", "jump_organic", "jump_circular", "jump_wind"]⟩] },
    { name := "material", vertexPath := "material.vert", fragmentPath := "material.frag",
      attributes := ["vertex", "vertex_normal", "vertex_tex"],
      uniforms := ["projection", "model", "map_Kd", "map_Ks", "map_Ke", "map_Bump", "Ns", "Ka",
                   "Kd", "Ks", "Ke", "Ni", "d", "bm"] },
    { name := "colorblind", vertexPath := "postprocess.vert", fragmentPath := "colorblind.frag",
      attributes := ["VertexPosition"],
      uniforms := ["ClipSpaceFromLocal", "MainTex"] },
    { name := "shake", vertexPath := "postprocess.vert", fragmentPath := "shake.frag",
      attributes := ["VertexPosition"],
      uniforms := ["ClipSpaceFromLocal", "MainTex", "shake_pos", "shake_vel", "shake_force"] },
    { name := "gamma_correction", vertexPath := "postprocess.vert",
      fragmentPath := "gamma_correction.frag",
      attributes := ["VertexPosition"],
      uniforms := ["ClipSpaceFromLocal", "MainTex", "gamma"] }]

/-- The simple shaders of the game: markers and overlays. -/
def productionSimple : List SimpleShader :=
  [⟨"status", "status.frag"⟩,
    ⟨"factiondisk", "factiondisk.frag"⟩,
    ⟨"planetmarker", "planetmarker.frag"⟩,
    ⟨"jumpmarker", "jumpmarker.frag"⟩,
    ⟨"pilotmarker", "pilotmarker.frag"⟩,
    ⟨"playermarker", "playermarker.frag"⟩,
    ⟨"blinkmarker", "blinkmarker.frag"⟩,
    ⟨"sysmarker", "sysmarker.frag"⟩,
    ⟨"asteroidmarker", "asteroidmarker.frag"⟩,
    ⟨"targetship", "targetship.frag"⟩,
    ⟨"targetplanet", "targetplanet.frag"⟩,
    ⟨"sdfsolid", "sdfsolid.frag"⟩,
    ⟨"circle", "circle.frag"⟩,
    ⟨"crosshairs", "crosshairs.frag"⟩,
    ⟨"hilight", "hilight.frag"⟩,
    ⟨"hilight_pos", "hilight_pos.frag"⟩,
    ⟨"hilight_circle", "hilight_circle.frag"⟩,
    ⟨"progressbar", "progressbar.frag"⟩]

/-- The registry that the game ships with. -/
def production : Registry :=
  ofList (productionGeneral.map .general ++ productionSimple.map .simple)

end ShaderHandles.Registry
