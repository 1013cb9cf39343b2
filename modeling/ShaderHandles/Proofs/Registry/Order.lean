import ShaderHandles.Proofs.Registry.WellFormed
import ShaderHandles.Proofs.Table

/-!
# The order of a registry

A look-up takes the first shader of a name. In a well-formed registry there is no second one, so the
order decides nothing: a name belongs to the one shader that has it.

* `Registry.WellFormed.get?_eq_some_iff`: a look-up finds the shader that has the name.
* `Registry.WellFormed.perm`, `Registry.WellFormed.get?_perm`: what a well-formed registry keeps in
  another order.
-/

namespace ShaderHandles

namespace Registry

variable {registry other : Registry}

theorem get?_name_of_nodup (hNames : registry.names.Nodup) {shader : Shader}
    (hShader : shader ∈ registry.toList) : registry.get? shader.name = some shader :=
  find?_of_nodup hNames hShader

namespace WellFormed

theorem get?_eq_some_iff (h : registry.WellFormed) {name : String} {shader : Shader} :
    registry.get? name = some shader ↔ shader ∈ registry.toList ∧ shader.name = name := by
  constructor
  · intro hGet
    exact ⟨List.mem_of_find?_eq_some hGet, by simpa using List.find?_some hGet⟩
  · rintro ⟨hShader, rfl⟩
    exact get?_name_of_nodup h.names_nodup hShader

theorem perm (h : registry.WellFormed) (hOrder : registry.toList.Perm other.toList) :
    other.WellFormed where
  nonempty hEmpty := h.nonempty (List.Perm.eq_nil (hEmpty ▸ hOrder))
  names_nodup := (hOrder.map Shader.name).nodup_iff.mp h.names_nodup
  shader shader hShader := h.shader shader (hOrder.mem_iff.mpr hShader)

/-- A look-up does not depend on the order. -/
theorem get?_perm (h : registry.WellFormed) (hOrder : registry.toList.Perm other.toList)
    (name : String) : other.get? name = registry.get? name := by
  ext shader
  rw [(h.perm hOrder).get?_eq_some_iff, h.get?_eq_some_iff, hOrder.mem_iff]

end WellFormed

end Registry

end ShaderHandles
