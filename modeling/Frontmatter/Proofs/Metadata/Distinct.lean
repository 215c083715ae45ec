/-
  Decoders that answer with maps. The decoders for YAML and TOML do if the readers do
  (`distinct_yaml`, `distinct_toml`). So a registry of the default decoders and others does if the
  others do (`distinct_ofOverrides`).
-/
import Frontmatter.Proofs.Metadata.Registry
import Frontmatter.Proofs.Readers

namespace Frontmatter

/-- Whether no object in what a decoder answers with has a key twice. -/
def Decoder.Distinct (d : Decoder) : Prop := ∀ raw v, d raw = .ok (some v) → v.Distinct

/-- Whether all decoders of a registry answer with maps. -/
def Registry.Distinct (r : Registry) : Prop := ∀ tag d, r.get? tag = some d → d.Distinct

/-! ## The decoders for YAML and TOML -/

section
variable [Readers]

theorem Decoder.distinct_yaml (hvalues : Readers.ValuesDistinct) : yaml.Distinct := by
  intro raw v h
  unfold yaml at h
  split at h
  · cases h
  · split at h
    · cases h
    · cases h
    · next hread => cases h; exact hvalues _ _ hread

theorem Decoder.distinct_toml (htables : Readers.TablesDistinct) : toml.Distinct := by
  intro raw v h
  unfold toml at h
  split at h
  · cases h
  · next table hread =>
    unfold ofTable at h
    split at h
    · next fields hfields =>
      cases h
      obtain ⟨hnodup, hentries⟩ := htables _ _ hread
      obtain ⟨hkeys, hdistinct⟩ := Toml.distinct_tableFields? table fields hentries hfields
      exact ⟨hkeys ▸ hnodup, hdistinct⟩
    · cases h

end

/-! ## Registries -/

namespace Registry

variable {r : Registry} {decoders : List (String × Decoder)}

theorem distinct_register (hr : r.Distinct) {d : Decoder} (hd : d.Distinct) (tag : String) :
    (r.register tag d).Distinct := by
  intro other d' h
  rw [get?_register] at h
  split at h
  · cases h; exact hd
  · exact hr other d' h

theorem distinct_registerAll (hr : r.Distinct) (hd : ∀ d ∈ decoders, d.2.Distinct) :
    (r.registerAll decoders).Distinct := by
  induction decoders generalizing r with
  | nil => exact hr
  | cons d rest ih =>
    exact ih (distinct_register hr (hd d List.mem_cons_self) d.1)
      fun e he => hd e (List.mem_cons_of_mem _ he)

/-- Only decoders beside the default ones can answer with anything but maps. -/
theorem distinct_ofOverrides [Readers] (hvalues : Readers.ValuesDistinct)
    (htables : Readers.TablesDistinct) (hd : ∀ d ∈ decoders, d.2.Distinct) :
    (ofOverrides decoders).Distinct := by
  have hempty : empty.Distinct := by intro tag d h; cases h
  have hyaml := distinct_register hempty (Decoder.distinct_yaml hvalues) "yaml"
  have hdefaults : defaults.Distinct :=
    distinct_register hyaml (Decoder.distinct_toml htables) "toml"
  exact distinct_registerAll hdefaults hd

end Registry

end Frontmatter
