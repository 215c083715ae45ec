/-
  What is asked of readers where it matters: the maps that they answer with have no key twice, the
  dates in tables exist, and a text without content is the table without entries. The standard
  readers have all of this.
-/
import Frontmatter.Proofs.Toml.Blank
import Frontmatter.Proofs.Toml.Distinct
import Frontmatter.Proofs.Toml.Leaves
import Frontmatter.Proofs.Yaml.Distinct
import Frontmatter.Readers.Standard

namespace Frontmatter.Readers

/-- Whether no value that is read from YAML has a key twice in an object. -/
def ValuesDistinct [Readers] : Prop := ∀ text v, Readers.yaml text = some v → v.Distinct

/-- Whether no table that is read from TOML has a key twice, at any depth. -/
def TablesDistinct [Readers] : Prop :=
  ∀ text table, Readers.toml text = .ok table → (Toml.Item.table table).Distinct

/-- Whether the dates and times that are read from TOML are in the ranges of the calendar and the
clock. -/
def DatesValid [Readers] : Prop :=
  ∀ text table, Readers.toml text = .ok table →
    ∀ d, .datetime d ∈ (Toml.Item.table table).leaves → d.Valid

/-- Whether TOML text of spaces and line feeds is the table without entries. -/
def BlankIsEmpty [Readers] : Prop :=
  ∀ text, Toml.IsBlank text.toList → Readers.toml text = .ok []

/-! ## The standard readers -/

theorem toml_standard_eq_ok_iff {text : String} {table : Toml.Table} :
    Readers.toml text = .ok table ↔ Toml.read text = .ok table := by
  show (Toml.read text).mapError (Toml.Fault.message text) = .ok table ↔ _
  cases Toml.read text <;> simp [Except.mapError]

theorem standard_valuesDistinct : ValuesDistinct := fun _ _ => Yaml.distinct_read

theorem standard_tablesDistinct : TablesDistinct := fun _ _ h =>
  Toml.distinct_read (toml_standard_eq_ok_iff.mp h)

theorem standard_datesValid : DatesValid := fun _ _ h _ hd =>
  Toml.valid_of_read (toml_standard_eq_ok_iff.mp h) hd

theorem standard_blankIsEmpty : BlankIsEmpty := fun _ h =>
  toml_standard_eq_ok_iff.mpr (Toml.read_blank h)

end Frontmatter.Readers
