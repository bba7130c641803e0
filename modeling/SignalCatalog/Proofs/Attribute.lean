import SignalCatalog.Attribute
import SignalCatalog.Proofs.Text.Trimming

/-!
# Spellings of attribute values

Every member of a closed set is read from its own spelling.
-/

namespace SignalCatalog

/-- The spellings of the members tell them apart. -/
class LawfulAttribute (α : Type) [Attribute α] : Prop where
  member?_spelling : ∀ value : α, Attribute.member? (Attribute.spelling value) = some value
  filled_spelling : ∀ value : α, Text.Filled (Attribute.spelling value)

attribute [simp] LawfulAttribute.member?_spelling

instance : LawfulAttribute MemoryRegion :=
  ⟨fun value => by cases value <;> decide, fun value => by cases value <;> decide⟩

instance : LawfulAttribute AccessOrder :=
  ⟨fun value => by cases value <;> decide, fun value => by cases value <;> decide⟩

instance : LawfulAttribute Transport :=
  ⟨fun value => by cases value <;> decide, fun value => by cases value <;> decide⟩

instance : LawfulAttribute Checksum :=
  ⟨fun value => by cases value <;> decide, fun value => by cases value <;> decide⟩

instance : LawfulAttribute SafetyLevel :=
  ⟨fun value => by cases value <;> decide, fun value => by cases value <;> decide⟩

instance : LawfulAttribute Initial :=
  ⟨fun value => by cases value <;> decide, fun value => by cases value <;> decide⟩

end SignalCatalog
