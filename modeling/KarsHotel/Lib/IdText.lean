import Mathlib.Tactic.Common

/-!
# Ids as requests spell them

The database reads every spelling of a uuid and itself spells it in one way; texts that are compared
outside the database are equal only in one spelling.

* `IdText`: an id with its spelling; `IdText.ofId`: as the database spells it.
-/

namespace KarsHotel

/-- An id as a request spells it; the database's own spelling is 0. -/
structure IdText where
  id : ℕ
  spelling : ℕ
  deriving DecidableEq, Repr

namespace IdText

/-- An id as the database spells it. -/
def ofId (id : ℕ) : IdText := ⟨id, 0⟩

instance (n : ℕ) : OfNat IdText n :=
  ⟨ofId n⟩

@[simp] theorem id_ofId (id : ℕ) : (ofId id).id = id :=
  rfl

/-- The characters of the text. -/
def text (t : IdText) : String :=
  t.id.repr ++ if t.spelling = 0 then "" else "-" ++ t.spelling.repr

/-- The text is the one the database writes. -/
def Stored (t : IdText) : Prop := t = ofId t.id

instance (t : IdText) : Decidable t.Stored := by
  unfold Stored
  infer_instance

@[simp] theorem stored_ofId (id : ℕ) : (ofId id).Stored :=
  rfl

@[simp] theorem ofId_inj {a b : ℕ} : ofId a = ofId b ↔ a = b :=
  ⟨congrArg IdText.id, congrArg ofId⟩

/-- A text is equal to a stored one if it is stored itself and of the same id. -/
theorem ofId_eq_iff {a : ℕ} {t : IdText} : ofId a = t ↔ t.Stored ∧ a = t.id := by
  constructor
  · rintro rfl
    exact ⟨rfl, rfl⟩
  · rintro ⟨ht, rfl⟩
    exact ht.symm

end IdText

end KarsHotel
