import KarsHotel.Lib.IdText
import KarsHotel.Lib.StableSort
import KarsHotel.Pricing.Store

/-!
# Seasons and standard prices

Which price a plan has for a day that has no daily rate: of the seasons that cover the day the one
that starts last, then the one of the highest sort order; without one, the standard price.

* `pickByOccupancy`, `BaselineResolver`, `BaselineResolver.resolve`: the rule;
* `BaselineResolver.resolveText`: the same for ids as texts, which must be those of the rows;
* **`resolve_congr`**: only the rows that cover the day count.
-/

namespace KarsHotel

/-- A price row with the number of guests it is for; 0 is any number. -/
class HasOccupancy (T : Type) where
  occupancy : T → ℕ
  price : T → Price

instance : HasOccupancy RateSeason := ⟨RateSeason.occupancy, RateSeason.price⟩

instance : HasOccupancy StandardRate := ⟨StandardRate.occupancy, StandardRate.price⟩

section Pick

variable {T : Type} [HasOccupancy T]

/-- The row for exactly so many guests, else for any number; where the number is not known, for any
number, else for the fewest. -/
def pickByOccupancy (rows : List T) (occupancy : Option ℕ) : Option T :=
  let occ : T → ℕ := HasOccupancy.occupancy
  let any := rows.find? fun r => decide (occ r = 0)
  match occupancy with
  | some (n + 1) => (rows.find? fun r => decide (occ r = n + 1)).or any
  | _ => any.or (rows.insertionSort fun a b => occ a ≤ occ b).head?

end Pick

/-- The order of the seasons of a plan: the latest start first, then the highest sort order. -/
def RateSeason.Before (a b : RateSeason) : Prop :=
  b.dateFrom < a.dateFrom ∨ a.dateFrom = b.dateFrom ∧ b.sortOrder ≤ a.sortOrder

instance : DecidableRel RateSeason.Before := fun a b => by
  unfold RateSeason.Before
  infer_instance

instance : Std.Total RateSeason.Before where
  total a b := by
    unfold RateSeason.Before
    rcases lt_trichotomy a.dateFrom b.dateFrom with h | h | h
    · exact .inr (.inl h)
    · rcases le_total a.sortOrder b.sortOrder with hs | hs
      · exact .inr (.inr ⟨h.symm, hs⟩)
      · exact .inl (.inr ⟨h, hs⟩)
    · exact .inl (.inl h)

instance : IsTrans RateSeason RateSeason.Before where
  trans a b c hab hbc := by
    rcases hab with h | ⟨h, hs⟩ <;> rcases hbc with h' | ⟨h', hs'⟩
    · exact .inl (h'.trans h)
    · exact .inl (h' ▸ h)
    · exact .inl (h ▸ h')
    · exact .inr ⟨h.trans h', hs'.trans hs⟩

def RateSeason.Covers (s : RateSeason) (day : Day) : Prop := s.dateFrom ≤ day ∧ day ≤ s.dateTo

instance (s : RateSeason) (day : Day) : Decidable (s.Covers day) := by
  unfold RateSeason.Covers
  infer_instance

/-- The two seasons have one window and one sort order. -/
def RateSeason.SameWindow (a b : RateSeason) : Prop :=
  a.dateFrom = b.dateFrom ∧ a.dateTo = b.dateTo ∧ a.sortOrder = b.sortOrder

instance : DecidableRel RateSeason.SameWindow := fun a b => by
  unfold RateSeason.SameWindow
  infer_instance

/-- The rows a price is looked up in. -/
structure BaselineResolver where
  seasons : List RateSeason
  standards : List StandardRate

namespace BaselineResolver

/-- The seasons of a plan and a room type, the most specific first. -/
def seasonsByKey (b : BaselineResolver) (planId : RatePlanId) (roomTypeId : RoomTypeId) :
    List RateSeason :=
  (b.seasons.filter fun s => decide (s.ratePlanId = planId ∧ s.roomTypeId = roomTypeId)).insertionSort
    RateSeason.Before

/-- The standard prices of a plan and a room type. -/
def standardByKey (b : BaselineResolver) (planId : RatePlanId) (roomTypeId : RoomTypeId) :
    List StandardRate :=
  b.standards.filter fun s => decide (s.ratePlanId = planId ∧ s.roomTypeId = roomTypeId)

def seasonPrice (b : BaselineResolver) (planId : RatePlanId) (roomTypeId : RoomTypeId) (day : Day)
    (occupancy : Option ℕ) : Option Price :=
  match (b.seasonsByKey planId roomTypeId).filter fun s => decide (s.Covers day) with
  | [] => none
  | top :: covering =>
    (pickByOccupancy ((top :: covering).filter fun s => decide (s.SameWindow top)) occupancy).map
      (·.price)

/-- Season, then standard price. -/
def resolve (b : BaselineResolver) (planId : RatePlanId) (roomTypeId : RoomTypeId) (day : Day)
    (occupancy : Option ℕ) : Option Price :=
  (b.seasonPrice planId roomTypeId day occupancy).or
    ((pickByOccupancy (b.standardByKey planId roomTypeId) occupancy).map (·.price))

/-! ### Ids as texts -/

/-- The price of a day for ids as the caller writes them: the lookups compare texts, and the rows
have the database's. -/
def resolveText (b : BaselineResolver) (planId roomTypeId : IdText) (day : Day)
    (occupancy : Option ℕ) : Option Price :=
  let found : RatePlanId → RoomTypeId → Bool := fun p r =>
    decide (IdText.ofId p = planId ∧ IdText.ofId r = roomTypeId)
  resolve ⟨b.seasons.filter fun s => found s.ratePlanId s.roomTypeId,
    b.standards.filter fun s => found s.ratePlanId s.roomTypeId⟩ planId.id roomTypeId.id day occupancy

theorem resolve_nil (planId : RatePlanId) (roomTypeId : RoomTypeId) (day : Day)
    (occupancy : Option ℕ) : resolve ⟨[], []⟩ planId roomTypeId day occupancy = none := by
  cases occupancy with
  | none => rfl
  | some n => cases n <;> rfl

/-- **As the database writes them**, the rows of the ids are found. -/
@[simp] theorem resolveText_ofId (b : BaselineResolver) (planId : RatePlanId) (roomTypeId : RoomTypeId)
    (day : Day) (occupancy : Option ℕ) :
    b.resolveText (.ofId planId) (.ofId roomTypeId) day occupancy =
      b.resolve planId roomTypeId day occupancy := by
  have hseasons : seasonsByKey ⟨b.seasons.filter fun s => decide (s.ratePlanId = planId ∧
      s.roomTypeId = roomTypeId), b.standards⟩ planId roomTypeId = b.seasonsByKey planId roomTypeId := by
    unfold seasonsByKey
    rw [List.filter_filter]
    simp only [Bool.and_self]
  unfold resolveText resolve seasonPrice
  simp only [IdText.ofId_inj, IdText.id_ofId]
  rw [← hseasons]
  unfold standardByKey seasonsByKey
  simp only [List.filter_filter, Bool.and_self]

/-- **In another spelling of the type** no row is found. -/
theorem resolveText_of_not_stored (b : BaselineResolver) (planId : IdText) {roomTypeId : IdText}
    (h : ¬roomTypeId.Stored) (day : Day) (occupancy : Option ℕ) :
    b.resolveText planId roomTypeId day occupancy = none := by
  have hnone : ∀ r : RoomTypeId, IdText.ofId r ≠ roomTypeId := fun r heq =>
    h (IdText.ofId_eq_iff.mp heq).1
  unfold resolveText
  simp only [hnone, and_false, decide_false, List.filter_false]
  exact resolve_nil _ _ _ _

/-- The seasons that cover a day, the most specific first. -/
theorem seasonsByKey_covering (b : BaselineResolver) (planId : RatePlanId) (roomTypeId : RoomTypeId)
    (day : Day) :
    (b.seasonsByKey planId roomTypeId).filter (fun s => decide (s.Covers day)) =
      (b.seasons.filter fun s => decide (s.Covers day) &&
        decide (s.ratePlanId = planId ∧ s.roomTypeId = roomTypeId)).insertionSort
          RateSeason.Before := by
  rw [seasonsByKey, filter_insertionSort, List.filter_filter]

/-- **Only the rows of the plan, and of these the seasons that cover the day, count.** -/
theorem resolve_congr {b b' : BaselineResolver} {planId : RatePlanId} {roomTypeId : RoomTypeId}
    {day : Day} (occupancy : Option ℕ)
    (hs : ∀ p : RateSeason → Bool, (∀ s, p s = true ↔ s.ratePlanId = planId ∧
      s.roomTypeId = roomTypeId ∧ s.Covers day) → b.seasons.filter p = b'.seasons.filter p)
    (hst : b.standardByKey planId roomTypeId = b'.standardByKey planId roomTypeId) :
    b.resolve planId roomTypeId day occupancy = b'.resolve planId roomTypeId day occupancy := by
  have hseason : b.seasonPrice planId roomTypeId day occupancy =
      b'.seasonPrice planId roomTypeId day occupancy := by
    rw [seasonPrice, seasonPrice, seasonsByKey_covering, seasonsByKey_covering, hs _ fun s => ?_]
    simp only [Bool.and_eq_true, decide_eq_true_eq]
    tauto
  rw [resolve, resolve, hseason, hst]

end BaselineResolver

end KarsHotel
