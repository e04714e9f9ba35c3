import Mathlib.Data.Finset.Interval
import Mathlib.Order.Interval.Finset.Nat
import Mathlib.Tactic.Common

/-!
# Places in a room

One rule for creating a reservation, moving it and choosing a room for a partner. With the sale by
places off a reservation takes the room whole; with it on it takes as many places as it has people.

* `placesOf`, `allocatePlace`, `roomFits`; `spanFree` of the update service;
* `mem_takenPlaces`: the places the other stays hold;
* **`allocatePlace_run`**: where the lowest free place begins a free run long enough for the party,
  the run from the allocated place is free and inside the room;
* `spanFree_iff`: what the update service checks of a place;
* `PlaceFree`: the rule both stand for.
-/

namespace KarsHotel

/-- The people of a reservation. -/
structure Guests where
  adults : ℕ
  children : ℕ
  deriving DecidableEq, Repr

/-- Another stay of the room: its first place (1…capacity) and its people. -/
structure PlaceHolder extends Guests where
  placeNumber : ℕ
  deriving DecidableEq, Repr

/-- How many places a reservation takes. -/
def placesOf (guests : Guests) (capacity : ℕ) (multiPlace : Bool) : ℕ :=
  if !multiPlace then max 1 capacity else max 1 (guests.adults + guests.children)

/-- The places `o` holds when places are sold one by one. -/
def PlaceHolder.places (capacity : ℕ) (o : PlaceHolder) : Finset ℕ :=
  Finset.Ico o.placeNumber (o.placeNumber + placesOf o.toGuests capacity true)

/-- The set `taken` of `allocatePlace`, filled stay by stay. -/
def takenPlaces (capacity : ℕ) (others : List PlaceHolder) : Finset ℕ :=
  others.foldl (fun taken o => taken ∪ o.places capacity) ∅

/-- The first place for a new reservation, or `none`: the room is taken on these dates. -/
def allocatePlace (capacity : ℕ) (multiPlace : Bool) (guests : Guests)
    (others : List PlaceHolder) : Option ℕ :=
  if !multiPlace then
    if others.length = 0 then some 1 else none
  else
    let taken := takenPlaces capacity others
    let need := placesOf guests capacity true
    if (capacity : ℤ) - taken.card < need then none
    else (List.range' 1 capacity).find? fun p => p ∉ taken

/-- Is there room for a reservation of so many people. -/
def roomFits (capacity : ℕ) (multiPlace : Bool) (guests : Guests) (others : List PlaceHolder) :
    Bool := (allocatePlace capacity multiPlace guests others).isSome

/-- The test of an update on a place: inside the room, and free of the other stays. -/
def spanFree (capacity : ℕ) (multiPlace : Bool) (guests : Guests) (others : List PlaceHolder)
    (start : ℕ) : Bool :=
  let need := placesOf guests capacity multiPlace
  decide (1 ≤ start) && decide (start + (if multiPlace then need else 1) - 1 ≤ capacity) &&
    (if multiPlace then
      others.all fun o =>
        let n := placesOf o.toGuests capacity true
        decide (start + need - 1 < o.placeNumber) || decide (o.placeNumber + n - 1 < start)
    else decide (others.length = 0))

theorem placesOf_pos (g : Guests) (c : ℕ) (m : Bool) : 1 ≤ placesOf g c m := by
  unfold placesOf
  split <;> exact le_max_left _ _

/-- The number of places of a party does not depend on the room. -/
theorem placesOf_true (g : Guests) (c c' : ℕ) : placesOf g c true = placesOf g c' true := rfl

theorem mem_foldl_union {α : Type} (f : α → Finset ℕ) (l : List α) (s : Finset ℕ) (p : ℕ) :
    p ∈ l.foldl (fun t o => t ∪ f o) s ↔ p ∈ s ∨ ∃ o ∈ l, p ∈ f o := by
  induction l generalizing s with
  | nil => simp
  | cons a l ih => rw [List.foldl_cons, ih]; simp [or_assoc]

/-- **A place is taken when some stay holds it.** -/
theorem mem_takenPlaces {c : ℕ} {others : List PlaceHolder} {p : ℕ} :
    p ∈ takenPlaces c others ↔ ∃ o ∈ others, p ∈ o.places c := by
  rw [takenPlaces, mem_foldl_union]
  simp

/-! ## What the allocator gives -/

theorem allocatePlace_whole {c : ℕ} {g : Guests} {others : List PlaceHolder} {p : ℕ} :
    allocatePlace c false g others = some p ↔ others = [] ∧ p = 1 := by
  simp only [allocatePlace, Bool.not_false, if_true, List.length_eq_zero_iff]
  split_ifs with h
  · simp [h, eq_comm]
  · simp [h]

/-- The allocator hands out the lowest free place, when enough places are free in all. -/
theorem allocatePlace_lowest {c : ℕ} {g : Guests} {others : List PlaceHolder} {p : ℕ}
    (h : allocatePlace c true g others = some p) :
    1 ≤ p ∧ p ≤ c ∧ p ∉ takenPlaces c others ∧ (∀ q, 1 ≤ q → q < p → q ∈ takenPlaces c others) ∧
      (takenPlaces c others).card + placesOf g c true ≤ c := by
  simp only [allocatePlace, Bool.not_true, Bool.false_eq_true, if_false] at h
  split_ifs at h with hlt
  have hfree : p ∉ takenPlaces c others := by simpa using List.find?_some h
  have hmem := List.mem_range'_1.mp (List.mem_of_find?_eq_some h)
  refine ⟨hmem.1, by omega, hfree, fun q hq hqp => ?_, by omega⟩
  obtain ⟨_, l₁, l₂, hl, hl₁⟩ := List.find?_eq_some_iff_append.mp h
  -- everything before the found place in `1, 2, …` failed the test
  have hq₁ : q ∈ l₁ := by
    have hqm : q ∈ List.range' 1 c := List.mem_range'_1.mpr ⟨hq, by omega⟩
    rw [hl, List.mem_append, List.mem_cons] at hqm
    have hsorted : (List.range' 1 c).Pairwise (· < ·) := List.pairwise_lt_range'
    rw [hl, List.pairwise_append, List.pairwise_cons] at hsorted
    rcases hqm with h₁ | rfl | h₂
    · exact h₁
    · omega
    · exact absurd (hsorted.2.1.1 q h₂) (by omega)
  simpa using hl₁ q hq₁

/-- The lowest free place of the room begins a free run long enough for the party. -/
def FirstRunFree (capacity : ℕ) (guests : Guests) (others : List PlaceHolder) : Prop :=
  ∀ p ∈ Finset.Icc 1 capacity, p ∉ takenPlaces capacity others →
    (∀ q ∈ Finset.Ico 1 p, q ∈ takenPlaces capacity others) →
    ∀ q ∈ Finset.Ico p (p + placesOf guests capacity true), q ∉ takenPlaces capacity others

instance (c : ℕ) (g : Guests) (others : List PlaceHolder) : Decidable (FirstRunFree c g others) :=
  by unfold FirstRunFree; infer_instance

/-- A party of one place always fits where the allocator puts it. -/
theorem firstRunFree_of_single {c : ℕ} {g : Guests} {others : List PlaceHolder}
    (h : placesOf g c true = 1) : FirstRunFree c g others := by
  intro p _ hp _ q hq
  rw [h, Finset.mem_Ico] at hq
  rwa [show q = p by omega]

/-- **The run from the allocated place is free and inside the room.** -/
theorem allocatePlace_run {c : ℕ} {g : Guests} {others : List PlaceHolder} {p : ℕ}
    (h : allocatePlace c true g others = some p) (hf : FirstRunFree c g others) :
    1 ≤ p ∧ p + placesOf g c true ≤ c + 1 ∧
      ∀ q ∈ Finset.Ico p (p + placesOf g c true), q ∉ takenPlaces c others := by
  obtain ⟨h₁, hc, hfree, hlow, hcard⟩ := allocatePlace_lowest h
  have hrun := hf p (Finset.mem_Icc.mpr ⟨h₁, hc⟩) hfree
    fun q hq => hlow q (Finset.mem_Ico.mp hq).1 (Finset.mem_Ico.mp hq).2
  refine ⟨h₁, ?_, hrun⟩
  -- the places below `p` are taken, so the count leaves the run inside the room
  have hsub : Finset.Ico 1 p ⊆ takenPlaces c others := fun q hq =>
    hlow q (Finset.mem_Ico.mp hq).1 (Finset.mem_Ico.mp hq).2
  have := Finset.card_le_card hsub
  rw [Nat.card_Ico] at this
  omega

/-! ## What the update service checks -/

theorem spanFree_whole {c : ℕ} {g : Guests} {others : List PlaceHolder} {p : ℕ} :
    spanFree c false g others p = true ↔ 1 ≤ p ∧ p ≤ c ∧ others = [] := by
  simp [spanFree, and_assoc]

/-- **With places sold one by one, the run from `p` is inside the room and free.** -/
theorem spanFree_iff {c : ℕ} {g : Guests} {others : List PlaceHolder} {p : ℕ} :
    spanFree c true g others p = true ↔ 1 ≤ p ∧ p + placesOf g c true ≤ c + 1 ∧
      ∀ q ∈ Finset.Ico p (p + placesOf g c true), q ∉ takenPlaces c others := by
  have hg := placesOf_pos g c true
  simp only [spanFree, if_true, Bool.and_eq_true, decide_eq_true_eq, List.all_eq_true,
    Bool.or_eq_true, and_assoc]
  refine and_congr_right fun hp => and_congr (by omega) ?_
  constructor
  · intro h q hq hqt
    obtain ⟨o, ho, hqo⟩ := mem_takenPlaces.mp hqt
    have := placesOf_pos o.toGuests c true
    rw [PlaceHolder.places, Finset.mem_Ico] at hqo
    rw [Finset.mem_Ico] at hq
    have := h o ho
    omega
  · intro h o ho
    have hn := placesOf_pos o.toGuests c true
    by_contra hc
    -- the larger of the two starts lies in both runs
    refine h (max p o.placeNumber) (Finset.mem_Ico.mpr (by omega)) (mem_takenPlaces.mpr ⟨o, ho, ?_⟩)
    exact Finset.mem_Ico.mpr (by omega)

/-! ## The rule both stand for -/

/-- A party may stand at place `p` beside the others: the room is empty, or the run of its places is
inside the room and free. -/
structure PlaceFree (capacity : ℕ) (multiPlace : Bool) (guests : Guests)
    (others : List PlaceHolder) (p : ℕ) : Prop where
  whole : multiPlace = false → others = []
  inside : multiPlace = true → 1 ≤ p ∧ p + placesOf guests capacity true ≤ capacity + 1
  free : multiPlace = true → ∀ q ∈ Finset.Ico p (p + placesOf guests capacity true),
    q ∉ takenPlaces capacity others

section PlaceFree

variable {c : ℕ} {m : Bool} {g : Guests} {others : List PlaceHolder} {p : ℕ}

theorem placeFree_of_spanFree (h : spanFree c m g others p = true) : PlaceFree c m g others p := by
  cases m with
  | false => exact ⟨fun _ => (spanFree_whole.mp h).2.2, nofun, nofun⟩
  | true =>
    obtain ⟨h₁, hc, hf⟩ := spanFree_iff.mp h
    exact ⟨nofun, fun _ => ⟨h₁, hc⟩, fun _ => hf⟩

theorem placeFree_of_allocatePlace (h : allocatePlace c m g others = some p)
    (hf : m = true → FirstRunFree c g others) : PlaceFree c m g others p := by
  cases m with
  | false => exact ⟨fun _ => (allocatePlace_whole.mp h).1, nofun, nofun⟩
  | true =>
    obtain ⟨h₁, hc, hf⟩ := allocatePlace_run h (hf rfl)
    exact ⟨nofun, fun _ => ⟨h₁, hc⟩, fun _ => hf⟩

end PlaceFree

end KarsHotel
