import Mathlib.Tactic.Common
import Mathlib.Algebra.Order.Group.Unbundled.Int

/-!
# Trying again

A loop that tries a call, waits, and tries again, at most once for each pause of a list, and stops
at the first answer that is final.

* `Attempt`, `mayTry`, `attempt`: the attempts made so far, and one more of them;
* `Tried`: no more than the pauses, none after a final answer, each after its pause;
* **`tried_attempt`**: an attempt keeps that.
-/

namespace KarsHotel.Retries

/-- One attempt: when it began, when it was over, and what came of it. -/
structure Attempt (α : Type) where
  began : ℤ
  ended : ℤ
  answer : α
  deriving DecidableEq, Repr

section Loop

variable {α : Type} (isFinal : α → Bool) (pauses : List ℕ) (start : ℤ)

/-- The loop is over: all its turns are taken, or the last answer was final. -/
def ended (l : List (Attempt α)) : Bool :=
  decide (pauses.length ≤ l.length) || l.getLast?.any fun a => isFinal a.answer

/-- The moment before which the next attempt does not begin. -/
def wake (l : List (Attempt α)) : ℤ := (l.getLast?.map (·.ended)).getD start + pauses.getD l.length 0

def mayTry (l : List (Attempt α)) (now : ℤ) : Bool :=
  !ended isFinal pauses l && decide (wake pauses start l ≤ now)

/-- One more attempt, where the loop makes one. -/
def attempt (l : List (Attempt α)) (a : Attempt α) : List (Attempt α) :=
  if mayTry isFinal pauses start l a.began then l ++ [a] else l

/-- What holds of the attempts of the loop. -/
structure Tried (l : List (Attempt α)) : Prop where
  few : l.length ≤ pauses.length
  /-- Only the last answer may be final. -/
  again : ∀ a ∈ l.dropLast, isFinal a.answer = false
  /-- The first attempt waits for the first pause. -/
  first : ∀ a ∈ l.head?, start + pauses.getD 0 0 ≤ a.began
  /-- The others wait from the end of the one before. -/
  spaced : ∀ (k : ℕ) (a b : Attempt α), l[k]? = some a → l[k + 1]? = some b →
    a.ended + pauses.getD (k + 1) 0 ≤ b.began

variable {isFinal pauses start}

theorem tried_nil : Tried isFinal pauses start [] :=
  ⟨Nat.zero_le _, nofun, nofun, nofun⟩

theorem mayTry_eq_true {l : List (Attempt α)} {now : ℤ} : mayTry isFinal pauses start l now = true ↔
    l.length < pauses.length ∧ (∀ a ∈ l.getLast?, isFinal a.answer = false) ∧
      wake pauses start l ≤ now := by
  rw [mayTry, ended, Bool.and_eq_true, Bool.not_eq_true', Bool.or_eq_false_iff, decide_eq_false_iff_not,
    decide_eq_true_eq, not_le, and_assoc]
  refine and_congr_right fun _ => and_congr_left fun _ => ?_
  cases l.getLast? <;> simp

/-- **One more attempt keeps the rules.** -/
theorem tried_attempt {l : List (Attempt α)} (h : Tried isFinal pauses start l) (a : Attempt α) :
    Tried isFinal pauses start (attempt isFinal pauses start l a) := by
  unfold attempt
  split_ifs with hmay
  · obtain ⟨hfew, hlast, hwake⟩ := mayTry_eq_true.mp hmay
    refine ⟨?_, fun b hb => ?_, fun b hb => ?_, fun k b c hb hc => ?_⟩
    · rw [List.length_append]
      exact hfew
    · -- all that came before the new one: the old last answer was not final
      rw [List.dropLast_concat] at hb
      rcases List.eq_nil_or_concat l with rfl | ⟨m, x, rfl⟩
      · exact absurd hb List.not_mem_nil
      · rw [List.concat_eq_append] at h hlast hb
        rcases List.mem_append.mp hb with hb | hb
        · exact h.again b (by rwa [List.dropLast_concat])
        · rw [List.mem_singleton.mp hb]
          exact hlast x (by simp)
    · cases l with
      | nil =>
        obtain rfl : a = b := by simpa using hb
        exact hwake
      | cons x l => exact h.first b (by simpa using hb)
    · have hklt : k + 1 < l.length + 1 := by
        have := (List.getElem?_eq_some_iff.mp hc).1
        rwa [List.length_append, List.length_singleton] at this
      rw [List.getElem?_append_left (Nat.lt_of_succ_lt_succ hklt)] at hb
      rcases Nat.lt_or_ge (k + 1) l.length with hlt | hge
      · rw [List.getElem?_append_left hlt] at hc
        exact h.spaced k b c hb hc
      · -- the new attempt comes after the last one
        have hlen : l.length = k + 1 := le_antisymm hge (Nat.lt_of_succ_lt_succ hklt)
        obtain rfl : a = c := by
          rw [← hlen, List.getElem?_concat_length] at hc
          exact Option.some.inj hc
        have hgetLast : l.getLast? = some b := by
          rw [List.getLast?_eq_getElem?, hlen, Nat.add_sub_cancel]
          exact hb
        rw [wake, hgetLast, hlen] at hwake
        exact hwake
  · exact h

end Loop

end KarsHotel.Retries
