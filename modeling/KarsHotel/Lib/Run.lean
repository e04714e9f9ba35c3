import Mathlib.Tactic.Common

/-!
# Runs of a step function

* `StepsMeet`: every step of a run meets a condition on the state before it and the operation;
* **`foldl_keeps`**: what every step keeps, every run keeps;
* `foldl_keeps_all`: the same without a condition; `foldlM_keeps`: the same for steps that may fail.
-/

namespace KarsHotel

variable {σ ι : Type}

/-- Every step of a run meets a condition on the state before it and the operation. -/
def StepsMeet (step : σ → ι → σ) (ok : σ → ι → Prop) : σ → List ι → Prop
  | _, [] => True
  | s, op :: ops => ok s op ∧ StepsMeet step ok (step s op) ops

instance StepsMeet.decidable (step : σ → ι → σ) (ok : σ → ι → Prop) [∀ s op, Decidable (ok s op)] :
    ∀ s ops, Decidable (StepsMeet step ok s ops)
  | _, [] => .isTrue trivial
  | s, op :: ops =>
    have : Decidable (StepsMeet step ok (step s op) ops) := decidable step ok (step s op) ops
    inferInstanceAs (Decidable (_ ∧ _))

/-- **What every step keeps, every run keeps.** -/
theorem foldl_keeps {step : σ → ι → σ} {ok : σ → ι → Prop} {P : σ → Prop}
    (hstep : ∀ s op, P s → ok s op → P (step s op)) {s : σ} {ops : List ι} (hP : P s)
    (hok : StepsMeet step ok s ops) : P (ops.foldl step s) := by
  induction ops generalizing s with
  | nil => exact hP
  | cons op ops ih => exact ih (hstep s op hP hok.1) hok.2

theorem stepsMeet_of_forall {step : σ → ι → σ} {ok : σ → ι → Prop} (h : ∀ s op, ok s op) (s : σ)
    (ops : List ι) : StepsMeet step ok s ops := by
  induction ops generalizing s with
  | nil => trivial
  | cons op ops ih => exact ⟨h s op, ih _⟩

/-- An invariant with a condition at every step gives what follows from the two at every step. -/
theorem StepsMeet.imp {step : σ → ι → σ} {ok ok' : σ → ι → Prop} {P : σ → Prop}
    (hstep : ∀ s op, P s → ok s op → P (step s op) ∧ ok' s op) {s : σ} {ops : List ι} (hP : P s)
    (h : StepsMeet step ok s ops) : StepsMeet step ok' s ops := by
  induction ops generalizing s with
  | nil => trivial
  | cons op ops ih =>
    obtain ⟨hP', hok⟩ := hstep s op hP h.1
    exact ⟨hok, ih hP' h.2⟩

/-- Conditions that are met at the same steps are met in the same runs. -/
theorem stepsMeet_congr {step : σ → ι → σ} {ok ok' : σ → ι → Prop} (h : ∀ s op, ok s op ↔ ok' s op)
    {s : σ} {ops : List ι} : StepsMeet step ok s ops ↔ StepsMeet step ok' s ops := by
  have hsame : ok = ok' := by
    funext s op
    exact propext (h s op)
  rw [hsame]

theorem stepsMeet_append_singleton {step : σ → ι → σ} {ok : σ → ι → Prop} {s : σ} {ops : List ι}
    {op : ι} : StepsMeet step ok s (ops ++ [op]) ↔
      StepsMeet step ok s ops ∧ ok (ops.foldl step s) op := by
  induction ops generalizing s with
  | nil => exact ⟨fun h => ⟨trivial, h.1⟩, fun h => ⟨h.2, trivial⟩⟩
  | cons o ops ih =>
    show (ok s o ∧ StepsMeet step ok (step s o) (ops ++ [op])) ↔ _
    rw [ih]
    exact and_assoc.symm

/-- **What every step keeps**, whatever the operations. -/
theorem foldl_keeps_all {step : σ → ι → σ} {P : σ → Prop} (hstep : ∀ s op, P s → P (step s op))
    {s : σ} (ops : List ι) (hP : P s) : P (ops.foldl step s) := by
  induction ops generalizing s with
  | nil => exact hP
  | cons op ops ih => exact ih (hstep s op hP)

/-- What every step of the run keeps, of steps that may fail. -/
theorem foldlM_keeps_of_mem {ε : Type} {step : σ → ι → Except ε σ} {P : σ → Prop} {s s' : σ}
    {ops : List ι} (hstep : ∀ s, ∀ op ∈ ops, ∀ s', P s → step s op = .ok s' → P s') (hP : P s)
    (h : ops.foldlM step s = .ok s') : P s' := by
  induction ops generalizing s with
  | nil =>
    cases h
    exact hP
  | cons op ops ih =>
    rw [List.foldlM_cons] at h
    cases hop : step s op with
    | error x =>
      rw [hop] at h
      cases h
    | ok t =>
      rw [hop] at h
      exact ih (fun s o ho => hstep s o (List.mem_cons_of_mem _ ho))
        (hstep s op List.mem_cons_self t hP hop) h

/-- **What every step keeps**, of steps that may fail. -/
theorem foldlM_keeps {ε : Type} {step : σ → ι → Except ε σ} {P : σ → Prop}
    (hstep : ∀ s op s', P s → step s op = .ok s' → P s') {s s' : σ} {ops : List ι} (hP : P s)
    (h : ops.foldlM step s = .ok s') : P s' :=
  foldlM_keeps_of_mem (fun s op _ => hstep s op) hP h

end KarsHotel
