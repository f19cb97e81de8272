import Mathlib.Data.List.Basic
import Mathlib.Data.List.Pairwise

/-!
# Runs of a labelled transition system

A run records every step it took: the state before, the label, and the state after. Properties
of a single state are then invariants, and properties that speak about history (what was paid
so far, which names were ever used) are invariants of the pair of a trace and its last state.
-/

namespace ArioSolana

/-- One step of a run. -/
structure Step (σ ι : Type*) where
  before : σ
  label : ι
  after : σ

section

variable {σ ι : Type*} {step : σ → ι → σ → Prop}

/-- `Run step s₀ tr s`: the steps of `tr`, latest first, lead from `s₀` to `s`. -/
inductive Run (step : σ → ι → σ → Prop) (s₀ : σ) : List (Step σ ι) → σ → Prop
  | nil : Run step s₀ [] s₀
  | cons {tr s i s'} (run : Run step s₀ tr s) (last : step s i s') :
      Run step s₀ (⟨s, i, s'⟩ :: tr) s'

namespace Run

variable {s₀ s s' : σ} {tr tr' : List (Step σ ι)} {e : Step σ ι}

/-- **Invariants of states.** The same for a property of the state alone, along runs whose
labels all satisfy `A`. -/
theorem invariant {P : σ → Prop} {A : ι → Prop} (start : P s₀)
    (preserved : ∀ s i s', A i → P s → step s i s' → P s')
    (run : Run step s₀ tr s) (allowed : ∀ e ∈ tr, A e.label) : P s := by
  induction run with
  | nil => exact start
  | cons run last ih =>
    have hhead := allowed _ List.mem_cons_self
    have htail := ih fun e he => allowed e (List.mem_cons_of_mem _ he)
    exact preserved _ _ _ hhead htail last

/-- Every recorded step is a step of the system, taken at the end of a shorter run. -/
theorem of_mem (run : Run step s₀ tr s) (he : e ∈ tr) :
    ∃ tr', Run step s₀ tr' e.before ∧ step e.before e.label e.after ∧ (e :: tr') <:+ tr := by
  induction run with
  | nil => simp at he
  | @cons tr s i s' run last ih =>
    rcases List.mem_cons.mp he with rfl | he
    · exact ⟨tr, run, last, List.suffix_rfl⟩
    · obtain ⟨tr', run', step', hsuf⟩ := ih he
      exact ⟨tr', run', step', hsuf.trans (List.suffix_cons _ _)⟩

/-- The first steps of a run are a run. -/
theorem of_append (run : Run step s₀ (tr' ++ tr) s) : ∃ s₁, Run step s₀ tr s₁ := by
  induction tr' generalizing s with
  | nil => exact ⟨s, run⟩
  | cons e tr' ih =>
    cases run with
    | cons run _ => exact ih run

/-- A run is determined by its trace. -/
theorem last_eq (run : Run step s₀ tr s) (run' : Run step s₀ tr s') : s = s' := by
  cases run with
  | nil => cases run'; rfl
  | cons _ _ => cases run'; rfl

end Run

/-- Run a list of labels through a step function, oldest label first. -/
def runAll {ε : Type*} (exec : σ → ι → Except ε σ) : σ → List ι → Except ε σ
  | s, [] => .ok s
  | s, i :: is => match exec s i with
    | .ok s' => runAll exec s' is
    | .error e => .error e

/-- The state that a computation ends in, or `s` if it fails. -/
def outcome {ε : Type*} (x : Except ε σ) (s : σ) : σ :=
  match x with
  | .ok s' => s'
  | .error _ => s

lemma eq_ok_outcome {ε : Type*} {x : Except ε σ} {s : σ} (h : x.isOk = true) :
    x = .ok (outcome x s) := by
  cases x with
  | ok s' => rfl
  | error e => cases h

lemma runAll_append {ε : Type*} {exec : σ → ι → Except ε σ} (is js : List ι) {s s' : σ} :
    runAll exec s (is ++ js) = .ok s' ↔
      ∃ s₁, runAll exec s is = .ok s₁ ∧ runAll exec s₁ js = .ok s' := by
  induction is generalizing s with
  | nil => simp [runAll]
  | cons i is ih =>
    simp only [List.cons_append, runAll]
    split
    · exact ih
    · simp

/-- A list of labels that runs through continues a run. -/
lemma run_of_runAll {ε : Type*} {exec : σ → ι → Except ε σ} {is : List ι} {s₀ s s' : σ}
    {tr : List (Step σ ι)} (run : Run (fun s i s' => exec s i = .ok s') s₀ tr s)
    (h : runAll exec s is = .ok s') :
    ∃ tr', Run (fun s i s' => exec s i = .ok s') s₀ (tr' ++ tr) s' ∧
      tr'.map (·.label) = is.reverse := by
  induction is generalizing s tr with
  | nil =>
    obtain rfl : s = s' := by simpa [runAll] using h
    exact ⟨[], run, rfl⟩
  | cons i is ih =>
    simp only [runAll] at h
    split at h
    · rename_i s₁ h₁
      obtain ⟨tr', run', hlab⟩ := ih (run.cons h₁) h
      exact ⟨tr' ++ [⟨s, i, s₁⟩], by simpa using run', by simp [hlab]⟩
    · simp at h

/-- Runs one after the other. -/
lemma Run.append {s₀ s₁ s₂ : σ} {tr₁ tr₂ : List (Step σ ι)} (run₁ : Run step s₀ tr₁ s₁)
    (run₂ : Run step s₁ tr₂ s₂) : Run step s₀ (tr₂ ++ tr₁) s₂ := by
  induction run₂ with
  | nil => exact run₁
  | cons _ last ih => exact ih.cons last

/-- The steps of a list of labels, latest first, up to the first that fails. -/
def traceAll {ε : Type*} (exec : σ → ι → Except ε σ) : σ → List ι → List (Step σ ι)
  | _, [] => []
  | s, i :: is => match exec s i with
    | .ok s' => traceAll exec s' is ++ [⟨s, i, s'⟩]
    | .error _ => []

lemma run_traceAll {ε : Type*} {exec : σ → ι → Except ε σ} {is : List ι} {s : σ}
    (h : (runAll exec s is).isOk = true) :
    Run (fun s i s' => exec s i = .ok s') s (traceAll exec s is)
        (outcome (runAll exec s is) s) := by
  induction is generalizing s with
  | nil => exact .nil
  | cons i is ih =>
    cases hi : exec s i with
    | error e => simp [runAll, hi, Except.isOk, Except.toBool] at h
    | ok s' =>
      simp only [runAll, hi] at h
      have hout : outcome (runAll exec s (i :: is)) s = outcome (runAll exec s' is) s' := by
        obtain hok := eq_ok_outcome (s := s') h
        simp only [runAll, hi]
        rw [hok]
        rfl
      simp only [traceAll, hi]
      rw [hout]
      exact (Run.cons .nil hi).append (ih h)

/-- The state after a list of labels, latest first; a label that fails changes nothing. -/
def stateAfter {ε : Type*} (exec : σ → ι → Except ε σ) (s₀ : σ) : List ι → σ
  | [] => s₀
  | i :: is => outcome (exec (stateAfter exec s₀ is) i) (stateAfter exec s₀ is)

/-- The steps of a list of labels, latest first. -/
def traceOf {ε : Type*} (exec : σ → ι → Except ε σ) (s₀ : σ) : List ι → List (Step σ ι)
  | [] => []
  | i :: is => ⟨stateAfter exec s₀ is, i, stateAfter exec s₀ (i :: is)⟩ :: traceOf exec s₀ is

/-- No label of the list fails. -/
def allOk {ε : Type*} (exec : σ → ι → Except ε σ) (s₀ : σ) : List ι → Bool
  | [] => true
  | i :: is => (exec (stateAfter exec s₀ is) i).isOk && allOk exec s₀ is

lemma run_traceOf {ε : Type*} {exec : σ → ι → Except ε σ} {s₀ : σ} {is : List ι}
    (h : allOk exec s₀ is = true) :
    Run (fun s i s' => exec s i = .ok s') s₀ (traceOf exec s₀ is) (stateAfter exec s₀ is) := by
  induction is with
  | nil => exact .nil
  | cons i is ih =>
    obtain ⟨hi, his⟩ := Bool.and_eq_true_iff.mp h
    exact (ih his).cons (eq_ok_outcome hi)

/-- The run of a list of labels that runs through, and the state it ends in. -/
lemma run_outcome {ε : Type*} {exec : σ → ι → Except ε σ} {is : List ι} {s : σ}
    (h : (runAll exec s is).isOk = true) :
    ∃ tr, Run (fun s i s' => exec s i = .ok s') s tr (outcome (runAll exec s is) s) ∧
      tr.map (·.label) = is.reverse := by
  obtain ⟨tr, run, hl⟩ := run_of_runAll .nil (eq_ok_outcome h)
  exact ⟨tr, by simpa using run, hl⟩

/-- The same, with one of the steps in view. -/
lemma run_outcome_around {ε : Type*} {exec : σ → ι → Except ε σ} {is js : List ι} {i : ι} {s : σ}
    (h : (runAll exec s (is ++ i :: js)).isOk = true) :
    ∃ earlier later, Run (fun s i s' => exec s i = .ok s') s
        (later ++ ⟨outcome (runAll exec s is) s, i, outcome (runAll exec s (is ++ [i])) s⟩ ::
          earlier)
        (outcome (runAll exec s (is ++ i :: js)) s) ∧
      earlier.map (·.label) = is.reverse ∧ later.map (·.label) = js.reverse := by
  have hall := eq_ok_outcome (s := s) h
  obtain ⟨s₁, h₁, h₂⟩ := (runAll_append is (i :: js)).mp hall
  obtain ⟨s₂, hi, hjs⟩ : ∃ s₂, exec s₁ i = .ok s₂ ∧
      runAll exec s₂ js = .ok (outcome (runAll exec s (is ++ i :: js)) s) := by
    simp only [runAll] at h₂
    split at h₂
    · rename_i s₂ hi
      exact ⟨s₂, hi, h₂⟩
    · simp at h₂
  have hmid : runAll exec s (is ++ [i]) = .ok s₂ :=
    (runAll_append is [i]).mpr ⟨s₁, h₁, by simp only [runAll, hi]⟩
  obtain ⟨earlier, run, hl⟩ := run_of_runAll .nil h₁
  rw [List.append_nil] at run
  obtain ⟨later, run', hl'⟩ := run_of_runAll (run.cons hi) hjs
  refine ⟨earlier, later, ?_, hl, hl'⟩
  rw [h₁, hmid]
  exact run'

end

end ArioSolana
