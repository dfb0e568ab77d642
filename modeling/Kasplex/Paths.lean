import Mathlib.Algebra.BigOperators.Group.List.Basic
import Mathlib.Algebra.Ring.Nat

/-!
# Paths of accepted events

A path is a list of events that a system accepted one after the other, from a
first state to a last. What one step does is stated once per system; the rules
here turn it into a fact about all the events of a path, or about its two ends.
-/

namespace Paths

variable {S E : Type*}

/-- `Path step s es t`: accepting `es` in order leads from `s` to `t`. -/
inductive Path (step : S → E → S → Prop) : S → List E → S → Prop
  | nil (s : S) : Path step s [] s
  | cons {s t u : S} {e : E} {es : List E} :
      step s e t → Path step t es u → Path step s (e :: es) u

namespace Path

variable {step : S → E → S → Prop} {s t u : S} {es es' : List E}

theorem append (h : Path step s es t) (h' : Path step t es' u) : Path step s (es ++ es') u := by
  induction h with
  | nil => exact h'
  | cons hstep _ ih => exact cons hstep (ih h')

theorem mono {step' : S → E → S → Prop} (weaker : ∀ s e t, step s e t → step' s e t)
    (h : Path step s es t) : Path step' s es t := by
  induction h with
  | nil => exact nil _
  | cons hstep _ ih => exact cons (weaker _ _ _ hstep) ih

theorem and_forall {P : E → Prop} (h : Path step s es t) (all : ∀ e ∈ es, P e) :
    Path (fun s e t => step s e t ∧ P e) s es t := by
  induction h with
  | nil => exact nil _
  | cons hstep _ ih =>
    exact cons ⟨hstep, all _ List.mem_cons_self⟩
      (ih fun e he => all e (List.mem_cons_of_mem _ he))

theorem unique (one : ∀ s e t t', step s e t → step s e t' → t = t') (h : Path step s es t)
    (h' : Path step s es u) : t = u := by
  induction h with
  | nil =>
    cases h'
    rfl
  | cons hstep _ ih =>
    cases h' with
    | cons hstep' hrest' =>
      cases one _ _ _ _ hstep hstep'
      exact ih hrest'

/-- A mark that later steps keep relates the event that left it to whatever
events meet it. -/
theorem meets_mark {mark : E → S → Prop} {R : E → E → Prop} {e : E}
    (kept : ∀ s e' t, step s e' t → mark e s → mark e t)
    (met : ∀ s e' t, step s e' t → mark e s → R e e')
    (h : Path step s es t) (start : mark e s) : ∀ e' ∈ es, R e e' := by
  induction h with
  | nil => simp
  | cons hstep _ ih =>
    intro e' he
    rcases List.mem_cons.mp he with rfl | he
    · exact met _ _ _ hstep start
    · exact ih (kept _ _ _ hstep start) e' he

/-- Every event leaves a mark, which relates it to all events after it. -/
theorem pairwise (mark : E → S → Prop) {R : E → E → Prop}
    (left : ∀ s e t, step s e t → mark e t)
    (kept : ∀ s e' t e, step s e' t → mark e s → mark e t)
    (met : ∀ s e' t e, step s e' t → mark e s → R e e')
    (h : Path step s es t) : es.Pairwise R := by
  induction h with
  | nil => exact List.Pairwise.nil
  | cons hstep hrest ih =>
    exact List.Pairwise.cons
      (hrest.meets_mark (fun s e' t => kept s e' t _) (fun s e' t => met s e' t _)
        (left _ _ _ hstep)) ih

section Measures

variable {m : S → Nat} {gain : E → Nat}

/-- A measure that no step raises by more than the gain of its event, as long as
the result stays below a bound, is raised by no more than all the gains together.
Each step of such a path has room. -/
theorem measure_le {bound : Nat}
    (raises : ∀ s e t, step s e t → m s + gain e < bound → m t ≤ m s + gain e)
    (h : Path step s es t) (room : m s + (es.map gain).sum < bound) :
    m t ≤ m s + (es.map gain).sum ∧
      Path (fun s e t => step s e t ∧ m s + gain e < bound) s es t := by
  induction h with
  | nil => exact ⟨le_refl _, nil _⟩
  | cons hstep _ ih =>
    simp only [List.map_cons, List.sum_cons] at room ⊢
    have hfirst := raises _ _ _ hstep (by omega)
    obtain ⟨hlast, hpath⟩ := ih (by omega)
    exact ⟨by omega, cons ⟨hstep, by omega⟩ hpath⟩

/-- A measure that every step raises by just the gain of its event. -/
theorem measure_eq (raises : ∀ s e t, step s e t → m t = m s + gain e)
    (h : Path step s es t) : m t = m s + (es.map gain).sum := by
  induction h with
  | nil => rfl
  | cons hstep _ ih =>
    simp only [List.map_cons, List.sum_cons]
    rw [ih, raises _ _ _ hstep, Nat.add_assoc]

end Measures

section Followers

variable {S' E' : Type*} {step' : S' → E' → S' → Prop} {encode : E → E'} {R : S → S' → Prop}

/-- A second system that can answer every step follows every path. -/
theorem follows
    (answers : ∀ s e t s', step s e t → R s s' → ∃ t', step' s' (encode e) t' ∧ R t t')
    (h : Path step s es t) {s' : S'} (start : R s s') :
    ∃ t', Path step' s' (es.map encode) t' ∧ R t t' := by
  induction h generalizing s' with
  | nil => exact ⟨s', nil _, start⟩
  | cons hstep _ ih =>
    obtain ⟨middle, hfirst, hmiddle⟩ := answers _ _ _ _ hstep start
    obtain ⟨last, hpath, hlast⟩ := ih hmiddle
    exact ⟨last, cons hfirst hpath, hlast⟩

/-- What an answer says of the step it answers, an answered path says of each of
its steps. -/
theorem answered {P : S → E → Prop}
    (means : ∀ s e t s' t', step s e t → R s s' → step' s' (encode e) t' → P s e ∧ R t t')
    (h : Path step s es t) {s' t' : S'} (start : R s s')
    (answers : Path step' s' (es.map encode) t') :
    Path (fun s e t => step s e t ∧ P s e) s es t ∧ R t t' := by
  induction h generalizing s' with
  | nil =>
    cases answers
    exact ⟨nil _, start⟩
  | cons hstep _ ih =>
    cases answers with
    | cons hfirst hrest =>
      obtain ⟨hmeans, hmiddle⟩ := means _ _ _ _ _ hstep start hfirst
      obtain ⟨hpath, hlast⟩ := ih hmiddle hrest
      exact ⟨cons ⟨hstep, hmeans⟩ hpath, hlast⟩

end Followers

end Path

end Paths
