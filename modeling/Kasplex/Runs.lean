import Mathlib.Data.List.Basic

/-!
# Runs of a deterministic transition function

A run feeds a list of events to a step function. A condition on events is read
in the state just before each event, so it can speak about what the event will
meet. Safety is proved once per system: what one step preserves under the
condition, every state reached under the condition satisfies.
-/

namespace Runs

variable {S E : Type*}

def run (step : S → E → S) : S → List E → S
  | s, [] => s
  | s, e :: es => run step (step s e) es

/-- Every event of the run meets the condition in the state before it. -/
def Meets (step : S → E → S) (cond : S → E → Prop) : S → List E → Prop
  | _, [] => True
  | s, e :: es => cond s e ∧ Meets step cond (step s e) es

instance decidableMeets (step : S → E → S) (cond : S → E → Prop)
    [dec : ∀ s e, Decidable (cond s e)] : ∀ s es, Decidable (Meets step cond s es)
  | _, [] => isTrue trivial
  | s, e :: es =>
    match dec s e, decidableMeets step cond (step s e) es with
    | isTrue h, isTrue hs => isTrue ⟨h, hs⟩
    | isFalse h, _ => isFalse fun both => h both.1
    | _, isFalse hs => isFalse fun both => hs both.2

/-- A state the run passes through, its first and last state included. -/
def Reached (step : S → E → S) (s : S) (es : List E) (t : S) : Prop :=
  ∃ before after, es = before ++ after ∧ t = run step s before

@[simp] theorem run_nil (step : S → E → S) (s : S) : run step s [] = s := rfl

@[simp] theorem run_cons (step : S → E → S) (s : S) (e : E) (es : List E) :
    run step s (e :: es) = run step (step s e) es := rfl

theorem run_append (step : S → E → S) (s : S) (before after : List E) :
    run step s (before ++ after) = run step (run step s before) after := by
  induction before generalizing s with
  | nil => rfl
  | cons e es ih => exact ih (step s e)

theorem reached_run (step : S → E → S) (s : S) (es : List E) : Reached step s es (run step s es) :=
  ⟨es, [], (List.append_nil es).symm, rfl⟩

theorem reached_cons {step : S → E → S} {s t : S} {e : E} {es : List E} :
    Reached step s (e :: es) t ↔ t = s ∨ Reached step (step s e) es t := by
  constructor
  · rintro ⟨before, after, hsplit, rfl⟩
    cases before with
    | nil => exact Or.inl rfl
    | cons b before =>
      cases hsplit
      exact Or.inr ⟨before, after, rfl, rfl⟩
  · rintro (rfl | ⟨before, after, rfl, rfl⟩)
    · exact ⟨[], e :: es, rfl, rfl⟩
    · exact ⟨e :: before, after, rfl, rfl⟩

theorem meets_append {step : S → E → S} {cond : S → E → Prop} {s : S}
    {before after : List E} :
    Meets step cond s (before ++ after) ↔
      Meets step cond s before ∧ Meets step cond (run step s before) after := by
  induction before generalizing s with
  | nil => simp [Meets]
  | cons e es ih => simp only [List.cons_append, Meets, run_cons, ih, and_assoc]

/-- A part of the state that each event leaves alone or sets to a value of its
own holds the value of the last event that set it. -/
theorem run_register {V : Type*} {step : S → E → S} {register : S → V} {sets : E → Option V}
    (one : ∀ s e, register (step s e) = (sets e).getD (register s)) (s : S) (es : List E) :
    register (run step s es) = (es.reverse.findSome? sets).getD (register s) := by
  induction es generalizing s with
  | nil => rfl
  | cons e es ih =>
    rw [run_cons, ih, one, List.reverse_cons, List.findSome?_append]
    cases es.reverse.findSome? sets with
    | some v => rfl
    | none => cases h : sets e <;> simp [h]

theorem run_invariant {step : S → E → S} {cond : S → E → Prop} (inv : S → Prop)
    (preserved : ∀ s e, inv s → cond s e → inv (step s e)) {s : S} {es : List E}
    (start : inv s) (meets : Meets step cond s es) : inv (run step s es) := by
  induction es generalizing s with
  | nil => exact start
  | cons e es ih => exact ih (preserved s e start meets.1) meets.2

theorem reached_invariant {step : S → E → S} {cond : S → E → Prop} (inv : S → Prop)
    (preserved : ∀ s e, inv s → cond s e → inv (step s e)) {s t : S} {es : List E}
    (start : inv s) (meets : Meets step cond s es) (reached : Reached step s es t) :
    inv t := by
  obtain ⟨before, after, rfl, rfl⟩ := reached
  exact run_invariant inv preserved start (meets_append.mp meets).1

/-- A condition that says of each event exactly that it preserves the invariant
and meets a second condition says of a run that all its states satisfy the
invariant and all its events the second condition. -/
theorem meets_iff_invariant {step : S → E → S} {cond other : S → E → Prop} (inv : S → Prop)
    {allowed : E → Prop}
    (exact_step : ∀ s e, allowed e → inv s → (cond s e ↔ inv (step s e) ∧ other s e))
    {s : S} {es : List E} (start : inv s) (all : ∀ e ∈ es, allowed e) :
    Meets step cond s es ↔ (∀ t, Reached step s es t → inv t) ∧ Meets step other s es := by
  induction es generalizing s with
  | nil =>
    refine iff_of_true trivial ⟨?_, trivial⟩
    rintro t ⟨before, after, hsplit, rfl⟩
    rw [(List.append_eq_nil_iff.mp hsplit.symm).1]
    exact start
  | cons e es ih =>
    have hstep := exact_step s e (all e List.mem_cons_self) start
    have hrest : ∀ e ∈ es, allowed e := fun e he => all e (List.mem_cons_of_mem _ he)
    simp only [Meets, reached_cons]
    constructor
    · rintro ⟨hcond, hmeets⟩
      obtain ⟨hinv, hother⟩ := hstep.mp hcond
      obtain ⟨hreached, hothers⟩ := (ih hinv hrest).mp hmeets
      refine ⟨?_, hother, hothers⟩
      rintro t (rfl | ht)
      · exact start
      · exact hreached t ht
    · rintro ⟨hreached, hother, hothers⟩
      have hinv : inv (step s e) := hreached _ (Or.inr ⟨[], es, rfl, rfl⟩)
      exact ⟨hstep.mpr ⟨hinv, hother⟩,
        (ih hinv hrest).mpr ⟨fun t ht => hreached t (Or.inr ht), hothers⟩⟩

theorem meets_of_forall {step : S → E → S} {cond : S → E → Prop} (always : ∀ s e, cond s e)
    (s : S) (es : List E) : Meets step cond s es := by
  induction es generalizing s with
  | nil => trivial
  | cons e es ih => exact ⟨always s e, ih _⟩

/-- The same with nothing else asked of the events. -/
theorem meets_iff_reached {step : S → E → S} {cond : S → E → Prop} (inv : S → Prop)
    (exact_step : ∀ s e, inv s → (cond s e ↔ inv (step s e))) {s : S} {es : List E}
    (start : inv s) : Meets step cond s es ↔ ∀ t, Reached step s es t → inv t := by
  have h : Meets step cond s es ↔
      (∀ t, Reached step s es t → inv t) ∧ Meets step (fun _ _ => True) s es := by
    refine meets_iff_invariant inv (fun s e (_ : True) hinv => ?_) start (fun _ _ => trivial)
    rw [and_true]
    exact exact_step s e hinv
  rw [h, and_iff_left (meets_of_forall (fun _ _ => trivial) s es)]

end Runs
