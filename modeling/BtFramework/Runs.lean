import Mathlib.Data.List.Induction

/-!
# Runs of an event-driven system

A system is a step function on states and events; a run is a list of events. The rules say how a
property of every state of a run follows from what one step preserves, and when it holds exactly
if every step meets a guard: a predicate on the state before the step and the event.
-/

namespace Runs

open List

variable {σ ε : Type*}

/-! ## Runs, visited states, guards -/

/-- The state a run ends in. -/
def after (step : σ → ε → σ) (s : σ) (es : List ε) : σ := es.foldl step s

/-- Every state a run passes through, the first and the last included. -/
def visited (step : σ → ε → σ) : σ → List ε → List σ
  | s, [] => [s]
  | s, e :: es => s :: visited step (step s e) es

/-- Every step of the run meets the guard. -/
def Guarded (step : σ → ε → σ) (ok : σ → ε → Prop) : σ → List ε → Prop
  | _, [] => True
  | s, e :: es => ok s e ∧ Guarded step ok (step s e) es

instance decidableGuarded (step : σ → ε → σ) (ok : σ → ε → Prop)
    [∀ s e, Decidable (ok s e)] : ∀ s es, Decidable (Guarded step ok s es)
  | _, [] => isTrue trivial
  | s, e :: es =>
    have := decidableGuarded step ok (step s e) es
    inferInstanceAs (Decidable (ok s e ∧ Guarded step ok (step s e) es))

variable {step : σ → ε → σ} {ok : σ → ε → Prop} {s : σ} {es : List ε}

variable {e : ε} {Inv P : σ → Prop}

@[simp] theorem after_cons : after step s (e :: es) = after step (step s e) es := rfl

theorem after_append {fs : List ε} : after step s (es ++ fs) = after step (after step s es) fs :=
  foldl_append

@[simp] theorem after_concat : after step s (es ++ [e]) = step (after step s es) e := by
  rw [after_append]; rfl

theorem mem_visited : s ∈ visited step s es := by
  cases es with
  | nil => exact mem_singleton.mpr rfl
  | cons e es => exact mem_cons_self

theorem after_mem_visited : after step s es ∈ visited step s es := by
  induction es generalizing s with
  | nil => exact mem_singleton.mpr rfl
  | cons e es ih => exact mem_cons_of_mem _ ih

theorem visited_concat :
    visited step s (es ++ [e]) = visited step s es ++ [step (after step s es) e] := by
  induction es generalizing s with
  | nil => rfl
  | cons e' es ih => exact congrArg (s :: ·) ih

theorem guarded_true : Guarded step (fun _ _ => True) s es := by
  induction es generalizing s with
  | nil => trivial
  | cons e es ih => exact ⟨trivial, ih⟩

theorem Guarded.append_left {fs : List ε} (h : Guarded step ok s (es ++ fs)) :
    Guarded step ok s es := by
  induction es generalizing s with
  | nil => trivial
  | cons e es ih => exact ⟨h.1, ih h.2⟩

theorem Guarded.concat (h : Guarded step ok s (es ++ [e])) :
    Guarded step ok s es ∧ ok (after step s es) e := by
  induction es generalizing s with
  | nil => exact ⟨trivial, h.1⟩
  | cons e' es ih =>
    obtain ⟨hes, he⟩ := ih h.2
    exact ⟨⟨h.1, hes⟩, he⟩

theorem guarded_of_forall_visited (h : ∀ t ∈ visited step s es, P t) :
    Guarded step (fun t _ => P t) s es := by
  induction es generalizing s with
  | nil => trivial
  | cons e es ih =>
    exact ⟨h s mem_visited, ih fun t ht => h t (mem_cons_of_mem _ ht)⟩

theorem guarded_of_forall_mem {g : ε → Prop} (h : ∀ e ∈ es, g e) :
    Guarded step (fun _ e => g e) s es := by
  induction es generalizing s with
  | nil => trivial
  | cons e es ih => exact ⟨h e mem_cons_self, ih fun e' he' => h e' (mem_cons_of_mem e he')⟩

/-! ## The rules -/

/-- **Invariant rule.** What holds initially and is kept by every step that
meets the guard holds in every state of a guarded run. -/
theorem Guarded.invariant (hstep : ∀ s e, Inv s → ok s e → Inv (step s e)) (hs : Inv s)
    (h : Guarded step ok s es) : ∀ t ∈ visited step s es, Inv t := by
  induction es generalizing s with
  | nil =>
    intro t ht
    rw [mem_singleton.mp ht]
    exact hs
  | cons e es ih =>
    intro t ht
    rcases mem_cons.mp ht with rfl | ht
    · exact hs
    · exact ih (hstep s e hs h.1) h.2 t ht

/-- **History rule.** The invariant may also speak about the events that led
to the state. -/
theorem Guarded.history_invariant (Inv : List ε → σ → Prop)
    (hnil : Inv [] s)
    (hstep : ∀ es e, Inv es (after step s es) → ok (after step s es) e →
      Inv (es ++ [e]) (step (after step s es) e))
    (h : Guarded step ok s es) : Inv es (after step s es) := by
  induction es using List.reverseRecOn with
  | nil => exact hnil
  | append_singleton es e ih =>
    obtain ⟨hes, he⟩ := h.concat
    rw [after_concat]
    exact hstep es e (ih hes) he

theorem Guarded.forall_visited_iff {g : σ → ε → Prop} (hP : ∀ s, Inv s → P s)
    (hkeep : ∀ s e, Inv s → g s e → ok s e → Inv (step s e))
    (hbreak : ∀ s e, Inv s → g s e → ¬ok s e → ¬P (step s e)) (hs : Inv s)
    (hg : Guarded step g s es) :
    (∀ t ∈ visited step s es, P t) ↔ Guarded step ok s es := by
  induction es generalizing s with
  | nil => exact ⟨fun _ => trivial, fun _ t ht => hP t (mem_singleton.mp ht ▸ hs)⟩
  | cons e es ih =>
    rw [visited, forall_mem_cons, Guarded]
    by_cases hok : ok s e
    · rw [ih (hkeep s e hs hg.1 hok) hg.2]
      exact ⟨fun h => ⟨hok, h.2⟩, fun h => ⟨hP s hs, h.2⟩⟩
    · refine ⟨fun h => ?_, fun h => absurd h.1 hok⟩
      exact absurd (h.2 _ mem_visited) (hbreak s e hs hg.1 hok)

/-- **Exactness rule.** If a guarded step keeps the invariant within the bounds `A`, and an
unguarded one makes `P` fail at once, then along a run within the bounds `P` holds exactly when
every step meets the guard. -/
theorem forall_visited_iff_guarded_within {A : σ → Prop} (hP : ∀ s, Inv s → P s)
    (hkeep : ∀ s e, Inv s → ok s e → A (step s e) → Inv (step s e))
    (hbreak : ∀ s e, Inv s → ¬ok s e → ¬P (step s e)) (hs : Inv s)
    (hA : ∀ t ∈ visited step s es, A t) :
    (∀ t ∈ visited step s es, P t) ↔ Guarded step ok s es := by
  refine Guarded.forall_visited_iff (g := fun s e => A (step s e)) hP
    (fun s e hs hnext hok => hkeep s e hs hok hnext) (fun s e hs _ => hbreak s e hs) hs ?_
  clear hs
  induction es generalizing s with
  | nil => trivial
  | cons e es ih =>
    have htail : ∀ t ∈ visited step (step s e) es, A t :=
      fun t ht => hA t (mem_cons_of_mem _ ht)
    exact ⟨htail _ mem_visited, ih htail⟩

/-- **Equivalence rule.** Two properties that agree wherever the invariant holds agree
along a run, if the invariant is kept as long as they hold. -/
theorem Guarded.forall_visited_congr {Q : σ → Prop} (hPQ : ∀ s, Inv s → (P s ↔ Q s))
    (hkeep : ∀ s e, Inv s → Q s → ok s e → Inv (step s e)) (hs : Inv s)
    (h : Guarded step ok s es) :
    (∀ t ∈ visited step s es, P t) ↔ ∀ t ∈ visited step s es, Q t := by
  induction es generalizing s with
  | nil =>
    rw [visited, forall_mem_singleton, forall_mem_singleton]
    exact hPQ s hs
  | cons e es ih =>
    rw [visited, forall_mem_cons, forall_mem_cons, hPQ s hs]
    exact and_congr_right fun hQ => ih (hkeep s e hs hQ h.1) h.2

theorem Guarded.guarded_congr {g g' : σ → ε → Prop}
    (hkeep : ∀ s e, Inv s → ok s e → Inv (step s e))
    (hiff : ∀ s e, Inv s → ok s e → (g s e ↔ g' s e)) (hs : Inv s) (h : Guarded step ok s es) :
    Guarded step g s es ↔ Guarded step g' s es := by
  induction es generalizing s with
  | nil => exact Iff.rfl
  | cons e es ih => exact and_congr (hiff s e hs h.1) (ih (hkeep s e hs h.1) h.2)

/-- **Step rule.** Every step of a guarded run has what follows from the invariant and
the guard. -/
theorem Guarded.steps {P : σ → ε → Prop} (hkeep : ∀ s e, Inv s → ok s e → Inv (step s e))
    (himp : ∀ s e, Inv s → ok s e → P s e) (hs : Inv s) (h : Guarded step ok s es) :
    Guarded step P s es := by
  induction es generalizing s with
  | nil => trivial
  | cons e es ih => exact ⟨himp s e hs h.1, ih (hkeep s e hs h.1) h.2⟩

theorem forall_visited_iff_guarded (hP : ∀ s, Inv s → P s)
    (hkeep : ∀ s e, Inv s → ok s e → Inv (step s e))
    (hbreak : ∀ s e, Inv s → ¬ok s e → ¬P (step s e)) (hs : Inv s) :
    (∀ t ∈ visited step s es, P t) ↔ Guarded step ok s es :=
  Guarded.forall_visited_iff hP (fun s e hs _ => hkeep s e hs) (fun s e hs _ => hbreak s e hs) hs
    guarded_true

end Runs
