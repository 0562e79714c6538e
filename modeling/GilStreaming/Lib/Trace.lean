import Mathlib.Data.List.Induction
import Mathlib.Order.Basic

/-!
# GilStreaming.Lib.Trace

Runs of a deterministic machine over a list of events.

Everything a program does not decide itself (the clock, the scheduler, which
system calls fail, the random numbers) is put into the events, so that a run is
a fold of the step function and "for every interleaving" is "for every list of
events". `AllSteps` states a condition on the steps of a run. Two induction rules
cover the invariants proved over such runs: `run_invariant` for what a state must
satisfy and `run_history` for what ties a state to the events that led to it.
`ClockMonotone` is the one restriction on event lists that recurs, a clock whose
readings never decrease.
-/

namespace GilStreaming.Trace

universe u v w

variable {σ : Type u} {ε : Type v} (step : σ → ε → σ)

/-- The state after the events `es`, handled in order from `s`. -/
def run (s : σ) (es : List ε) : σ := es.foldl step s

@[simp] theorem run_nil (s : σ) : run step s [] = s := rfl

@[simp] theorem run_cons (s : σ) (e : ε) (es : List ε) :
    run step s (e :: es) = run step (step s e) es := rfl

theorem run_append (s : σ) (es es' : List ε) :
    run step s (es ++ es') = run step (run step s es) es' := List.foldl_append

theorem run_concat (s : σ) (es : List ε) (e : ε) :
    run step s (es ++ [e]) = step (run step s es) e := by
  rw [run_append]; rfl

variable {step}

/-! ### Conditions on the steps of a run -/

/-- Every step of the run from `s` satisfies `P`, which sees the state before the
step and the event. -/
def AllSteps (step : σ → ε → σ) (P : σ → ε → Prop) : σ → List ε → Prop
  | _, [] => True
  | s, e :: es => P s e ∧ AllSteps step P (step s e) es

@[simp] theorem allSteps_nil {P : σ → ε → Prop} (s : σ) : AllSteps step P s [] := trivial

@[simp] theorem allSteps_cons {P : σ → ε → Prop} {s : σ} {e : ε} {es : List ε} :
    AllSteps step P s (e :: es) ↔ P s e ∧ AllSteps step P (step s e) es := Iff.rfl

instance AllSteps.decidable {P : σ → ε → Prop} [∀ s e, Decidable (P s e)] :
    (s : σ) → (es : List ε) → Decidable (AllSteps step P s es)
  | _, [] => isTrue trivial
  | s, e :: es =>
    have : Decidable (AllSteps step P (step s e) es) := AllSteps.decidable (step s e) es
    inferInstanceAs (Decidable (P s e ∧ AllSteps step P (step s e) es))

theorem allSteps_append {P : σ → ε → Prop} {s : σ} {es es' : List ε} :
    AllSteps step P s (es ++ es') ↔
      AllSteps step P s es ∧ AllSteps step P (run step s es) es' := by
  induction es generalizing s with
  | nil => simp
  | cons e es ih => simp [ih, and_assoc]

theorem allSteps_concat {P : σ → ε → Prop} {s : σ} {es : List ε} {e : ε} :
    AllSteps step P s (es ++ [e]) ↔ AllSteps step P s es ∧ P (run step s es) e := by
  rw [allSteps_append]; simp

theorem AllSteps.mono {P Q : σ → ε → Prop} (hPQ : ∀ s e, P s e → Q s e) {s : σ}
    {es : List ε} (h : AllSteps step P s es) : AllSteps step Q s es := by
  induction es generalizing s with
  | nil => trivial
  | cons e es ih => exact ⟨hPQ s e h.1, ih h.2⟩

theorem AllSteps.and {P Q : σ → ε → Prop} {s : σ} {es : List ε}
    (hP : AllSteps step P s es) (hQ : AllSteps step Q s es) :
    AllSteps step (fun s e => P s e ∧ Q s e) s es := by
  induction es generalizing s with
  | nil => trivial
  | cons e es ih => exact ⟨⟨hP.1, hQ.1⟩, ih hP.2 hQ.2⟩

/-- A condition on the steps, step by step. -/
theorem allSteps_iff {P : σ → ε → Prop} {s : σ} {es : List ε} :
    AllSteps step P s es ↔ ∀ pre e post, es = pre ++ e :: post → P (run step s pre) e := by
  constructor
  · intro h pre e post hes
    rw [hes, allSteps_append] at h
    exact h.2.1
  · induction es generalizing s with
    | nil => exact fun _ => trivial
    | cons e es ih =>
        intro h
        refine ⟨h [] e es rfl, ih fun pre e' post hes => h (e :: pre) e' post ?_⟩
        rw [hes]
        rfl

/-- A condition on the events alone holds at every step when it holds of each. -/
theorem AllSteps.of_forall {P : ε → Prop} {es : List ε} (h : ∀ e ∈ es, P e) (s : σ) :
    AllSteps step (fun _ e => P e) s es := by
  induction es generalizing s with
  | nil => trivial
  | cons e es ih =>
      exact ⟨h e List.mem_cons_self, ih (fun e' he' => h e' (List.mem_cons_of_mem _ he')) _⟩

/-- **Invariant rule.** What holds initially and is kept by every step that
satisfies `P` holds after every run all of whose steps do. -/
theorem run_invariant {P : σ → ε → Prop} {Inv : σ → Prop}
    (hstep : ∀ s e, P s e → Inv s → Inv (step s e)) {s : σ} (h0 : Inv s)
    {es : List ε} (hP : AllSteps step P s es) : Inv (run step s es) := by
  induction es generalizing s with
  | nil => exact h0
  | cons e es ih => exact ih (hstep s e hP.1 h0) hP.2

/-- **Exact invariant rule** for runs of events that satisfy `P`. Where they keep `I`, and
when a step keeps `Inv` exactly if it is not `Bad`, every state of a run satisfies `Inv`
exactly if no step is `Bad`. -/
theorem run_invariant_iff_of {P : ε → Prop} {I Inv : σ → Prop} {Bad : σ → ε → Prop}
    (hI : ∀ s e, P e → I s → I (step s e))
    (hstep : ∀ s e, P e → I s → Inv s → (Inv (step s e) ↔ ¬ Bad s e)) {s : σ} (hI0 : I s)
    (h0 : Inv s) {es : List ε} (hP : ∀ e ∈ es, P e) :
    (∀ pre, pre <+: es → Inv (run step s pre)) ↔ AllSteps step (fun s e => ¬ Bad s e) s es := by
  induction es generalizing s with
  | nil =>
      refine iff_of_true (fun pre hpre => ?_) trivial
      rw [List.prefix_nil.mp hpre]
      exact h0
  | cons e es ih =>
      have he : P e := hP e List.mem_cons_self
      have hes : ∀ e' ∈ es, P e' := fun e' he' => hP e' (List.mem_cons_of_mem _ he')
      constructor
      · intro h
        have hnext : Inv (step s e) := h [e] (by simp)
        refine ⟨(hstep s e he hI0 h0).mp hnext,
          (ih (hI s e he hI0) hnext hes).mp fun pre hpre => ?_⟩
        exact h (e :: pre) (List.cons_prefix_cons.mpr ⟨rfl, hpre⟩)
      · rintro ⟨hgood, hrest⟩ pre hpre
        rcases List.prefix_cons_iff.mp hpre with rfl | ⟨pre', rfl, hpre'⟩
        · exact h0
        · exact (ih (hI s e he hI0) ((hstep s e he hI0 h0).mpr hgood) hes).mpr hrest pre' hpre'

/-- **Exact invariant rule** for all runs. -/
theorem run_invariant_iff {I Inv : σ → Prop} {Bad : σ → ε → Prop}
    (hI : ∀ s e, I s → I (step s e))
    (hstep : ∀ s e, I s → Inv s → (Inv (step s e) ↔ ¬ Bad s e)) {s : σ} (hI0 : I s)
    (h0 : Inv s) (es : List ε) :
    (∀ pre, pre <+: es → Inv (run step s pre)) ↔ AllSteps step (fun s e => ¬ Bad s e) s es :=
  run_invariant_iff_of (P := fun _ => True) (fun s e _ => hI s e) (fun s e _ => hstep s e) hI0 h0
    fun _ _ => trivial

/-- **History rule.** The same for a property of the state and the events so
far, over runs whose admissibility only ever depends on their past. -/
theorem run_history (Adm : List ε → Prop) (P : List ε → σ → Prop) {s : σ}
    (hpre : ∀ es e, Adm (es ++ [e]) → Adm es) (h0 : P [] s)
    (hstep : ∀ es e, Adm (es ++ [e]) → P es (run step s es) →
      P (es ++ [e]) (step (run step s es) e)) :
    ∀ {es : List ε}, Adm es → P es (run step s es) := by
  intro es
  induction es using List.reverseRecOn with
  | nil => intro _; exact h0
  | append_singleton es e ih =>
      intro hadm
      rw [run_concat]
      exact hstep es e hadm (ih (hpre es e hadm))

/-! ### What a run shows -/

section Outputs

variable {ω : Type w} {out : σ → ε → Option ω}

/-- What the steps of the run from `s` show to the outside, `out s e` each, in order. -/
def outputs (step : σ → ε → σ) (out : σ → ε → Option ω) : σ → List ε → List ω
  | _, [] => []
  | s, e :: es => (out s e).toList ++ outputs step out (step s e) es

@[simp] theorem outputs_nil (s : σ) : outputs step out s [] = [] := rfl

theorem outputs_append (s : σ) (es es' : List ε) :
    outputs step out s (es ++ es') =
      outputs step out s es ++ outputs step out (run step s es) es' := by
  induction es generalizing s with
  | nil => rfl
  | cons e es ih => rw [List.cons_append, outputs, outputs, ih, List.append_assoc, run_cons]

theorem outputs_concat (s : σ) (es : List ε) (e : ε) :
    outputs step out s (es ++ [e]) = outputs step out s es ++ (out (run step s es) e).toList := by
  rw [outputs_append, outputs, outputs_nil, List.append_nil]

/-- What is shown at some point was shown by a step of the run. -/
theorem exists_of_outputs_eq {s : σ} {es : List ε} {before after : List ω} {o : ω}
    (h : outputs step out s es = before ++ o :: after) :
    ∃ pre e post, es = pre ++ e :: post ∧ outputs step out s pre = before ∧
      out (run step s pre) e = some o ∧ outputs step out (run step s (pre ++ [e])) post = after := by
  induction es generalizing s before with
  | nil => exact absurd h (by simp)
  | cons e es ih =>
      rw [outputs] at h
      cases hout : out s e with
      | none =>
          rw [hout, Option.toList_none, List.nil_append] at h
          obtain ⟨pre, e', post, rfl, hbefore, ho, hafter⟩ := ih h
          exact ⟨e :: pre, e', post, rfl, by rw [outputs, hout, hbefore]; rfl, ho, hafter⟩
      | some o' =>
          rw [hout, Option.toList_some, List.singleton_append] at h
          cases before with
          | nil =>
              obtain ⟨rfl, hafter⟩ := List.cons.inj h
              exact ⟨[], e, es, rfl, rfl, hout, hafter⟩
          | cons o'' before =>
              obtain ⟨rfl, hrest⟩ := List.cons.inj h
              obtain ⟨pre, e', post, rfl, hbefore, ho, hafter⟩ := ih hrest
              exact ⟨e :: pre, e', post, rfl, by rw [outputs, hout, hbefore]; rfl, ho, hafter⟩

/-- **Record rule.** A record to which every step that satisfies `P` appends what it shows. -/
theorem record_run {P : σ → ε → Prop} {record : σ → List ω}
    (hstep : ∀ s e, P s e → record (step s e) = record s ++ (out s e).toList) {s : σ}
    {es : List ε} (hP : AllSteps step P s es) :
    record (run step s es) = record s ++ outputs step out s es := by
  induction es generalizing s with
  | nil => exact (List.append_nil _).symm
  | cons e es ih => rw [run_cons, ih hP.2, hstep s e hP.1, List.append_assoc, outputs]

theorem outputs_filter (p : ω → Bool) (s : σ) (es : List ε) :
    outputs step (fun s e => (out s e).filter p) s es = (outputs step out s es).filter p := by
  induction es generalizing s with
  | nil => rfl
  | cons e es ih => rw [outputs, outputs, ih, List.filter_append, Option.toList_filter]

/-- A condition on everything that is shown, step by step. -/
theorem forall_outputs_iff {P : ω → Prop} {s : σ} {es : List ε} :
    (∀ o ∈ outputs step out s es, P o) ↔
      AllSteps step (fun s e => ∀ o ∈ out s e, P o) s es := by
  induction es generalizing s with
  | nil => simp
  | cons e es ih =>
      simp only [outputs, List.forall_mem_append, ih, allSteps_cons, Option.mem_toList,
        Option.mem_def]

/-- **Conservation rule.** `places` counts where something may still be spent. When no
step spends or leaves more of it than there was and is issued, no run does. -/
theorem countP_outputs_le (places : σ → Nat) (spent issued : ω → Bool) {s : σ} {es : List ε}
    (hstep : ∀ pre e post, es = pre ++ e :: post →
      (out (run step s pre) e).toList.countP spent + places (step (run step s pre) e) ≤
        places (run step s pre) + (out (run step s pre) e).toList.countP issued) :
    (outputs step out s es).countP spent + places (run step s es) ≤
      places s + (outputs step out s es).countP issued := by
  induction es using List.reverseRecOn with
  | nil => simp
  | append_singleton es e ih =>
      have hbefore := ih fun pre e' post h => hstep pre e' (post ++ [e]) (by simp [h])
      have hlast := hstep es e [] rfl
      rw [outputs_concat, run_concat, List.countP_append, List.countP_append]
      omega

/-- What is shown at most once is shown by one output. -/
theorem eq_of_countP_le_one {p : ω → Bool} {outs : List ω} (h : outs.countP p ≤ 1) {o o' : ω}
    (ho : o ∈ outs) (ho' : o' ∈ outs) (hp : p o = true) (hp' : p o' = true) : o = o' := by
  rw [List.countP_eq_length_filter] at h
  have hmem : o ∈ outs.filter p := List.mem_filter.mpr ⟨ho, hp⟩
  obtain ⟨a, ha⟩ := List.length_eq_one_iff.mp (Nat.le_antisymm h (List.length_pos_of_mem hmem))
  rw [ha] at hmem
  have hmem' : o' ∈ [a] := ha ▸ List.mem_filter.mpr ⟨ho', hp'⟩
  rw [List.mem_singleton.mp hmem, List.mem_singleton.mp hmem']

end Outputs

/-! ### Clocks -/

section Clock

variable {τ : Type w} [LE τ] (reads : ε → τ → Prop)

/-- The clock readings of the events, in order, never decrease. -/
def ClockMonotone (es : List ε) : Prop :=
  es.Pairwise fun e e' => ∀ t t', reads e t → reads e' t' → t ≤ t'

variable {reads}

theorem ClockMonotone.append_left {es es' : List ε}
    (h : ClockMonotone reads (es ++ es')) : ClockMonotone reads es :=
  (List.pairwise_append.mp h).1

theorem ClockMonotone.append_right {es es' : List ε}
    (h : ClockMonotone reads (es ++ es')) : ClockMonotone reads es' :=
  (List.pairwise_append.mp h).2.1

/-- Readings of an earlier event are at most those of a later one. -/
theorem ClockMonotone.le_of_append {es es' : List ε}
    (h : ClockMonotone reads (es ++ es')) {e e' : ε} (he : e ∈ es) (he' : e' ∈ es')
    {t t' : τ} (ht : reads e t) (ht' : reads e' t') : t ≤ t' :=
  (List.pairwise_append.mp h).2.2 e he e' he' t t' ht ht'

theorem ClockMonotone.le_of_cons {e e' : ε} {es : List ε}
    (h : ClockMonotone reads (e :: es)) (he' : e' ∈ es)
    {t t' : τ} (ht : reads e t) (ht' : reads e' t') : t ≤ t' :=
  (List.pairwise_cons.mp h).1 e' he' t t' ht ht'

theorem ClockMonotone.tail {e : ε} {es : List ε}
    (h : ClockMonotone reads (e :: es)) : ClockMonotone reads es :=
  (List.pairwise_cons.mp h).2

end Clock

/-- Steps that run at instants which never go back, each with a reading of the clock, if
it took one, from no later than it runs. -/
structure Timed {τ : Type w} [LE τ] (instant : ε → τ) (reading : ε → Option τ) (es : List ε) :
    Prop where
  monotone : (es.map instant).Pairwise (· ≤ ·)
  reads : ∀ e ∈ es, ∀ now, reading e = some now → now ≤ instant e

section Timed

variable {τ : Type w} [LE τ] {instant : ε → τ} {reading : ε → Option τ} {es es' : List ε}

theorem Timed.append_left (h : Timed instant reading (es ++ es')) :
    Timed instant reading es where
  monotone := (List.pairwise_append.mp (List.map_append ▸ h.monotone)).1
  reads := fun e he => h.reads e (List.mem_append_left _ he)

theorem Timed.le_last {e e' : ε} (h : Timed instant reading (es ++ [e])) (he' : e' ∈ es) :
    instant e' ≤ instant e := by
  have hpair := List.pairwise_append.mp (List.map_append ▸ h.monotone)
  exact hpair.2.2 _ (List.mem_map_of_mem he') _ (by simp)

end Timed

end GilStreaming.Trace
