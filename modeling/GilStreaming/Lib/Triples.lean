import GilStreaming.Lib.Fallible

/-!
# GilStreaming.Lib.Triples

Rules of pre- and postconditions for fallible programs.

A `Triple` has two postconditions, for the programs that return and for those that fail, since a
caller goes on from both. `Along` is the frame: a relation between the states before and after,
whatever a program ends with. `search` is the loop over candidates that stops at the first one that
works, and its rule carries an invariant over the candidates that have failed.
-/

namespace GilStreaming.Fallible

variable {ε σ α β : Type}

/-! ### Programs -/

/-- Fail unless `ok`. -/
def ensure (ok : Bool) (e : ε) : Fallible ε σ Unit := if ok then pure () else throw e

/-- Run the program only if `c`. -/
def onlyIf (c : Bool) (x : Fallible ε σ Unit) : Fallible ε σ Unit := if c then x else pure ()

/-- Does the program return? -/
def succeeds (x : Fallible ε σ Unit) : Fallible ε σ Bool :=
  tryCatch (do x; return true) fun _ => return false

/-- Try the candidates in order until `body` returns. Before the next candidate `onFailure` may
end the search. -/
def search (body : β → Fallible ε σ α) (onFailure : β → ε → Fallible ε σ Unit) (last : ε) :
    List β → Fallible ε σ α
  | [] => throw last
  | b :: bs => tryCatch (body b) fun e => do
      onFailure b e
      search body onFailure last bs

/-- Try the programs in order until one returns. -/
def firstOf (last : ε) (xs : List (Fallible ε σ α)) : Fallible ε σ α :=
  search (fun x => x) (fun _ _ => pure ()) last xs

/-! ### Triples -/

/-- From a state in `P` the program returns into `Q`, or fails into `E`. -/
def Triple (P : σ → Prop) (x : Fallible ε σ α) (Q : α → σ → Prop) (E : ε → σ → Prop) : Prop :=
  ∀ s, P s → match exec x s with
    | (.ok a, s') => Q a s'
    | (.error e, s') => E e s'

section Triples

variable {P P' R : σ → Prop} {x : Fallible ε σ α} {Q Q' : α → σ → Prop} {E E' : ε → σ → Prop}

/-- **Consequence.** -/
theorem Triple.mono (h : Triple P x Q E) (hP : ∀ s, P' s → P s) (hQ : ∀ a s, Q a s → Q' a s)
    (hE : ∀ e s, E e s → E' e s) : Triple P' x Q' E' := by
  intro s hs
  have hends := h s (hP s hs)
  cases hx : exec x s with
  | mk r s' =>
      rw [hx] at hends
      cases r with
      | ok a => exact hQ a s' hends
      | error e => exact hE e s' hends

theorem triple_pure {a : α} (h : ∀ s, P s → Q a s) : Triple P (pure a : Fallible ε σ α) Q E :=
  fun s hs => h s hs

theorem triple_throw {e : ε} (h : ∀ s, P s → E e s) : Triple P (throw e : Fallible ε σ α) Q E :=
  fun s hs => h s hs

theorem triple_get {Q : σ → σ → Prop} (h : ∀ s, P s → Q s s) :
    Triple P (get : Fallible ε σ σ) Q E :=
  fun s hs => h s hs

theorem triple_modify {f : σ → σ} {Q : PUnit → σ → Prop} (h : ∀ s, P s → Q ⟨⟩ (f s)) :
    Triple P (modify f : Fallible ε σ PUnit) Q E :=
  fun s hs => h s hs

theorem triple_ensure {ok : Bool} {e : ε} {Q : Unit → σ → Prop}
    (hok : ∀ s, ok = true → P s → Q () s) (hfails : ∀ s, ok = false → P s → E e s) :
    Triple P (ensure ok e : Fallible ε σ Unit) Q E := by
  cases ok with
  | true => exact triple_pure fun s => hok s rfl
  | false => exact triple_throw fun s => hfails s rfl

theorem triple_onlyIf {c : Bool} {x : Fallible ε σ Unit} {Q : Unit → σ → Prop}
    (hx : c = true → Triple P x Q E) (hskip : ∀ s, c = false → P s → Q () s) :
    Triple P (onlyIf c x) Q E := by
  cases c with
  | true => exact hx rfl
  | false => exact triple_pure fun s => hskip s rfl

/-- **Sequence.** -/
theorem Triple.bind {R : β → σ → Prop} {x : Fallible ε σ β} {f : β → Fallible ε σ α}
    (hx : Triple P x R E) (hf : ∀ b, Triple (R b) (f b) Q E) : Triple P (x >>= f) Q E := by
  intro s hs
  have hends := hx s hs
  rw [exec_bind]
  cases hrun : exec x s with
  | mk r s' =>
      rw [hrun] at hends
      cases r with
      | ok b => exact hf b s' hends
      | error e => exact hends

/-- **Recovery.** -/
theorem Triple.tryCatch {R : ε → σ → Prop} {handler : ε → Fallible ε σ α} (hx : Triple P x Q R)
    (hhandler : ∀ e, Triple (R e) (handler e) Q E) : Triple P (tryCatch x handler) Q E := by
  intro s hs
  have hends := hx s hs
  rw [exec_tryCatch]
  cases hrun : exec x s with
  | mk r s' =>
      rw [hrun] at hends
      cases r with
      | ok a => exact hends
      | error e => exact hhandler e s' hends

/-- What a program does may be looked at for each state on its own. -/
theorem triple_of_state (h : ∀ s, P s → Triple (fun s' => s' = s) x Q E) : Triple P x Q E :=
  fun s hs => h s hs s rfl

theorem Triple.succeeds {x : Fallible ε σ Unit} {Q : Unit → σ → Prop} (h : Triple P x Q E) :
    Triple P (succeeds x) (fun ok s => if ok then Q () s else ∃ e, E e s) E' := by
  refine Triple.tryCatch (R := E) (h.bind fun _ => triple_pure fun s hs => ?_) fun e =>
    triple_pure fun s hs => ?_
  · exact (if_pos rfl).mpr hs
  · exact (if_neg Bool.false_ne_true).mpr ⟨e, hs⟩

/-- **Search rule.** `I` is kept for the candidates that have failed. -/
theorem triple_search {body : β → Fallible ε σ α} {onFailure : β → ε → Fallible ε σ Unit}
    {last : ε} {bs : List β} (I : List β → σ → Prop) (R : List β → β → ε → σ → Prop)
    (hbody : ∀ failed b rest, bs = failed ++ b :: rest → Triple (I failed) (body b) Q (R failed b))
    (honFailure : ∀ failed b rest, bs = failed ++ b :: rest → ∀ e,
      Triple (R failed b e) (onFailure b e) (fun _ => I (failed ++ [b])) E)
    (hlast : ∀ s, I bs s → E last s) : Triple (I []) (search body onFailure last bs) Q E := by
  have hfrom (rest failed : List β) (hbs : bs = failed ++ rest) :
      Triple (I failed) (search body onFailure last rest) Q E := by
    induction rest generalizing failed with
    | nil =>
        rw [List.append_nil] at hbs
        subst hbs
        exact triple_throw hlast
    | cons b rest ih =>
        refine (hbody failed b rest hbs).tryCatch fun e => ?_
        exact (honFailure failed b rest hbs e).bind fun _ => ih (failed ++ [b]) (by simp [hbs])
  exact hfrom bs [] rfl

theorem triple_exists {ι : Type} {P : ι → σ → Prop} (h : ∀ i, Triple (P i) x Q E) :
    Triple (fun s => ∃ i, P i s) x Q E :=
  fun s ⟨i, hs⟩ => h i s hs

/-- A fact that is not about the state. -/
theorem triple_and {fact : Prop} (h : fact → Triple P x Q E) :
    Triple (fun s => P s ∧ fact) x Q E :=
  fun s ⟨hs, hfact⟩ => h hfact s hs

end Triples

/-! ### Attempts -/

/-- The program returns into `Q`, or its failure leaves `P` as it was. -/
abbrev Attempt (P : σ → Prop) (x : Fallible ε σ α) (Q : α → σ → Prop) : Prop :=
  Triple P x Q fun _ => P

section Attempts

variable {P : σ → Prop} {x : Fallible ε σ α} {Q : α → σ → Prop} {E : ε → σ → Prop}

theorem attempt_throw {e : ε} : Attempt P (throw e : Fallible ε σ α) Q :=
  triple_throw fun _ hs => hs

theorem attempt_search {body : β → Fallible ε σ α} {onFailure : β → ε → Fallible ε σ Unit}
    {last : ε} {bs : List β} (hbody : ∀ b ∈ bs, Attempt P (body b) Q)
    (honFailure : ∀ b e, Attempt P (onFailure b e) fun _ => P) :
    Attempt P (search body onFailure last bs) Q :=
  triple_search (fun _ => P) (fun _ _ _ => P)
    (fun failed b rest hbs => hbody b (by simp [hbs])) (fun _ b _ _ e => honFailure b e)
    fun _ hs => hs

theorem triple_firstOf_cons {R : σ → Prop} {last : ε} {xs : List (Fallible ε σ α)}
    (hx : Triple P x Q fun _ => R) (hxs : Triple R (firstOf last xs) Q E) :
    Triple P (firstOf last (x :: xs)) Q E :=
  hx.tryCatch fun _ => Triple.bind (triple_pure fun _ hs => hs) fun _ => hxs

theorem attempt_firstOf {last : ε} {xs : List (Fallible ε σ α)} (h : ∀ x ∈ xs, Attempt P x Q) :
    Attempt P (firstOf last xs) Q :=
  attempt_search h fun _ _ => triple_pure fun _ hs => hs

theorem exec_firstOf_append {last : ε} {xs ys : List (Fallible ε σ α)} (s : σ) :
    exec (firstOf last (xs ++ ys)) s =
      exec (tryCatch (firstOf last xs) fun _ => firstOf last ys) s := by
  induction xs generalizing s with
  | nil => rw [exec_tryCatch]; rfl
  | cons x xs ih =>
      have hcons (zs : List (Fallible ε σ α)) : exec (firstOf last (x :: zs)) s =
          match exec x s with
          | (.ok a, s') => (.ok a, s')
          | (.error _, s') => exec (firstOf last zs) s' := by
        rw [firstOf, search, exec_tryCatch]
        rfl
      rw [exec_tryCatch, List.cons_append, hcons, hcons]
      cases hx : exec x s with
      | mk r s' =>
          cases r with
          | ok a => rfl
          | error e =>
              dsimp only
              rw [ih, exec_tryCatch]

theorem triple_firstOf_append {R : σ → Prop} {last : ε} {xs ys : List (Fallible ε σ α)}
    (hxs : Triple P (firstOf last xs) Q fun _ => R) (hys : Triple R (firstOf last ys) Q E) :
    Triple P (firstOf last (xs ++ ys)) Q E := by
  intro s hs
  rw [exec_firstOf_append]
  exact hxs.tryCatch (fun _ => hys) s hs

end Attempts

/-! ### Frames -/

/-- Whatever a run ends with, the state after it is related to the state before it. -/
def Along (R : σ → σ → Prop) (x : Fallible ε σ α) : Prop := ∀ s, R s (exec x s).2

section Frames

variable {R : σ → σ → Prop} {x : Fallible ε σ α}

theorem Along.mono {R' : σ → σ → Prop} (h : Along R x) (hR : ∀ s s', R s s' → R' s s') :
    Along R' x :=
  fun s => hR s _ (h s)

theorem along_pure (hrefl : ∀ s, R s s) (a : α) : Along R (pure a : Fallible ε σ α) := hrefl

theorem along_throw (hrefl : ∀ s, R s s) (e : ε) : Along R (throw e : Fallible ε σ α) := hrefl

theorem along_get (hrefl : ∀ s, R s s) : Along R (get : Fallible ε σ σ) := hrefl

theorem along_modify {f : σ → σ} (h : ∀ s, R s (f s)) : Along R (modify f : Fallible ε σ PUnit) := h

theorem along_ensure (hrefl : ∀ s, R s s) (ok : Bool) (e : ε) :
    Along R (ensure ok e : Fallible ε σ Unit) := by
  cases ok with
  | true => exact along_pure hrefl ()
  | false => exact along_throw hrefl e

theorem along_onlyIf (hrefl : ∀ s, R s s) (c : Bool) {x : Fallible ε σ Unit} (hx : Along R x) :
    Along R (onlyIf c x) := by
  cases c with
  | true => exact hx
  | false => exact along_pure hrefl ()

theorem Along.bind (htrans : ∀ s s' s'', R s s' → R s' s'' → R s s'') {f : α → Fallible ε σ β}
    (hx : Along R x) (hf : ∀ a, Along R (f a)) : Along R (x >>= f) := by
  intro s
  have hbefore := hx s
  rw [exec_bind]
  cases hrun : exec x s with
  | mk r s' =>
      rw [hrun] at hbefore
      cases r with
      | ok a => exact htrans _ _ _ hbefore (hf a s')
      | error e => exact hbefore

theorem Along.tryCatch (htrans : ∀ s s' s'', R s s' → R s' s'' → R s s'')
    {handler : ε → Fallible ε σ α} (hx : Along R x) (hhandler : ∀ e, Along R (handler e)) :
    Along R (tryCatch x handler) := by
  intro s
  have hbefore := hx s
  rw [exec_tryCatch]
  cases hrun : exec x s with
  | mk r s' =>
      rw [hrun] at hbefore
      cases r with
      | ok a => exact hbefore
      | error e => exact htrans _ _ _ hbefore (hhandler e s')

theorem along_search (hrefl : ∀ s, R s s) (htrans : ∀ s s' s'', R s s' → R s' s'' → R s s'')
    {body : β → Fallible ε σ α} {onFailure : β → ε → Fallible ε σ Unit} (last : ε) {bs : List β}
    (hbody : ∀ b ∈ bs, Along R (body b)) (honFailure : ∀ b e, Along R (onFailure b e)) :
    Along R (search body onFailure last bs) := by
  induction bs with
  | nil => exact along_throw hrefl last
  | cons b bs ih =>
      refine (hbody b List.mem_cons_self).tryCatch htrans fun e => ?_
      exact (honFailure b e).bind htrans fun _ => ih fun b hb => hbody b (List.mem_cons_of_mem _ hb)

theorem along_firstOf (hrefl : ∀ s, R s s) (htrans : ∀ s s' s'', R s s' → R s' s'' → R s s'')
    (last : ε) {xs : List (Fallible ε σ α)} (hxs : ∀ x ∈ xs, Along R x) :
    Along R (firstOf last xs) :=
  along_search hrefl htrans last hxs fun _ _ => along_pure hrefl ()

/-- **Frame rule.** What the relation keeps may be carried along. -/
theorem Triple.frame {P M : σ → Prop} {Q : α → σ → Prop} {E : ε → σ → Prop} (h : Triple P x Q E)
    (halong : Along R x) (hM : ∀ s s', R s s' → M s → M s') :
    Triple (fun s => P s ∧ M s) x (fun a s => Q a s ∧ M s) (fun e s => E e s ∧ M s) := by
  intro s hs
  have hends := h s hs.1
  have hkept := hM s _ (halong s) hs.2
  cases hrun : exec x s with
  | mk r s' =>
      rw [hrun] at hends hkept
      cases r with
      | ok a => exact ⟨hends, hkept⟩
      | error e => exact ⟨hends, hkept⟩

/-- A frame on its own. -/
theorem Along.triple {M : σ → Prop} (halong : Along R x) (hM : ∀ s s', R s s' → M s → M s') :
    Triple M x (fun _ => M) fun _ => M := by
  have htrivial : Triple (fun _ => True) x (fun _ _ => True) fun _ _ => True := by
    intro s _
    cases exec x s with
    | mk r s' => cases r <;> trivial
  exact (htrivial.frame halong hM).mono (fun _ hs => ⟨trivial, hs⟩) (fun _ _ hs => hs.2)
    fun _ _ hs => hs.2

/-- A search that fails has seen every candidate fail, or was ended by one of them. -/
theorem triple_search_all {body : β → Fallible ε σ α} {onFailure : β → ε → Fallible ε σ Unit}
    {last : ε} {bs : List β} {I : σ → Prop} {Q : α → σ → Prop} {E : ε → σ → Prop}
    (Failed : β → σ → Prop) (FailedWith : β → ε → σ → Prop)
    (hmono : ∀ b s s', R s s' → Failed b s → Failed b s')
    (halong : ∀ b ∈ bs, Along R (body b)) (halong' : ∀ b e, Along R (onFailure b e))
    (hbody : ∀ b ∈ bs, Triple I (body b) Q (FailedWith b))
    (honFailure : ∀ b ∈ bs, ∀ e,
      Triple (FailedWith b e) (onFailure b e) (fun _ s => I s ∧ Failed b s) E)
    (hlast : ∀ s, I s → (∀ b ∈ bs, Failed b s) → E last s) :
    Triple I (search body onFailure last bs) Q E := by
  have hall (bs : List β) (s s' : σ) (hR : R s s') (hs : ∀ b ∈ bs, Failed b s) :
      ∀ b ∈ bs, Failed b s' :=
    fun b hb => hmono b s s' hR (hs b hb)
  refine (triple_search (fun failed s => I s ∧ ∀ b ∈ failed, Failed b s)
    (fun failed b e s => FailedWith b e s ∧ ∀ b ∈ failed, Failed b s) ?_ ?_ ?_).mono
    (fun s hs => ⟨hs, fun b hb => absurd hb List.not_mem_nil⟩) (fun _ _ hs => hs) fun _ _ hs => hs
  · intro failed b rest hbs
    have hb : b ∈ bs := by simp [hbs]
    exact ((hbody b hb).frame (halong b hb) (hall failed)).mono (fun _ hs => hs)
      (fun _ _ hs => hs.1) fun _ _ hs => hs
  · intro failed b rest hbs e
    have hb : b ∈ bs := by simp [hbs]
    refine ((honFailure b hb e).frame (halong' b e) (hall failed)).mono (fun _ hs => hs) ?_
      fun _ _ hs => hs.1
    rintro - s ⟨⟨hI, hfailed⟩, hbefore⟩
    refine ⟨hI, fun b' hb' => ?_⟩
    rcases List.mem_append.mp hb' with hb' | hb'
    · exact hbefore b' hb'
    · exact List.mem_singleton.mp hb' ▸ hfailed
  · exact fun s hs => hlast s hs.1 hs.2

/-- What is kept may be carried along too. -/
theorem Triple.keeps {γ : Type} {view : σ → γ} {P : σ → Prop} {Q : α → σ → Prop}
    {E : ε → σ → Prop} (h : Triple P x Q E) (hkeeps : Keeps view x) (v : γ) :
    Triple (fun s => P s ∧ view s = v) x (fun a s => Q a s ∧ view s = v)
      (fun e s => E e s ∧ view s = v) :=
  @Triple.frame _ _ _ (fun s s' => view s' = view s) _ _ _ _ _ h hkeeps.view_eq
    fun _ _ hview hs => hview.trans hs

end Frames

end GilStreaming.Fallible
