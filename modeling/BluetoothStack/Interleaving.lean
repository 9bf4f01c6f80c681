import Mathlib

/-!
# Threads interleaved over a shared state

A system is a shared state and a list of threads, each with a local state of its own. One thread
moves at a time: the scheduler picks a thread, and its step either blocks (`none`), faults
(`some (.error e)`), or returns the next shared state and its own next local state. Nothing here
names a Bluetooth structure.

Two rules carry the proofs about such systems. An invariant kept by every move of every thread holds
in every reachable state, whatever the interleaving. And a balance between quantities of the shared
state and weights of the threads, `f s + Σ w = g s + Σ v`, holds in every reachable state as soon
as every single move keeps it locally: a thread that moves changes its own weight and the shared
state only, so the others' weights cancel. Token counting for semaphores and locks is of this form.
-/

namespace BluetoothStack.Interleaving

variable {σ τ ε : Type} (step : σ → τ → Option (Except ε (σ×τ)))

/-- One move: the thread at index `i` steps, the others stay where they are. -/
inductive Step : σ×List τ → σ×List τ → Prop
  | move {s s' : σ} {ts : List τ} {t' : τ} (i : ℕ) (hi : i < ts.length) :
      step s ts[i]=some (.ok (s',t')) → Step (s,ts) (s',ts.set i t')

/-- The states some interleaving of moves reaches from `init`. -/
def Reachable (init : σ×List τ) : σ×List τ → Prop := Relation.ReflTransGen (Step step) init

/-- The scheduler: the thread indices are tried in order; an index out of range or a blocked thread
is skipped, and the first fault ends the run. -/
def run : σ×List τ → List ℕ → Except ε (σ×List τ)
  | x,[] => .ok x
  | x,i::is =>
    match x.2[i]? with
    | none => run x is
    | some t =>
      match step x.1 t with
      | none => run x is
      | some (.error e) => .error e
      | some (.ok (s',t')) => run (s',x.2.set i t') is

variable {step}

theorem Reachable.refl (init : σ×List τ) : Reachable step init init := Relation.ReflTransGen.refl

theorem Reachable.tail {init x y : σ×List τ} (hx : Reachable step init x) (h : Step step x y) :
    Reachable step init y :=
  Relation.ReflTransGen.tail hx h

/-- An invariant kept by every move holds in every reachable state. -/
theorem reachable_invariant {Inv : σ×List τ → Prop} {init : σ×List τ} (h0 : Inv init)
    (hstep : ∀ x y,Inv x → Step step x y → Inv y) {x : σ×List τ} (h : Reachable step init x) : Inv x := by
  induction h with
  | refl => exact h0
  | tail _ hmove ih => exact hstep _ _ ih hmove

/-- A property of the shared state holds after a move when every thread's step keeps it. -/
theorem Step.shared {Q : σ → Prop} {x y : σ×List τ} (h : Step step x y)
    (hkeep : ∀ i (hi : i < x.2.length) s' t',step x.1 x.2[i]=some (.ok (s',t')) → Q s') : Q y.1 := by
  cases h with
  | move i hi hs => exact hkeep i hi _ _ hs

/-- A property of each thread in the shared state holds after a move when the moving thread has it
after its step and every other thread keeps it across that step. -/
theorem Step.forall_mem {P : σ → τ → Prop} {x y : σ×List τ} (h : Step step x y)
    (hself : ∀ i (hi : i < x.2.length) s' t',step x.1 x.2[i]=some (.ok (s',t')) → P s' t')
    (hother : ∀ i j (hi : i < x.2.length) (hj : j < x.2.length) s' t',j ≠ i →
      step x.1 x.2[i]=some (.ok (s',t')) → P s' x.2[j]) :
    ∀ t ∈ y.2,P y.1 t := by
  cases h with
  | @move s s' ts t' i hi hs =>
    intro u hu
    obtain ⟨j,hj,rfl⟩ := List.mem_iff_getElem.mp hu
    -- the thread at `j` is the one that moved, or one the move left alone
    by_cases hji : j=i
    · subst hji
      rw [List.getElem_set_self]
      exact hself j hi s' t' hs
    · rw [List.getElem_set_ne (Ne.symm hji)]
      exact hother i j hi (by simpa using hj) s' t' hji hs

/-- Every state the scheduler reaches is reachable. -/
theorem run_reachable {init : σ×List τ} :
    ∀ {x : σ×List τ} (is : List ℕ) {y : σ×List τ},Reachable step init x → run step x is=.ok y →
      Reachable step init y
  | x,[],y,hx,h => by
    rw [run,Except.ok.injEq] at h
    exact h ▸ hx
  | (s,ts),i::is,y,hx,h => by
    rw [run] at h
    -- the cases of the scheduler's choice, as `run` makes them
    cases hi : ts[i]? with
    | none =>
      rw [hi] at h
      exact run_reachable is hx h
    | some t =>
      obtain ⟨hlt,rfl⟩ := List.getElem?_eq_some_iff.mp hi
      simp only [hi] at h
      cases hstep : step s ts[i] with
      | none =>
        simp only [hstep] at h
        exact run_reachable is hx h
      | some r =>
        cases r with
        | error e => simp [hstep] at h
        | ok r =>
          simp only [hstep] at h
          exact run_reachable is (hx.tail (Step.move i hlt hstep)) h

/-- If no thread can fault in a reachable state, no run faults. -/
theorem run_ne_error {init : σ×List τ}
    (hsafe : ∀ x,Reachable step init x → ∀ t ∈ x.2,∀ e,step x.1 t≠some (.error e)) :
    ∀ {x : σ×List τ} (is : List ℕ),Reachable step init x → ∀ e,run step x is≠.error e
  | x,[],_,e,h => by
    rw [run] at h
    cases h
  | (s,ts),i::is,hx,e,h => by
    rw [run] at h
    cases hi : ts[i]? with
    | none =>
      rw [hi] at h
      exact run_ne_error hsafe is hx e h
    | some t =>
      obtain ⟨hlt,rfl⟩ := List.getElem?_eq_some_iff.mp hi
      simp only [hi] at h
      cases hstep : step s ts[i] with
      | none =>
        simp only [hstep] at h
        exact run_ne_error hsafe is hx e h
      | some r =>
        cases r with
        | error e' => exact hsafe _ hx ts[i] (List.getElem_mem hlt) e' hstep
        | ok r =>
          simp only [hstep] at h
          exact run_ne_error hsafe is (hx.tail (Step.move i hlt hstep)) e h

/-! ### Balances between the shared state and the threads -/

section Balances

variable {M : Type} [AddCancelCommMonoid M] (f g : σ → M) (w v : τ → M)

/-- Setting one entry changes a sum by the old and the new weight. -/
theorem sum_map_set (w : τ → M) :
    ∀ (ts : List τ) (i : ℕ) (hi : i < ts.length) (t' : τ),
      ((ts.set i t').map w).sum+w ts[i]=(ts.map w).sum+w t'
  | t::ts,0,_,t' => by simp [add_comm,add_left_comm]
  | t::ts,i+1,hi,t' => by
    have ih := sum_map_set w ts i (by simpa using hi) t'
    simp only [List.set_cons_succ,List.map_cons,List.sum_cons,List.getElem_cons_succ,add_assoc,ih]

/-- The balance `f s + Σ w = g s + Σ v` in a state of the system. -/
def Balance (x : σ×List τ) : Prop := f x.1+(x.2.map w).sum=g x.1+(x.2.map v).sum

variable {f g w v}

/-- A balance that every single move keeps between the shared state and the moving thread, where
`R` holds of the two, is kept by every move of the system from a state where `R` holds of the shared
state and each thread. -/
theorem Balance.move {R : σ → τ → Prop}
    (hmove : ∀ s t s' t',R s t → step s t=some (.ok (s',t')) → f s'+w t'+(g s+v t)=g s'+v t'+(f s+w t))
    {x y : σ×List τ} (hR : ∀ t ∈ x.2,R x.1 t) (hx : Balance f g w v x) (h : Step step x y) :
    Balance f g w v y := by
  cases h with
  | @move s s' ts t' i hi hs =>
    have hw := sum_map_set w ts i hi t'
    have hv := sum_map_set v ts i hi t'
    have hl := hmove s ts[i] s' t' (hR _ (List.getElem_mem hi)) hs
    unfold Balance at hx ⊢
    -- cancel the moving thread's old weights and the old balance from both sides
    apply add_right_cancel (b := w ts[i]+(g s+v ts[i]))
    calc f s'+((ts.set i t').map w).sum+(w ts[i]+(g s+v ts[i]))
        = (f s'+w t'+(g s+v ts[i]))+(ts.map w).sum := by rw [← add_assoc _ (w ts[i]),add_assoc (f s'),hw]; ac_rfl
      _ = (g s'+v t'+(f s+w ts[i]))+(ts.map w).sum := by rw [hl]
      _ = (g s'+v t'+w ts[i])+(f s+(ts.map w).sum) := by ac_rfl
      _ = (g s'+v t'+w ts[i])+(g s+(ts.map v).sum) := by rw [hx]
      _ = g s'+((ts.set i t').map v).sum+(w ts[i]+(g s+v ts[i])) := by
        rw [show g s'+((ts.set i t').map v).sum+(w ts[i]+(g s+v ts[i]))=
          g s'+(((ts.set i t').map v).sum+v ts[i])+(w ts[i]+g s) by ac_rfl,hv]
        ac_rfl

end Balances

/-- Two threads at different places weigh together at most the whole pool. -/
theorem add_le_sum_map {w : τ → ℕ} :
    ∀ {ts : List τ} {i j : ℕ} (hi : i < ts.length) (hj : j < ts.length),i ≠ j → w ts[i]+w ts[j] ≤ (ts.map w).sum
  | t::ts,0,0,_,_,hij => absurd rfl hij
  | t::ts,0,j+1,_,hj,_ => by
    have := List.le_sum_of_mem (List.mem_map_of_mem (f := w) (List.getElem_mem (by simpa using hj : j < ts.length)))
    simpa using this
  | t::ts,i+1,0,hi,_,_ => by
    have := List.le_sum_of_mem (List.mem_map_of_mem (f := w) (List.getElem_mem (by simpa using hi : i < ts.length)))
    simpa [add_comm] using this
  | t::ts,i+1,j+1,hi,hj,hij => by
    have := add_le_sum_map (w := w) (by simpa using hi : i < ts.length) (by simpa using hj : j < ts.length)
      (fun h => hij (by omega))
    simp only [List.getElem_cons_succ,List.map_cons,List.sum_cons]
    omega

end BluetoothStack.Interleaving
