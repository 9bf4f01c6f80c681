import BluetoothStack.ByteBuffer

/-!
# Runs of fallible transition functions

A component is a state type with a step function that consumes one input and
either faults or returns the next state together with the outputs it emitted.
A run feeds a list of inputs in order and stops at the first fault. The
invariant rule turns a one-step preservation lemma into a statement about
every run, and the output rule does the same for a property of emitted
outputs. Nothing here names a Bluetooth structure.
-/

namespace BluetoothStack.StepRun

variable {σ ι ο ε : Type}

/-- Feed the inputs in order, concatenating the outputs; the first fault ends the run. -/
def runSteps (step : σ → ι → Except ε (σ×List ο)) : σ → List ι → Except ε (σ×List ο)
  | s,[] => .ok (s,[])
  | s,i::is =>
    match step s i with
    | .error e => .error e
    | .ok (s',o) =>
      match runSteps step s' is with
      | .error e => .error e
      | .ok (s'',o') => .ok (s'',o++o')

@[simp] theorem ok_bind {β : Type} (a : β) (f : β → Except ε σ) : (Except.ok a>>=f)=f a := rfl

@[simp] theorem error_bind {β : Type} (e : ε) (f : β → Except ε σ) :
    (Except.error e>>=f)=Except.error e := rfl

/-- A bind succeeds exactly when its first computation does and the rest succeeds
on the value it returned. -/
theorem bind_eq_ok {β : Type} {x : Except ε β} {f : β → Except ε σ} {r : σ} :
    (x>>=f)=.ok r ↔ ∃ a,x=.ok a ∧ f a=.ok r := by
  cases x with
  | error e => simp only [error_bind,reduceCtorEq,false_and,exists_false]
  | ok a => simp only [ok_bind,Except.ok.injEq,exists_eq_left']

@[simp] theorem runSteps_nil (step : σ → ι → Except ε (σ×List ο)) (s : σ) :
    runSteps step s []=.ok (s,[]) := rfl

/-- A successful first step hands its state to the rest of the run. -/
theorem runSteps_cons_of_ok {step : σ → ι → Except ε (σ×List ο)} {s s' : σ} {i : ι} {o : List ο}
    (h : step s i=.ok (s',o)) (is : List ι) :
    runSteps step s (i::is)=(runSteps step s' is).map (fun r => (r.1,o++r.2)) := by
  simp only [runSteps,h]
  cases runSteps step s' is <;> rfl

/-- A faulting first step ends the run with its fault. -/
theorem runSteps_cons_of_error {step : σ → ι → Except ε (σ×List ο)} {s : σ} {i : ι} {e : ε}
    (h : step s i=.error e) (is : List ι) : runSteps step s (i::is)=.error e := by
  simp only [runSteps,h]

/-- A successful run splits into its first step and the rest. -/
theorem runSteps_cons_ok_inv {step : σ → ι → Except ε (σ×List ο)} {s t : σ} {i : ι}
    {is : List ι} {out : List ο} (h : runSteps step s (i::is)=.ok (t,out)) :
    ∃ s' o o', step s i=.ok (s',o) ∧ runSteps step s' is=.ok (t,o') ∧ out=o++o' := by
  simp only [runSteps] at h
  split at h
  · cases h
  · case h_2 s' o hs =>
    split at h
    · cases h
    · case h_2 s'' o' hr =>
      cases h
      exact ⟨s',o,o',hs,hr,rfl⟩

/-- Running two input lists in sequence is running their concatenation. -/
theorem runSteps_append {step : σ → ι → Except ε (σ×List ο)} {s t u : σ} {is js : List ι}
    {o o' : List ο} (h1 : runSteps step s is=.ok (t,o)) (h2 : runSteps step t js=.ok (u,o')) :
    runSteps step s (is++js)=.ok (u,o++o') := by
  induction is generalizing s o with
  | nil =>
    simp only [runSteps_nil,Except.ok.injEq,Prod.mk.injEq] at h1
    obtain ⟨rfl,rfl⟩ := h1
    simpa using h2
  | cons i is ih =>
    obtain ⟨s',p,p',hs,hr,rfl⟩ := runSteps_cons_ok_inv h1
    rw [List.cons_append,runSteps_cons_of_ok hs,ih hr]
    simp only [Except.map,List.append_assoc]

section Invariant

variable {step : σ → ι → Except ε (σ×List ο)} {Inv : σ → Prop}

/-- An invariant kept by every successful step holds after every successful run. -/
theorem runSteps_invariant (hstep : ∀ s i s' o,Inv s → step s i=.ok (s',o) → Inv s')
    {s t : σ} {is : List ι} {out : List ο} (hs : Inv s) (h : runSteps step s is=.ok (t,out)) :
    Inv t := by
  induction is generalizing s out with
  | nil =>
    simp only [runSteps_nil,Except.ok.injEq,Prod.mk.injEq] at h
    exact h.1 ▸ hs
  | cons i is ih =>
    obtain ⟨s',o,o',h1,h2,-⟩ := runSteps_cons_ok_inv h
    exact ih (hstep s i s' o hs h1) h2

/-- Outputs that every step emits from an invariant state satisfy `P`, so every
output of a successful run from an invariant state does. -/
theorem runSteps_outputs {P : ο → Prop}
    (hstep : ∀ s i s' o,Inv s → step s i=.ok (s',o) → Inv s')
    (hout : ∀ s i s' o,Inv s → step s i=.ok (s',o) → ∀ x ∈ o,P x)
    {s t : σ} {is : List ι} {out : List ο} (hs : Inv s) (h : runSteps step s is=.ok (t,out)) :
    ∀ x ∈ out,P x := by
  induction is generalizing s out with
  | nil =>
    simp only [runSteps_nil,Except.ok.injEq,Prod.mk.injEq] at h
    intro x hx
    rw [← h.2] at hx
    cases hx
  | cons i is ih =>
    obtain ⟨s',o,o',h1,h2,rfl⟩ := runSteps_cons_ok_inv h
    intro x hx
    rcases List.mem_append.mp hx with hx | hx
    · exact hout s i s' o hs h1 x hx
    · exact ih (hstep s i s' o hs h1) h2 x hx

/-- A step that never faults from an invariant state gives a run that never faults. -/
theorem runSteps_ok_of_step_ok (hstep : ∀ s i s' o,Inv s → step s i=.ok (s',o) → Inv s')
    (hok : ∀ s i,Inv s → ∃ r,step s i=.ok r) (s : σ) (hs : Inv s) (is : List ι) :
    ∃ r,runSteps step s is=.ok r := by
  induction is generalizing s with
  | nil => exact ⟨(s,[]),rfl⟩
  | cons i is ih =>
    obtain ⟨⟨s',o⟩,h1⟩ := hok s i hs
    obtain ⟨r,hr⟩ := ih s' (hstep s i s' o hs h1)
    exact ⟨(r.1,o++r.2),by rw [runSteps_cons_of_ok h1,hr]; rfl⟩

/-- A step that returns from an invariant state whose counter is below a bound, and raises the
counter by at most one, gives runs that return as long as the bound leaves room for every step;
the counter then rises by at most the number of steps. -/
theorem runSteps_ok_of_count_lt (count : σ → ℕ) (bound : ℕ)
    (hstep : ∀ s i,Inv s → count s<bound → ∃ s' o,step s i=.ok (s',o) ∧ Inv s' ∧ count s' ≤ count s+1)
    {s : σ} (hs : Inv s) {is : List ι} (hlen : count s+is.length ≤ bound) :
    ∃ t out,runSteps step s is=.ok (t,out) ∧ Inv t ∧ count t ≤ count s+is.length := by
  induction is generalizing s with
  | nil => exact ⟨s,[],rfl,hs,by simp⟩
  | cons i is ih =>
    have hroom : count s<bound := by
      simp only [List.length_cons] at hlen
      omega
    have ⟨s',o,h1,hs',hcount⟩ := hstep s i hs hroom
    have ⟨t,out,hrun,ht,hcount'⟩ := ih hs' (by simp only [List.length_cons] at hlen; omega)
    refine ⟨t,o++out,?_,ht,?_⟩
    · rw [runSteps_cons_of_ok h1,hrun]
      rfl
    · simp only [List.length_cons]
      omega

end Invariant

/-- A step that an abstraction carries to an abstract step, on the inputs `Good` admits and from
states the invariant holds in, carries whole runs: the abstract run is the concrete one seen through
the abstraction. -/
theorem runSteps_map_of_simulates {τ : Type} (abs : σ → τ) {step : σ → ι → Except ε (σ×List ο)}
    {astep : τ → ι → Except ε (τ×List ο)} {Inv : σ → Prop} {Good : ι → Prop}
    (hinv : ∀ s i s' o,Inv s → step s i=.ok (s',o) → Inv s')
    (hsim : ∀ s i,Inv s → Good i → (step s i).map (fun r => (abs r.1,r.2))=astep (abs s) i) :
    ∀ (is : List ι) (s : σ),Inv s → (∀ i ∈ is,Good i) →
      (runSteps step s is).map (fun r => (abs r.1,r.2))=runSteps astep (abs s) is
  | [],_,_,_ => rfl
  | i::is,s,hs,hgood => by
    have hi := hsim s i hs (hgood i List.mem_cons_self)
    -- the first step faults on both levels or moves both on
    cases h1 : step s i with
    | error e =>
      rw [h1] at hi
      rw [runSteps_cons_of_error h1,runSteps_cons_of_error hi.symm]
      rfl
    | ok r =>
      obtain ⟨s',o⟩ := r
      rw [h1] at hi
      have hrest := runSteps_map_of_simulates abs hinv hsim is s' (hinv s i s' o hs h1)
        (fun j hj => hgood j (List.mem_cons_of_mem i hj))
      rw [runSteps_cons_of_ok h1,runSteps_cons_of_ok hi.symm,← hrest]
      cases runSteps step s' is <;> rfl

/-! ### Results that succeed or fail as described -/

/-- A result that succeeds with a value satisfying `P` or fails with an error satisfying `Q`. -/
def ResultSpec {α : Type} (P : α → Prop) (Q : ε → Prop) : Except ε α → Prop
  | .ok a => P a
  | .error e => Q e

section ResultSpec

variable {α β : Type} {P : α → Prop} {P' : β → Prop} {Q : ε → Prop}

@[simp] theorem resultSpec_ok (a : α) : ResultSpec P Q (.ok a) ↔ P a := Iff.rfl

@[simp] theorem resultSpec_error (e : ε) : ResultSpec P Q (Except.error e : Except ε α) ↔ Q e := Iff.rfl

theorem ResultSpec.bind {x : Except ε α} {f : α → Except ε β} (hx : ResultSpec P Q x)
    (hf : ∀ a,P a → ResultSpec P' Q (f a)) : ResultSpec P' Q (x>>=f) := by
  cases x with
  | error e => exact hx
  | ok a => exact hf a hx

theorem ResultSpec.mono {x : Except ε α} {P₂ : α → Prop} (hx : ResultSpec P Q x) (hP : ∀ a,P a → P₂ a) :
    ResultSpec P₂ Q x := by
  cases x with
  | error e => exact hx
  | ok a => exact hP a hx

/-- A fold whose every step keeps `P` or fails as `Q` ends the same way. -/
theorem ResultSpec.foldlM {P : β → Prop} {f : β → α → Except ε β} (hf : ∀ b a,P b → ResultSpec P Q (f b a)) :
    ∀ (l : List α) (b : β),P b → ResultSpec P Q (l.foldlM f b)
  | [],_,hb => hb
  | a::l,b,hb => by
    rw [List.foldlM_cons]
    exact (hf b a hb).bind fun b' hb' => ResultSpec.foldlM hf l b' hb'

end ResultSpec

/-- A step that from an invariant state keeps the invariant or fails as `Q`
gives runs that end in an invariant state or fail as `Q`. -/
theorem runSteps_resultSpec {step : σ → ι → Except ε (σ×List ο)} {Inv : σ → Prop} {Q : ε → Prop}
    (hstep : ∀ s i,Inv s → ResultSpec (fun r : σ×List ο => Inv r.1) Q (step s i)) :
    ∀ (is : List ι) (s : σ),Inv s → ResultSpec (fun r : σ×List ο => Inv r.1) Q (runSteps step s is)
  | [],_,hs => hs
  | i::is,s,hs => by
    have h1 := hstep s i hs
    unfold runSteps
    split
    · next e he => rw [he] at h1; exact h1
    · next s' o he =>
      rw [he] at h1
      have h2 := runSteps_resultSpec hstep is s' h1
      split
      · next e he' => rw [he'] at h2; exact h2
      · next s'' o' he' => rw [he'] at h2; exact h2

end BluetoothStack.StepRun
