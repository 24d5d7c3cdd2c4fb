import Mathlib

/-!
# Machines that read inputs and emit observations

Every stateful component of the daemons is driven from outside, one input at a
time (a D-Bus call, a scan, a store operation), and is judged by what it emits
over a whole run. `Machine` packages such a step function; `run` iterates it.

`AllSteps good` says that every step of a run is taken from a state and with an
input that satisfy `good`: this is how "a run all of whose steps meet a condition"
is written. The rule that carries every safety proof of the development is
`run_induction`: an invariant relating the observations so far to the state, kept by
each good step, holds at the end of every good run. As every prefix of a good run
is a good run, it holds in every state reached.
-/

namespace Holonight

universe u v w

/-- A deterministic step function on states `σ` with inputs `ι` and observations
`ο`. -/
structure Machine (σ : Type u) (ι : Type v) (ο : Type w) where
  step : σ → ι → σ × List ο

namespace Machine

variable {σ : Type u} {ι : Type v} {ο : Type w} (m : Machine σ ι ο)

/-- Run a list of inputs: the final state and all observations in order. -/
def run : σ → List ι → σ × List ο
  | s, [] => (s, [])
  | s, i :: is =>
    let next := m.step s i
    let rest := run next.1 is
    (rest.1, next.2 ++ rest.2)

/-- Every step of the run from `s` on the given inputs satisfies `good`. -/
def AllSteps (good : σ → ι → Prop) : σ → List ι → Prop
  | _, [] => True
  | s, i :: is => good s i ∧ AllSteps good (m.step s i).1 is

@[simp] theorem run_nil (s : σ) : m.run s [] = (s, []) := rfl

@[simp] theorem run_cons (s : σ) (i : ι) (is : List ι) :
    m.run s (i :: is)
      = ((m.run (m.step s i).1 is).1, (m.step s i).2 ++ (m.run (m.step s i).1 is).2) := rfl

theorem run_append (s : σ) (is js : List ι) :
    m.run s (is ++ js)
      = ((m.run (m.run s is).1 js).1, (m.run s is).2 ++ (m.run (m.run s is).1 js).2) := by
  induction is generalizing s with
  | nil => rfl
  | cons i is ih =>
    rw [List.cons_append, run_cons, run_cons, ih]
    exact Prod.ext rfl (List.append_assoc _ _ _).symm

/-- **Run induction**: an invariant between the observations so far and the state
that every good step keeps holds at the end of every good run. -/
theorem run_induction {good : σ → ι → Prop} {Inv : List ο → σ → Prop}
    (hstep : ∀ log s i, Inv log s → good s i → Inv (log ++ (m.step s i).2) (m.step s i).1)
    {log : List ο} {s : σ} {is : List ι} (hinit : Inv log s) (hgood : m.AllSteps good s is) :
    Inv (log ++ (m.run s is).2) (m.run s is).1 := by
  induction is generalizing log s with
  | nil => simpa using hinit
  | cons i is ih =>
    have hnext := ih (hstep log s i hinit hgood.1) hgood.2
    rw [run_cons, ← List.append_assoc]
    exact hnext

/-- Run induction for an invariant of the state alone. -/
theorem run_invariant {good : σ → ι → Prop} {Inv : σ → Prop}
    (hstep : ∀ s i, Inv s → good s i → Inv (m.step s i).1) {s : σ} {is : List ι} (hinit : Inv s)
    (hgood : m.AllSteps good s is) : Inv (m.run s is).1 := by
  induction is generalizing s with
  | nil => exact hinit
  | cons i is ih => exact ih (hstep s i hinit hgood.1) hgood.2

/-- An invariant that exactly the good steps keep holds after every step of a run if and
only if all its steps are good. -/
theorem forall_prefix_iff {good : σ → ι → Prop} {Inv : List ο → σ → Prop}
    (hstep : ∀ log s i, Inv log s →
      (Inv (log ++ (m.step s i).2) (m.step s i).1 ↔ good s i))
    {log : List ο} {s : σ} {is : List ι} (hinit : Inv log s) :
    (∀ taken, taken <+: is → Inv (log ++ (m.run s taken).2) (m.run s taken).1)
      ↔ m.AllSteps good s is := by
  induction is generalizing log s with
  | nil =>
    refine ⟨fun _ => trivial, fun _ taken htaken => ?_⟩
    rw [List.prefix_nil.mp htaken]
    simpa using hinit
  | cons i is ih =>
    rw [AllSteps, ← hstep log s i hinit]
    constructor
    · intro hall
      have hone : Inv (log ++ (m.step s i).2) (m.step s i).1 := by
        simpa using hall [i] (List.prefix_cons_inj i |>.mpr List.nil_prefix)
      refine ⟨hone, (ih hone).mp fun taken htaken => ?_⟩
      have hlonger := hall (i :: taken) ((List.prefix_cons_inj i).mpr htaken)
      rw [run_cons, ← List.append_assoc] at hlonger
      exact hlonger
    · rintro ⟨hone, hrest⟩ taken htaken
      cases taken with
      | nil => simpa using hinit
      | cons j taken =>
        obtain ⟨rfl, hshorter⟩ := List.cons_prefix_cons.mp htaken
        rw [run_cons, ← List.append_assoc]
        exact (ih hone).mpr hrest taken hshorter

/-- Two conditions on the steps of a run. -/
theorem AllSteps.and {good also : σ → ι → Prop} {s : σ} {is : List ι}
    (h : m.AllSteps good s is) (h' : m.AllSteps also s is) :
    m.AllSteps (fun s i => good s i ∧ also s i) s is := by
  induction is generalizing s with
  | nil => trivial
  | cons i is ih => exact ⟨⟨h.1, h'.1⟩, ih h.2 h'.2⟩

/-- A condition on the inputs alone. -/
theorem allSteps_inputs_iff {good : ι → Prop} {s : σ} {is : List ι} :
    m.AllSteps (fun _ i => good i) s is ↔ ∀ i ∈ is, good i := by
  induction is generalizing s with
  | nil => exact iff_of_true trivial (List.forall_mem_nil _)
  | cons i is ih => rw [AllSteps, ih, List.forall_mem_cons]

/-- The machine whose observations are its own steps: each input, with the state it was
taken in. -/
def traced : Machine σ ι (σ × ι) where
  step s i := ((m.step s i).1, [(s, i)])

/-- The traced machine takes the same steps. -/
theorem allSteps_traced {good : σ → ι → Prop} {s : σ} {is : List ι}
    (h : m.AllSteps good s is) : m.traced.AllSteps good s is := by
  induction is generalizing s with
  | nil => trivial
  | cons i is ih => exact ⟨h.1, ih h.2⟩

/-- The observations of a run, read off its steps. -/
theorem run_snd_eq_traced (s : σ) (is : List ι) :
    (m.run s is).2 = (m.traced.run s is).2.flatMap fun p => (m.step p.1 p.2).2 := by
  induction is generalizing s with
  | nil => rfl
  | cons i is ih => exact congrArg ((m.step s i).2 ++ ·) (ih _)

/-- Tracing leaves the states as they are. -/
theorem run_traced_fst (s : σ) (is : List ι) : (m.traced.run s is).1 = (m.run s is).1 := by
  induction is generalizing s with
  | nil => rfl
  | cons i is ih => exact ih _

/-- **Trace induction**: an invariant between the steps so far and the state. -/
theorem trace_induction {Inv : List (σ × ι) → σ → Prop}
    (hstep : ∀ trace s i, Inv trace s → Inv (trace ++ [(s, i)]) (m.step s i).1) {s : σ}
    (hinit : Inv [] s) (is : List ι) : Inv (m.traced.run s is).2 (m.run s is).1 := by
  have hall : m.traced.AllSteps (fun _ _ => True) s is :=
    m.traced.allSteps_inputs_iff.mpr fun _ _ => trivial
  have hrun := m.traced.run_induction (fun trace s i h _ => hstep trace s i h) hinit hall
  rw [run_traced_fst] at hrun
  exact hrun

/-! ## Driving another machine

A machine that makes calls of another one leaves it, after any run, as its calls leave it. -/

section Driving

variable {σ' ι' ο' : Type*} {m} {m' : Machine σ' ι' ο'} {view : σ → σ'} {calls : σ → ι → List ι'}

/-- **The driven machine runs on the calls of the driver**, when each step of the driver does what
its calls do. -/
theorem run_drives (hstep : ∀ s i, view (m.step s i).1 = (m'.run (view s) (calls s i)).1) (s : σ)
    (is : List ι) :
    view (m.run s is).1
      = (m'.run (view s) ((m.traced.run s is).2.flatMap fun p => calls p.1 p.2)).1 := by
  induction is generalizing s with
  | nil => rfl
  | cons i is ih =>
    have hrest := ih (m.step s i).1
    rw [hstep] at hrest
    show view (m.run (m.step s i).1 is).1 = (m'.run (view s) (calls s i ++ _)).1
    rw [run_append, hrest]
    rfl

end Driving

/-! ## Paying for steps

A potential that a step may raise only when the step is paid for bounds how many steps of some kind
a run takes. -/

/-- **The steps of a run are paid for** by the potential it starts with and its paid steps. -/
theorem countP_le_of_potential {Inv : σ → Prop} {potential : σ → ℕ} {counted paid : σ × ι → Bool}
    (hkeep : ∀ s i, Inv s → Inv (m.step s i).1)
    (hstep : ∀ s i, Inv s → potential (m.step s i).1 + (if counted (s, i) then 1 else 0)
      ≤ potential s + (if paid (s, i) then 1 else 0))
    {s : σ} (hs : Inv s) (is : List ι) :
    (m.traced.run s is).2.countP counted + potential (m.run s is).1
      ≤ potential s + (m.traced.run s is).2.countP paid := by
  induction is generalizing s with
  | nil => exact (Nat.add_comm _ _).le
  | cons i is ih =>
    have hfirst := hstep s i hs
    have hrest := ih (hkeep s i hs)
    show ((s, i) :: (m.traced.run (m.step s i).1 is).2).countP counted
        + potential (m.run (m.step s i).1 is).1
      ≤ potential s + ((s, i) :: (m.traced.run (m.step s i).1 is).2).countP paid
    rw [List.countP_cons, List.countP_cons]
    omega

/-! ## Noninterference

What an observer sees of a machine is its `view` of the state and the observations that are `about`
it. When it also knows all inputs that concern it, no other input shows: not whether there was one,
nor when. -/

section Unwinding

variable {γ : Type*} {m}

/-- The conditions on single steps, for the states of an invariant. -/
structure Unwinding (m : Machine σ ι ο) (Inv : σ → Prop) (view : σ → γ) (concerns : ι → Bool)
    (about : ο → Bool) : Prop where
  keeps : ∀ s i, Inv s → Inv (m.step s i).1
  /-- An input that concerns the observer shows the same in states that look the same. -/
  respects : ∀ s s' i, Inv s → Inv s' → view s = view s' → concerns i = true →
    view (m.step s i).1 = view (m.step s' i).1 ∧
      (m.step s i).2.filter about = (m.step s' i).2.filter about
  /-- Any other input does not show. -/
  silent : ∀ s i, Inv s → concerns i = false →
    view (m.step s i).1 = view s ∧ (m.step s i).2.filter about = []

variable {Inv : σ → Prop} {view : σ → γ} {concerns : ι → Bool} {about : ο → Bool}

/-- A run shows as much as the run on the inputs that concern the observer. -/
theorem Unwinding.run_filter (h : m.Unwinding Inv view concerns about) {s s' : σ} (hs : Inv s)
    (hs' : Inv s') (hview : view s = view s') (is : List ι) :
    view (m.run s is).1 = view (m.run s' (is.filter concerns)).1 ∧
      (m.run s is).2.filter about = (m.run s' (is.filter concerns)).2.filter about := by
  induction is generalizing s s' with
  | nil => exact ⟨hview, rfl⟩
  | cons i is ih =>
    rw [run_cons, List.filter_append]
    by_cases hconcerns : concerns i = true
    · obtain ⟨hnext, hshown⟩ := h.respects s s' i hs hs' hview hconcerns
      obtain ⟨hlast, hrest⟩ := ih (h.keeps s i hs) (h.keeps s' i hs') hnext
      rw [List.filter_cons_of_pos hconcerns, run_cons, List.filter_append, hshown, hrest]
      exact ⟨hlast, rfl⟩
    · obtain ⟨hnext, hshown⟩ := h.silent s i hs (Bool.not_eq_true _ ▸ hconcerns)
      obtain ⟨hlast, hrest⟩ := ih (h.keeps s i hs) hs' (hnext.trans hview)
      rw [List.filter_cons_of_neg hconcerns, hshown, List.nil_append]
      exact ⟨hlast, hrest⟩

/-- **Runs that agree on the inputs that concern the observer show the same.** -/
theorem Unwinding.noninterference (h : m.Unwinding Inv view concerns about) {s s' : σ}
    (hs : Inv s) (hs' : Inv s') (hview : view s = view s') {is is' : List ι}
    (hsame : is.filter concerns = is'.filter concerns) :
    view (m.run s is).1 = view (m.run s' is').1 ∧
      (m.run s is).2.filter about = (m.run s' is').2.filter about := by
  obtain ⟨hfirst, hfirstShown⟩ := h.run_filter hs hs' hview is
  obtain ⟨hother, hotherShown⟩ := h.run_filter hs' hs' rfl is'
  rw [hfirst, hfirstShown, hother, hotherShown, hsame]
  exact ⟨rfl, rfl⟩

end Unwinding

end Machine

/-! ## What a log says last

A log is read from its end: the latest event that sets something counts, as long as no
event after it undoes it. -/

section Logs

variable {ο : Type w}

/-- Where an event stands in a log with one more at its end. -/
theorem append_singleton_eq {log before after : List ο} {last found : ο}
    (h : log ++ [last] = before ++ found :: after) :
    (log = before ∧ last = found ∧ after = []) ∨
      ∃ init, after = init ++ [last] ∧ log = before ++ found :: init := by
  rcases List.eq_nil_or_concat' after with rfl | ⟨init, other, rfl⟩
  · obtain ⟨hlog, hlast⟩ := List.append_inj' h rfl
    exact Or.inl ⟨hlog, (List.cons.inj hlast).1, rfl⟩
  · rw [← List.cons_append, ← List.append_assoc] at h
    obtain ⟨hlog, hlast⟩ := List.append_inj' h rfl
    exact Or.inr ⟨init, by rw [(List.cons.inj hlast).1], hlog⟩

/-- The log has an event that `sets`, and all events after it are ones that `keep` what
it set. -/
def Standing (sets keep : ο → Prop) (log : List ο) : Prop :=
  ∃ before event after, log = before ++ event :: after ∧ sets event ∧ ∀ later ∈ after, keep later

variable {sets keep : ο → Prop} {log : List ο} {event : ο}

theorem not_standing_nil : ¬ Standing sets keep ([] : List ο) := by
  rintro ⟨before, event, after, hlog, -, -⟩
  exact List.append_ne_nil_of_right_ne_nil before (List.cons_ne_nil event after) hlog.symm

/-- One more event sets it, or keeps what stands. -/
theorem standing_append_singleton :
    Standing sets keep (log ++ [event]) ↔ sets event ∨ (Standing sets keep log ∧ keep event) := by
  constructor
  · rintro ⟨before, found, after, hlog, hsets, hkeep⟩
    rcases append_singleton_eq hlog with ⟨-, rfl, -⟩ | ⟨init, rfl, hinit⟩
    · exact Or.inl hsets
    · refine Or.inr ⟨⟨before, found, init, hinit, hsets, fun later hlater => ?_⟩, ?_⟩
      · exact hkeep later (List.mem_append_left _ hlater)
      · exact hkeep event (List.mem_append_right _ (List.mem_singleton_self _))
  · rintro (hsets | ⟨⟨before, found, after, rfl, hsets, hkeep⟩, hlast⟩)
    · exact ⟨log, event, [], rfl, hsets, fun later hlater => absurd hlater List.not_mem_nil⟩
    · refine ⟨before, found, after ++ [event], ?_, hsets, fun later hlater => ?_⟩
      · rw [List.append_assoc, List.cons_append]
      · rcases List.mem_append.mp hlater with hold | hnew
        · exact hkeep later hold
        · rw [List.mem_singleton.mp hnew]
          exact hlast

end Logs

end Holonight
