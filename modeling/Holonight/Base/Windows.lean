import Mathlib

/-!
# Windows that cover a range exactly once

A process that looks at a time line through a sequence of closed windows sees a point
once for each window that contains it. `countP_sees_eq_one_iff` says when every point
of a range is seen exactly once: the first window reaches back to the start of the
range, and each window begins right after the end of the one before. It is stated for
windows that move forward, as those of successive scans do.
-/

namespace Holonight

/-- A closed window of integers. -/
structure Window where
  first : ℤ
  last : ℤ
  deriving DecidableEq

namespace Window

/-- The window contains the point. -/
def sees (x : ℤ) (w : Window) : Bool := decide (w.first ≤ x) && decide (x ≤ w.last)

/-- The second window begins right after the end of the first. -/
def Abuts (v w : Window) : Prop := w.first = v.last + 1

/-- The windows move forward, and only the last one may reach past `b`. -/
def Advances (b : ℤ) (v w : Window) : Prop :=
  v.first ≤ w.first ∧ v.last ≤ w.last ∧ v.last ≤ b ∧ w.first ≤ b

theorem sees_iff {x : ℤ} {w : Window} : w.sees x = true ↔ w.first ≤ x ∧ x ≤ w.last := by
  unfold sees
  rw [Bool.and_eq_true, decide_eq_true_iff, decide_eq_true_iff]

/-- No window sees a point before all of them. -/
theorem countP_sees_eq_zero {x : ℤ} {ws : List Window} (h : ∀ w ∈ ws, x < w.first) :
    ws.countP (sees x) = 0 := by
  refine List.countP_eq_zero.mpr fun w hw hsees => ?_
  have hfirst := (sees_iff.mp hsees).1
  have hlt := h w hw
  omega

variable {b : ℤ}

/-- A point past the first window is left to the others. -/
theorem countP_sees_cons_of_last_lt {x : ℤ} {w : Window} {ws : List Window} (h : w.last < x) :
    (w :: ws).countP (sees x) = ws.countP (sees x) := by
  refine List.countP_cons_of_neg fun hsees => ?_
  have hlast := (sees_iff.mp hsees).2
  omega

/-- If every point of a range is seen once, the next window abuts the first. -/
theorem abuts_of_seen_once {a : ℤ} {v w : Window} {ws : List Window}
    (hadv : (v :: w :: ws).Pairwise (Advances b)) (hv : v.first ≤ v.last) (ha : a ≤ v.last)
    (honce : ∀ x, a ≤ x → x ≤ b → (v :: w :: ws).countP (sees x) = 1) : Abuts v w := by
  obtain ⟨hfromv, hrest⟩ := List.pairwise_cons.mp hadv
  obtain ⟨hfirst, hlast, hvb, hwb⟩ := hfromv w List.mem_cons_self
  by_contra hgap
  rcases lt_or_gt_of_ne hgap with hoverlap | hhole
  · -- the end of `v` is seen by both
    have hboth := honce v.last ha hvb
    rw [List.countP_cons_of_pos (sees_iff.mpr ⟨hv, le_refl _⟩),
      List.countP_cons_of_pos (sees_iff.mpr ⟨by omega, hlast⟩)] at hboth
    omega
  · -- the point after `v` is seen by none
    have hnone := honce (v.last + 1) (by omega) (by omega)
    rw [countP_sees_cons_of_last_lt (by omega), countP_sees_eq_zero] at hnone
    · omega
    · intro u hu
      rcases List.mem_cons.mp hu with rfl | hu
      · exact hhole
      · have := ((List.pairwise_cons.mp hrest).1 u hu).1
        omega

/-- A point that is seen at all is not before the first window. -/
theorem first_le_of_seen {a : ℤ} {w : Window} {ws : List Window}
    (hadv : (w :: ws).Pairwise (Advances b)) (hseen : (w :: ws).countP (sees a) ≠ 0) :
    w.first ≤ a := by
  by_contra hlate
  refine hseen (countP_sees_eq_zero fun v hv => ?_)
  rcases List.mem_cons.mp hv with rfl | hv
  · omega
  · have hforward := ((List.pairwise_cons.mp hadv).1 v hv).1
    omega

/-- A point of the first window is seen by no other when the next one abuts it. -/
theorem countP_sees_of_abuts {x : ℤ} {v w : Window} {ws : List Window}
    (hadv : (w :: ws).Pairwise (Advances b)) (habuts : Abuts v w) (hfirst : v.first ≤ x)
    (hlast : x ≤ v.last) : (v :: w :: ws).countP (sees x) = 1 := by
  have hstart : w.first = v.last + 1 := habuts
  rw [List.countP_cons_of_pos (sees_iff.mpr ⟨hfirst, hlast⟩), countP_sees_eq_zero]
  intro u hu
  rcases List.mem_cons.mp hu with rfl | hu
  · omega
  · have hforward := ((List.pairwise_cons.mp hadv).1 u hu).1
    omega

/-- **Seen once**: every point of `a..b` is in exactly one of the windows if and only if
the first reaches back to `a` and each abuts the next. -/
theorem countP_sees_eq_one_iff {a : ℤ} {w : Window} {ws : List Window}
    (hadv : (w :: ws).Pairwise (Advances b)) (hle : ∀ v ∈ w :: ws, v.first ≤ v.last)
    (ha : a ≤ w.last) (hab : a ≤ b) (hend : ∃ v ∈ w :: ws, b ≤ v.last) :
    (∀ x, a ≤ x → x ≤ b → (w :: ws).countP (sees x) = 1)
      ↔ w.first ≤ a ∧ (w :: ws).IsChain Abuts := by
  -- induction on the windows; the range that is left begins after the first one
  induction ws generalizing a w with
  | nil =>
    have hb : b ≤ w.last := by
      obtain ⟨v, hv, hbv⟩ := hend
      rw [List.mem_singleton.mp hv] at hbv
      exact hbv
    constructor
    · intro honce
      have hseen := honce a (le_refl _) hab
      exact ⟨first_le_of_seen hadv (by omega), List.isChain_singleton _⟩
    · rintro ⟨hfirst, -⟩ x hax hxb
      rw [List.countP_cons_of_pos (sees_iff.mpr ⟨by omega, by omega⟩)]
      rfl
  | cons w' ws ih =>
    obtain ⟨hfromw, hrest⟩ := List.pairwise_cons.mp hadv
    have hstep := hfromw w' List.mem_cons_self
    have hle' : ∀ v ∈ w' :: ws, v.first ≤ v.last := fun v hv => hle v (List.mem_cons_of_mem _ hv)
    have hend' : ∃ v ∈ w' :: ws, b ≤ v.last := by
      obtain ⟨v, hv, hbv⟩ := hend
      rcases List.mem_cons.mp hv with rfl | hv
      · exact ⟨w', List.mem_cons_self, hbv.trans hstep.2.1⟩
      · exact ⟨v, hv, hbv⟩
    have hw' := hle' w' List.mem_cons_self
    constructor
    · intro honce
      have habuts := abuts_of_seen_once hadv (hle w List.mem_cons_self) ha honce
      have hstart : w'.first = w.last + 1 := habuts
      have hchain : (w' :: ws).IsChain Abuts := by
        refine ((ih hrest hle' (a := w.last + 1) (by omega) ?_ hend').mp fun x hx hxb => ?_).2
        · rw [← hstart]
          exact hstep.2.2.2
        · have hseen := honce x (by omega) hxb
          rwa [countP_sees_cons_of_last_lt (by omega)] at hseen
      have hseen := honce a (le_refl _) hab
      exact ⟨first_le_of_seen hadv (by omega), List.isChain_cons_cons.mpr ⟨habuts, hchain⟩⟩
    · rintro ⟨hfirst, hchain⟩ x hax hxb
      obtain ⟨habuts, hchain'⟩ := List.isChain_cons_cons.mp hchain
      have hstart : w'.first = w.last + 1 := habuts
      by_cases hx : x ≤ w.last
      · exact countP_sees_of_abuts hrest habuts (by omega) hx
      · rw [countP_sees_cons_of_last_lt (by omega)]
        exact (ih hrest hle' (a := w.last + 1) (by omega) (by omega) hend').mpr
          ⟨by omega, hchain'⟩ x (by omega) hxb

end Window

end Holonight
