/-
# A set and a view that follows it

Several owners change a set of keys, each only its own, and a view of the set is told of
every change some time later, in an order of its own.  An owner waits until its change
was told before it makes the next one, so that there is at most one change of each owner
on its way.

`InStep` is the invariant: on the keys of an owner the set is what the view will be once
it was told of the owner's change.  It follows that the view is the set when nothing is
on its way (`InStep.eq_of_idle`), and that a change that takes keys away finds them in
the view (`InStep.deliver`).
-/
import Mathlib.Tactic

namespace DeferredView

variable {ι κ : Type*}

/-- A change of a set. -/
inductive Change (κ : Type*)
  | add (keys : List κ)
  | remove (keys : List κ)

namespace Change

/-- The keys a change names. -/
def keys : Change κ → List κ
  | add keys => keys
  | remove keys => keys

/-- The set after a change. -/
def apply (set : Set κ) : Change κ → Set κ
  | add keys => {k | k ∈ set ∨ k ∈ keys}
  | remove keys => {k | k ∈ set ∧ k ∉ keys}

/-- Keys are taken away once, and only if they are there. -/
def Sound (set : Set κ) : Change κ → Prop
  | add _ => True
  | remove keys => keys.Nodup ∧ ∀ k ∈ keys, k ∈ set

@[simp] theorem mem_apply_add (set : Set κ) (keys : List κ) (k : κ) :
    k ∈ (add keys).apply set ↔ k ∈ set ∨ k ∈ keys := Iff.rfl

@[simp] theorem mem_apply_remove (set : Set κ) (keys : List κ) (k : κ) :
    k ∈ (remove keys).apply set ↔ k ∈ set ∧ k ∉ keys := Iff.rfl

/-- A change leaves the keys alone that it does not name. -/
theorem mem_apply_of_not_mem {c : Change κ} {k : κ} (h : k ∉ c.keys) (set : Set κ) :
    k ∈ c.apply set ↔ k ∈ set := by
  cases c with
  | add keys => simp [show k ∉ keys from h]
  | remove keys => simp [show k ∉ keys from h]

/-- On the keys it names, a change does the same to sets that agree there. -/
theorem mem_apply_congr {c : Change κ} {k : κ} {set set' : Set κ} (h : k ∈ set ↔ k ∈ set') :
    k ∈ c.apply set ↔ k ∈ c.apply set' := by
  cases c with
  | add keys => rw [mem_apply_add, mem_apply_add, h]
  | remove keys => rw [mem_apply_remove, mem_apply_remove, h]

theorem Sound.congr {c : Change κ} {set set' : Set κ} (h : c.Sound set)
    (hsame : ∀ k ∈ c.keys, (k ∈ set ↔ k ∈ set')) : c.Sound set' := by
  cases c with
  | add keys => exact trivial
  | remove keys => exact ⟨h.1, fun k hk => (hsame k hk).1 (h.2 k hk)⟩

end Change

/-- The view once it was told of the change on its way, if there is one. -/
def catchUp (view : Set κ) : Option (Change κ) → Set κ
  | none => view
  | some c => c.apply view

/-- The set, the view, and the changes on their way. -/
structure InStep (owner : κ → ι) (set view : Set κ) (pending : ι → Option (Change κ)) : Prop where
  /-- A change names keys of its owner. -/
  owned : ∀ i c, pending i = some c → ∀ k ∈ c.keys, owner k = i
  /-- The set is what the view will be. -/
  agree : ∀ k, k ∈ set ↔ k ∈ catchUp view (pending (owner k))
  sound : ∀ i c, pending i = some c → c.Sound view

namespace InStep

variable {owner : κ → ι} {set view : Set κ} {pending pending' : ι → Option (Change κ)}
  {i : ι} {c : Change κ}

theorem start (owner : κ → ι) (set : Set κ) : InStep owner set set fun _ => none where
  owned _ _ h := by simp at h
  agree _ := Iff.rfl
  sound _ _ h := by simp at h

/-- An owner with no change on its way sees its own keys as the view does. -/
theorem mem_iff_of_idle (h : InStep owner set view pending) (hidle : pending i = none) {k : κ}
    (hk : owner k = i) : k ∈ set ↔ k ∈ view := by
  rw [h.agree k, hk, hidle, catchUp]

/-- The owner changes the set, and the change is on its way. -/
theorem update (h : InStep owner set view pending) (hidle : pending i = none)
    (howned : ∀ k ∈ c.keys, owner k = i) (hsound : c.Sound set) (hi : pending' i = some c)
    (hothers : ∀ j, j ≠ i → pending' j = pending j) :
    InStep owner (c.apply set) view pending' where
  owned j c' hc' := by
    by_cases hj : j = i
    · rw [hj, hi, Option.some.injEq] at hc'
      rwa [hj, ← hc']
    · exact h.owned j c' (by rwa [hothers j hj] at hc')
  agree k := by
    by_cases hk : owner k = i
    · rw [hk, hi]
      exact Change.mem_apply_congr (h.mem_iff_of_idle hidle hk)
    · have hnot : k ∉ c.keys := fun hmem => hk (howned k hmem)
      rw [Change.mem_apply_of_not_mem hnot, hothers _ hk]
      exact h.agree k
  sound j c' hc' := by
    by_cases hj : j = i
    · rw [hj, hi, Option.some.injEq] at hc'
      rw [← hc']
      exact hsound.congr fun k hk => h.mem_iff_of_idle hidle (howned k hk)
    · exact h.sound j c' (by rwa [hothers j hj] at hc')

/-- The view is told of a change on its way. -/
theorem deliver (h : InStep owner set view pending) (hc : pending i = some c)
    (hi : pending' i = none) (hothers : ∀ j, j ≠ i → pending' j = pending j) :
    c.Sound view ∧ InStep owner set (c.apply view) pending' := by
  refine ⟨h.sound i c hc, ?_, ?_, ?_⟩
  · intro j c' hc'
    by_cases hj : j = i
    · simp [hj, hi] at hc'
    · exact h.owned j c' (by rwa [hothers j hj] at hc')
  · intro k
    rw [h.agree k]
    by_cases hk : owner k = i
    · rw [hk, hi, hc]
      rfl
    · -- another owner's change does the same to the view, which is as it was on its keys
      have hnot : k ∉ c.keys := fun hmem => hk (h.owned i c hc k hmem)
      have hview := Change.mem_apply_of_not_mem hnot view
      rw [hothers _ hk]
      cases pending (owner k) with
      | none => exact hview.symm
      | some c' => exact Change.mem_apply_congr hview.symm
  · intro j c' hc'
    by_cases hj : j = i
    · simp [hj, hi] at hc'
    · rw [hothers j hj] at hc'
      refine (h.sound j c' hc').congr fun k hk => ?_
      have hkj : owner k = j := h.owned j c' hc' k hk
      have hnot : k ∉ c.keys := fun hmem => hj (hkj.symm.trans (h.owned i c hc k hmem))
      exact (Change.mem_apply_of_not_mem hnot view).symm

/-- When nothing is on its way the view is the set. -/
theorem eq_of_idle (h : InStep owner set view pending) (hidle : ∀ i, pending i = none) :
    view = set := by
  ext k
  exact (h.mem_iff_of_idle (hidle (owner k)) rfl).symm

end InStep

end DeferredView
