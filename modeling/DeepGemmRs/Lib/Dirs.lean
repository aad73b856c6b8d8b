import Mathlib.Data.Option.Basic
import Mathlib.Logic.Function.Basic

/-!
# Directories with an identity

A store maps paths to directories and directories to what is in them. A directory keeps its identity
when it is renamed, so a program that holds one of its files open writes to the same directory under
the new path; a path that is removed and created again names another directory.

* `Store` : no two paths share a directory, and identities are not used again;
* `Store.remove`, `Store.create`, `Store.modify`, `Store.rename` and what they do to `node` and
  `content`;
* `Store.Intact` : what is in the directory at a path, if there is one.
-/

namespace Dirs

/-- Directories at paths `P` with content `C`. -/
structure Store (P C : Type) where
  node : P → Option Nat
  content : Nat → C
  next : Nat
  lt_next : ∀ p d, node p = some d → d < next
  inj : ∀ p q d, node p = some d → node q = some d → p = q

namespace Store

variable {P C : Type}

/-- No directories; `c` stands in what has no path. -/
def empty (c : C) : Store P C where
  node := fun _ => none
  content := fun _ => c
  next := 0
  lt_next _ _ h := by cases h
  inj _ _ _ h := by cases h

/-- Change what is in a directory. -/
def modify (s : Store P C) (d : Nat) (f : C → C) : Store P C :=
  { s with content := Function.update s.content d (f (s.content d)) }

/-- Whatever directory is at `p`, its content has the property. -/
def Intact (s : Store P C) (p : P) (Q : C → Prop) : Prop := ∀ d, s.node p = some d → Q (s.content d)

section

variable {s : Store P C} {q : P} {d : Nat} {f : C → C} {Q : C → Prop}

@[simp] theorem node_modify : (s.modify d f).node = s.node := rfl

@[simp] theorem content_modify_self : (s.modify d f).content d = f (s.content d) := Function.update_self ..

@[simp] theorem modify_modify {g : C → C} : (s.modify d f).modify d g = s.modify d (g ∘ f) := by
  simp [modify]

theorem content_modify_of_ne {e : Nat} (h : e ≠ d) : (s.modify d f).content e = s.content e :=
  Function.update_of_ne h ..

theorem intact_of_none (h : s.node q = none) : s.Intact q Q := by
  intro d hd
  rw [h] at hd
  cases hd

/-- Another directory is changed. -/
theorem Intact.modify (h : s.Intact q Q) (hq : s.node q ≠ some d) : (s.modify d f).Intact q Q := by
  intro e he
  have hne : e ≠ d := by
    rintro rfl
    exact hq he
  rw [content_modify_of_ne hne]
  exact h e he

/-- The directory is changed, if it is this one, into one that has the property. -/
theorem Intact.modify_of_holds (h : s.Intact q Q) (hf : Q (f (s.content d))) :
    (s.modify d f).Intact q Q := by
  intro e he
  rcases eq_or_ne e d with rfl | hne
  · rw [content_modify_self]
    exact hf
  · rw [content_modify_of_ne hne]
    exact h e he

end

variable [DecidableEq P]

/-- No directory is left at `p`. -/
def remove (s : Store P C) (p : P) : Store P C where
  node := Function.update s.node p none
  content := s.content
  next := s.next
  lt_next q d h := by
    rcases eq_or_ne q p with rfl | hq
    · simp at h
    · exact s.lt_next q d (by rwa [Function.update_of_ne hq] at h)
  inj q r d hq hr := by
    rcases eq_or_ne q p with rfl | hqp
    · simp at hq
    rcases eq_or_ne r p with rfl | hrp
    · simp at hr
    rw [Function.update_of_ne hqp] at hq
    rw [Function.update_of_ne hrp] at hr
    exact s.inj q r d hq hr

/-- A new directory at `p`, where there is none. -/
def fresh (s : Store P C) (p : P) (c : C) : Store P C where
  node := Function.update s.node p (some s.next)
  content := Function.update s.content s.next c
  next := s.next + 1
  lt_next q d h := by
    rcases eq_or_ne q p with rfl | hq
    · rw [Function.update_self, Option.some_inj] at h
      omega
    · rw [Function.update_of_ne hq] at h
      have := s.lt_next q d h
      omega
  inj q r d hq hr := by
    rcases eq_or_ne q p with hqp | hqp <;> rcases eq_or_ne r p with hrp | hrp
    · rw [hqp, hrp]
    · rw [hqp, Function.update_self, Option.some_inj] at hq
      rw [Function.update_of_ne hrp] at hr
      have := s.lt_next r d hr
      omega
    · rw [hrp, Function.update_self, Option.some_inj] at hr
      rw [Function.update_of_ne hqp] at hq
      have := s.lt_next q d hq
      omega
    · rw [Function.update_of_ne hqp] at hq
      rw [Function.update_of_ne hrp] at hr
      exact s.inj q r d hq hr

/-- A directory at `p`: the one that is there, or a new one with content `c`. -/
def create (s : Store P C) (p : P) (c : C) : Store P C :=
  if (s.node p).isSome then s else s.fresh p c

/-- The directory at `p` moves to `q`. -/
def rename (s : Store P C) (p q : P) : Store P C where
  node := Function.update (Function.update s.node p none) q (s.node p)
  content := s.content
  next := s.next
  lt_next r d h := by
    rcases eq_or_ne r q with rfl | hr
    · exact s.lt_next p d (by rwa [Function.update_self] at h)
    · rw [Function.update_of_ne hr] at h
      exact (s.remove p).lt_next r d h
  inj r t d hr ht := by
    have hp : ∀ r, (s.remove p).node r = some d → s.node p ≠ some d := by
      intro r hr hpd
      rcases eq_or_ne r p with rfl | hrp
      · simp [remove] at hr
      · exact hrp (s.inj r p d (by simpa [remove, hrp] using hr) hpd)
    rcases eq_or_ne r q with rfl | hrq <;> rcases eq_or_ne t r with rfl | htr
    · rfl
    · rw [Function.update_self] at hr
      rw [Function.update_of_ne htr] at ht
      exact absurd hr (hp t ht)
    · rfl
    · rw [Function.update_of_ne hrq] at hr
      rcases eq_or_ne t q with rfl | htq
      · rw [Function.update_self] at ht
        exact absurd ht (hp r hr)
      · rw [Function.update_of_ne htq] at ht
        exact (s.remove p).inj r t d hr ht

variable {s : Store P C} {p q : P} {c : C} {d : Nat} {Q : C → Prop}

@[simp] theorem node_remove_self : (s.remove p).node p = none := Function.update_self ..

theorem node_remove_of_ne (h : q ≠ p) : (s.remove p).node q = s.node q := Function.update_of_ne h ..

@[simp] theorem node_fresh_self : (s.fresh p c).node p = some s.next := Function.update_self ..

@[simp] theorem content_fresh_next : (s.fresh p c).content s.next = c := Function.update_self ..

theorem node_fresh_of_ne (h : q ≠ p) : (s.fresh p c).node q = s.node q := Function.update_of_ne h ..

@[simp] theorem node_rename_target : (s.rename p q).node q = s.node p := Function.update_self ..

theorem node_rename_of_ne {r : P} (hp : r ≠ p) (hq : r ≠ q) : (s.rename p q).node r = s.node r := by
  show Function.update _ _ _ r = _
  rw [Function.update_of_ne hq, Function.update_of_ne hp]

theorem node_rename_source (h : p ≠ q) : (s.rename p q).node p = none := by
  show Function.update _ _ _ p = _
  rw [Function.update_of_ne h, Function.update_self]

@[simp] theorem content_rename : (s.rename p q).content = s.content := rfl

theorem create_of_none (h : s.node p = none) : s.create p c = s.fresh p c := by
  unfold create
  rw [h]
  rfl

theorem node_create_of_ne (h : q ≠ p) : (s.create p c).node q = s.node q := by
  unfold create
  split
  · rfl
  · exact node_fresh_of_ne h

/-- Creation leaves the directories that are there as they are. -/
theorem content_create_of_lt (h : d < s.next) : (s.create p c).content d = s.content d := by
  unfold create
  split
  · rfl
  · exact Function.update_of_ne (by omega) ..

/-! ## Intact directories -/

theorem intact_remove_self : (s.remove p).Intact p Q := intact_of_none node_remove_self

theorem Intact.remove (h : s.Intact q Q) : (s.remove p).Intact q Q := by
  rcases eq_or_ne q p with rfl | hq
  · exact intact_remove_self
  · intro d hd
    exact h d (by rwa [node_remove_of_ne hq] at hd)

/-- A directory elsewhere is created beside it. -/
theorem Intact.create (h : s.Intact q Q) (hq : q ≠ p) : (s.create p c).Intact q Q := by
  intro d hd
  rw [node_create_of_ne hq] at hd
  rw [content_create_of_lt (s.lt_next q d hd)]
  exact h d hd

theorem intact_rename_target (h : s.Intact p Q) : (s.rename p q).Intact q Q := by
  intro d hd
  rw [node_rename_target] at hd
  exact h d hd

theorem Intact.rename {r : P} (h : s.Intact r Q) (hq : r ≠ q) : (s.rename p q).Intact r Q := by
  rcases eq_or_ne r p with rfl | hp
  · exact intact_of_none (node_rename_source hq)
  · intro d hd
    rw [node_rename_of_ne hp hq] at hd
    exact h d hd

end Store

end Dirs
