import DeepGemmRs.Lib.Checked
import Mathlib.Order.Lattice

/-!
# Search among candidates

The two loops of an exhaustive search, in programs that may stop: one keeps the candidates that pass
a test, the other remembers the best one so far.

* `keep` : the candidates that pass; `mem_keep`, `keep_succeeds`;
* `best` : the measure of the first one that no later one betters; `best_measured`,
  `best_succeeds`;
* `FirstLeast` : the first of the candidates with the least key; `best_firstLeast` : where a
  candidate betters another as its key is less, that is the one found.
-/

namespace Search

open Checked

variable {ε α β : Type}

/-- The candidates that pass, in order. -/
def keep (passes : α → Except ε Bool) : List α → Except ε (List α)
  | [] => .ok []
  | a :: l => do
    let passed ← passes a
    let rest ← keep passes l
    .ok (if passed then a :: rest else rest)

/-- The measure of `first`, or of the last candidate that bettered the ones before it. -/
def best (measure : α → Except ε β) (better : β → β → Bool) (first : α) (rest : List α) : Except ε β := do
  let info ← measure first
  rest.foldlM (fun incumbent a => do
    let info ← measure a
    .ok (if better info incumbent then info else incumbent)) info

theorem mem_keep {passes : α → Except ε Bool} {l r : List α} (h : keep passes l = .ok r) (a : α) :
    a ∈ r ↔ a ∈ l ∧ passes a = .ok true := by
  induction l generalizing r with
  | nil =>
    cases h
    simp
  | cons b l ih =>
    simp only [keep, bind_eq_ok, Except.ok.injEq] at h
    obtain ⟨passed, hb, rest, hrest, rfl⟩ := h
    have ih := ih hrest
    by_cases hab : a = b
    · subst hab
      cases passed with
      | true => simp [hb]
      | false => simp [hb, ih]
    · cases passed <;> simp [hab, ih]

theorem keep_succeeds {passes : α → Except ε Bool} {l : List α} (h : ∀ a ∈ l, Succeeds (passes a)) :
    Succeeds (keep passes l) := by
  induction l with
  | nil => exact ⟨[], rfl⟩
  | cons b l ih =>
    obtain ⟨passed, hb⟩ := h b List.mem_cons_self
    obtain ⟨rest, hrest⟩ := ih fun a ha => h a (List.mem_cons_of_mem b ha)
    exact ⟨_, bind_eq_ok.mpr ⟨passed, hb, bind_eq_ok.mpr ⟨rest, hrest, rfl⟩⟩⟩

/-- The result is the measure of a candidate. -/
theorem best_measured {measure : α → Except ε β} {better : β → β → Bool} {first : α} {rest : List α} {b : β}
    (hrun : best measure better first rest = .ok b) : ∃ a ∈ first :: rest, measure a = .ok b := by
  obtain ⟨info, hfirst, h⟩ := bind_eq_ok.mp hrun
  have hcandidate : ∃ a ∈ first :: rest, measure a = .ok info := ⟨first, List.mem_cons_self, hfirst⟩
  have hrest : ∀ a ∈ rest, a ∈ first :: rest := fun a ha => List.mem_cons_of_mem first ha
  generalize first :: rest = candidates at hcandidate hrest ⊢
  clear hfirst hrun
  -- the incumbent is the measure of a candidate all along
  induction rest generalizing info with
  | nil =>
    cases h
    exact hcandidate
  | cons c rest ih =>
    simp only [List.foldlM_cons, bind_eq_ok, Except.ok.injEq] at h
    obtain ⟨_, ⟨next, hnext, rfl⟩, h⟩ := h
    refine ih _ h ?_ fun a ha => hrest a (List.mem_cons_of_mem c ha)
    by_cases hb : better next info
    · rw [if_pos hb]
      exact ⟨c, hrest c List.mem_cons_self, hnext⟩
    · rw [if_neg hb]
      exact hcandidate

theorem best_succeeds {measure : α → Except ε β} {better : β → β → Bool} {first : α} {rest : List α}
    (h : ∀ a ∈ first :: rest, Succeeds (measure a)) : Succeeds (best measure better first rest) := by
  obtain ⟨info, hfirst⟩ := h first List.mem_cons_self
  have hrest : ∀ a ∈ rest, Succeeds (measure a) := fun a ha => h a (List.mem_cons_of_mem first ha)
  refine succeeds_bind.mpr ⟨info, hfirst, ?_⟩
  clear h hfirst
  induction rest generalizing info with
  | nil => exact ⟨info, rfl⟩
  | cons c rest ih =>
    obtain ⟨next, hnext⟩ := hrest c List.mem_cons_self
    rw [List.foldlM_cons, succeeds_bind]
    exact ⟨_, bind_eq_ok.mpr ⟨next, hnext, rfl⟩, ih _ fun a ha => hrest a (List.mem_cons_of_mem c ha)⟩

/-! ## The first of the least -/

section

variable {γ : Type} [LinearOrder γ] {measure : α → Except ε β} {key : β → γ}

/-- All candidates are measured, and `b` is the measure of the first one with the least key. -/
def FirstLeast (measure : α → Except ε β) (key : β → γ) (candidates : List α) (b : β) : Prop :=
  ∃ before a after, candidates = before ++ a :: after ∧ measure a = .ok b ∧
    (∀ c ∈ before, ∃ i, measure c = .ok i ∧ key b < key i) ∧
      ∀ c ∈ after, ∃ i, measure c = .ok i ∧ key b ≤ key i

theorem FirstLeast.least {candidates : List α} {b : β} (h : FirstLeast measure key candidates b) :
    ∀ c ∈ candidates, ∃ i, measure c = .ok i ∧ key b ≤ key i := by
  obtain ⟨before, a, after, rfl, ha, hbefore, hafter⟩ := h
  intro c hc
  rcases List.mem_append.mp hc with hc | hc
  · obtain ⟨i, hi, hlt⟩ := hbefore c hc
    exact ⟨i, hi, le_of_lt hlt⟩
  · rcases List.mem_cons.mp hc with rfl | hc
    · exact ⟨b, ha, le_rfl⟩
    · exact hafter c hc

/-- One more candidate: it replaces the incumbent if its key is less. -/
theorem FirstLeast.snoc {seen : List α} {incumbent next : β} {c : α}
    (h : FirstLeast measure key seen incumbent) (hc : measure c = .ok next) :
    FirstLeast measure key (seen ++ [c]) (if key next < key incumbent then next else incumbent) := by
  by_cases hlt : key next < key incumbent
  · rw [if_pos hlt]
    refine ⟨seen, c, [], rfl, hc, ?_, fun _ hmem => absurd hmem List.not_mem_nil⟩
    intro d hd
    obtain ⟨i, hi, hle⟩ := h.least d hd
    exact ⟨i, hi, lt_of_lt_of_le hlt hle⟩
  · rw [if_neg hlt]
    obtain ⟨before, a, after, rfl, ha, hbefore, hafter⟩ := h
    refine ⟨before, a, after ++ [c], by rw [List.append_assoc, List.cons_append], ha, hbefore, ?_⟩
    intro d hd
    rcases List.mem_append.mp hd with hd | hd
    · exact hafter d hd
    · obtain rfl := List.mem_singleton.mp hd
      exact ⟨next, hc, not_lt.mp hlt⟩

/-- On measures where to be better is to have a smaller key, the search finds the first of the least. -/
theorem best_firstLeast {better : β → β → Bool} {first : α} {rest : List α} {b : β} (P : β → Prop)
    (hP : ∀ a ∈ first :: rest, ∀ i, measure a = .ok i → P i)
    (hbetter : ∀ i j, P i → P j → (better i j = true ↔ key i < key j))
    (h : best measure better first rest = .ok b) : FirstLeast measure key (first :: rest) b := by
  obtain ⟨info, hfirst, h⟩ := bind_eq_ok.mp h
  have hscan : ∀ (l seen : List α) (incumbent : β), FirstLeast measure key seen incumbent → P incumbent →
      (∀ a ∈ l, ∀ i, measure a = .ok i → P i) →
      l.foldlM (fun incumbent a => do
        let info ← measure a
        .ok (if better info incumbent then info else incumbent)) incumbent = .ok b →
      FirstLeast measure key (seen ++ l) b := by
    -- the incumbent is the first of the least among those seen
    intro l
    induction l with
    | nil =>
      intro seen incumbent hseen _ _ h
      cases h
      rwa [List.append_nil]
    | cons c l ih =>
      intro seen incumbent hseen hinc hl h
      simp only [List.foldlM_cons, bind_eq_ok, Except.ok.injEq] at h
      obtain ⟨_, ⟨next, hnext, rfl⟩, h⟩ := h
      have hPnext := hl c List.mem_cons_self next hnext
      have hstep := hseen.snoc hnext
      simp only [hbetter next incumbent hPnext hinc] at h
      rw [show seen ++ c :: l = (seen ++ [c]) ++ l by simp]
      refine ih _ _ hstep ?_ (fun a ha => hl a (List.mem_cons_of_mem c ha)) h
      split
      · exact hPnext
      · exact hinc
  refine hscan rest [first] info ?_ (hP first List.mem_cons_self info hfirst)
    (fun a ha => hP a (List.mem_cons_of_mem first ha)) h
  exact ⟨[], first, [], rfl, hfirst, fun _ hmem => absurd hmem List.not_mem_nil,
    fun _ hmem => absurd hmem List.not_mem_nil⟩

end

end Search
