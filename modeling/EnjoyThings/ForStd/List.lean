import Mathlib.Algebra.Ring.Int.Defs
import Mathlib.Data.List.Nodup

/-!
# Lists as tables

A table is a list of rows whose keys are distinct. These lemmas say how look-ups
by key, updates by key and insertions act on it, and how they change the sum of a
column over the rows with a property (`sumIf`).
-/

namespace List

variable {α κ : Type} {key : α → κ} {l : List α}

/-- In a table with a key, a row is found by its key. -/
theorem find?_key_of_mem [DecidableEq κ] (h : (l.map key).Nodup) {a : α} (ha : a ∈ l) :
    l.find? (key · = key a) = some a := by
  induction l with
  | nil => cases ha
  | cons b l ih =>
    rw [map_cons, nodup_cons] at h
    by_cases hb : key b = key a
    · rcases mem_cons.mp ha with rfl | ha
      · simp
      · exact absurd (hb ▸ mem_map_of_mem ha) h.1
    · rcases mem_cons.mp ha with rfl | ha
      · exact absurd rfl hb
      · rw [find?_cons_of_neg (by simpa using hb)]
        exact ih h.2 ha

theorem mem_concat_iff {a b : α} : a ∈ l ++ [b] ↔ a ∈ l ∨ a = b := by
  rw [mem_append, mem_singleton]

/-- A row under a new key keeps the keys distinct. -/
theorem nodup_map_append_singleton {a : α} (h : (l.map key).Nodup)
    (ha : ∀ b ∈ l, key b ≠ key a) : ((l ++ [a]).map key).Nodup := by
  rw [map_append, map_singleton, nodup_append]
  refine ⟨h, nodup_singleton _, ?_⟩
  intro k hk k' hk'
  obtain ⟨b, hb, rfl⟩ := mem_map.mp hk
  rw [mem_singleton.mp hk']
  exact ha b hb

/-- At most one row has a given key. -/
theorem length_filter_key_le [DecidableEq κ] (h : (l.map key).Nodup) (k : κ) :
    (l.filter fun a => key a = k).length ≤ 1 := by
  have hcount := nodup_iff_count_le_one.mp h k
  rw [count, countP_map, countP_eq_length_filter] at hcount
  exact hcount

/-- An update that keeps the keys keeps the list of keys. -/
theorem map_map_key {f : α → α} (hf : ∀ a, key (f a) = key a) :
    (l.map f).map key = l.map key := by
  rw [map_map]
  exact map_congr_left fun a _ => hf a

/-! ## Sums over the rows with a property -/

/-- The sum of `f` over the rows with `p`. -/
def sumIf (l : List α) (p : α → Prop) [DecidablePred p] (f : α → Int) : Int :=
  (l.map fun a => if p a then f a else 0).sum

section SumIf

variable {p q : α → Prop} [DecidablePred p] [DecidablePred q] {f : α → Int}

@[simp] theorem sumIf_nil : sumIf [] p f = 0 := rfl

@[simp] theorem sumIf_cons (a : α) : sumIf (a :: l) p f = (if p a then f a else 0) + sumIf l p f :=
  rfl

theorem sumIf_append (l' : List α) : sumIf (l ++ l') p f = sumIf l p f + sumIf l' p f := by
  simp [sumIf]

theorem sumIf_append_singleton (a : α) :
    sumIf (l ++ [a]) p f = sumIf l p f + if p a then f a else 0 := by
  simp [sumIf]

theorem sumIf_congr (h : ∀ a ∈ l, (q a ↔ p a)) : sumIf l q f = sumIf l p f := by
  unfold sumIf
  congr 1
  refine map_congr_left fun a ha => ?_
  by_cases hp : p a
  · rw [if_pos hp, if_pos ((h a ha).mpr hp)]
  · rw [if_neg hp, if_neg fun hq => hp ((h a ha).mp hq)]

/-- Fewer rows have a smaller sum, if the column is not negative. -/
theorem sumIf_le (h : ∀ a ∈ l, q a → p a) (hf : ∀ a ∈ l, 0 ≤ f a) : sumIf l q f ≤ sumIf l p f := by
  induction l with
  | nil => exact Int.le_refl 0
  | cons a l ih =>
    obtain ⟨ha, hl⟩ := forall_mem_cons.mp h
    obtain ⟨hfa, hfl⟩ := forall_mem_cons.mp hf
    have hrest := ih hl hfl
    rw [sumIf_cons, sumIf_cons]
    by_cases hq : q a
    · rw [if_pos hq, if_pos (ha hq)]
      omega
    · rw [if_neg hq]
      split <;> omega

/-- One row of a table loses the property. -/
theorem sumIf_remove (hkeys : (l.map key).Nodup) {a : α} (ha : a ∈ l) (hp : p a) (hq : ¬ q a)
    (h : ∀ b ∈ l, key b ≠ key a → (q b ↔ p b)) : sumIf l q f = sumIf l p f - f a := by
  induction l with
  | nil => cases ha
  | cons b l ih =>
    rw [map_cons, nodup_cons] at hkeys
    obtain ⟨hb, hl⟩ := forall_mem_cons.mp h
    rw [sumIf_cons, sumIf_cons]
    rcases mem_cons.mp ha with rfl | ha
    · have hrest : sumIf l q f = sumIf l p f := by
        refine sumIf_congr fun c hc => hl c hc fun he => hkeys.1 ?_
        rw [← he]
        exact mem_map_of_mem hc
      rw [if_pos hp, if_neg hq, hrest]
      omega
    · have hne : key b ≠ key a := fun he => hkeys.1 (he.symm ▸ mem_map_of_mem ha)
      rw [ih hkeys.2 ha hl]
      by_cases hpb : p b
      · rw [if_pos hpb, if_pos ((hb hne).mpr hpb)]
        omega
      · rw [if_neg hpb, if_neg fun hqb => hpb ((hb hne).mp hqb)]
        omega

end SumIf

/-- The sum of a column after an update of one row. -/
theorem sum_map_update [DecidableEq κ] {f : α → Int} {g : α → α} (hkeys : (l.map key).Nodup)
    {a : α} (ha : a ∈ l) :
    ((l.map fun b => if key b = key a then g b else b).map f).sum =
      (l.map f).sum + (f (g a) - f a) := by
  induction l with
  | nil => cases ha
  | cons b l ih =>
    rw [map_cons, nodup_cons] at hkeys
    simp only [map_cons, sum_cons]
    rcases mem_cons.mp ha with rfl | ha
    · have hrest : (l.map fun b => if key b = key a then g b else b) = l := by
        refine (map_congr_left fun c hc => ?_).trans (map_id l)
        have hne : key c ≠ key a := fun he => hkeys.1 (he ▸ mem_map_of_mem hc)
        exact if_neg hne
      rw [if_pos rfl, hrest]
      omega
    · have hne : key b ≠ key a := fun he => hkeys.1 (he.symm ▸ mem_map_of_mem ha)
      rw [if_neg hne, ih hkeys.2 ha]
      omega

/-! ## Order of insertion -/

/-- Where rows are added at the end, two rows of which the second is an old one stand as they
    stood before. -/
theorem pair_sublist_of_append {l' : List α} {a b : α} (h : [a, b].Sublist (l ++ l'))
    (hb : b ∉ l') : [a, b].Sublist l := by
  obtain ⟨l₁, l₂, hl, h₁, h₂⟩ := sublist_append_iff.mp h
  have hnil : l₂ = [] := by
    by_contra hne
    have hlast : l₂.getLast? = some b := by
      rw [← getLast?_append_of_ne_nil l₁ hne, ← hl]
      rfl
    exact hb (h₂.subset (mem_of_getLast? hlast))
  rw [hl, hnil, append_nil]
  exact h₁

/-- Two rows of a table in which every row was changed by `f`. -/
theorem pair_sublist_map {β : Type} {f : α → β} {a b : β} (h : [a, b].Sublist (l.map f)) :
    ∃ a₀ b₀, [a₀, b₀].Sublist l ∧ f a₀ = a ∧ f b₀ = b := by
  obtain ⟨l', hl', heq⟩ := sublist_map_iff.mp h
  obtain ⟨a₀, l₁, rfl, ha, heq⟩ := map_eq_cons_iff.mp heq.symm
  obtain ⟨b₀, l₂, rfl, hb, heq⟩ := map_eq_cons_iff.mp heq
  obtain rfl := map_eq_nil_iff.mp heq
  exact ⟨a₀, b₀, hl', ha, hb⟩

end List
