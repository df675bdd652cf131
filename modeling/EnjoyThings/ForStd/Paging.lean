import Mathlib.Data.List.Sort

/-!
# Reading a table page by page

A page has the rows below a cursor, the last ones first, up to a limit. If there are more, its
last row is the next cursor. Rows may be added between two pages, anywhere. A reader who
follows the cursors to the end has seen every row that was there at the start, no row twice,
and all rows in descending order. The reader gets to the end unless rows keep being added.

## Key results

- `walk_descending`, `walk_complete`: what a reader sees
- `walk_ends`: the reader gets to the end
-/

namespace Paging

variable {α κ : Type} (lt : κ → κ → Prop) [DecidableRel lt] (key : α → κ)

/-- The rows below a cursor, in descending order. -/
def listing (rows : List α) (cursor : Option κ) : List α :=
  (rows.filter fun a => decide (∀ k ∈ cursor, lt (key a) k)).insertionSort
    fun a b => ¬ lt (key a) (key b)

/-- One page, and the next cursor if there is more. -/
def page (limit : Nat) (rows : List α) (cursor : Option κ) : List α × Option κ :=
  let found := (listing lt key rows cursor).take (limit + 1)
  if limit < found.length then (found.take limit, (found.take limit).getLast?.map key)
  else (found, none)

/-- The rows of all pages, each read from the table as it is then, and whether the last one was
    reached. -/
def walk (limit : Nat) : Option κ → List (List α) → List α × Bool
  | _, [] => ([], false)
  | cursor, rows :: later =>
    match page lt key limit rows cursor with
    | (found, none) => (found, true)
    | (found, some next) =>
      (found ++ (walk limit (some next) later).1, (walk limit (some next) later).2)

variable {lt key} {limit : Nat} {rows : List α} {cursor : Option κ}

theorem mem_listing {a : α} :
    a ∈ listing lt key rows cursor ↔ a ∈ rows ∧ ∀ k ∈ cursor, lt (key a) k := by
  rw [listing, List.mem_insertionSort, List.mem_filter, decide_eq_true_eq]

/-- The limit is seen from the one row that is asked for beyond it. -/
theorem page_eq : page lt key limit rows cursor =
    ((listing lt key rows cursor).take limit,
      if limit < (listing lt key rows cursor).length then
        ((listing lt key rows cursor).take limit).getLast?.map key else none) := by
  simp only [page, List.length_take, List.take_take]
  by_cases hmore : limit < (listing lt key rows cursor).length
  · rw [if_pos (by omega), if_pos hmore, Nat.min_eq_left (Nat.le_succ limit)]
  · rw [if_neg (by omega), if_neg hmore, List.take_of_length_le (by omega),
      List.take_of_length_le (by omega)]

variable [IsStrictTotalOrder κ lt]

/-- Rows with distinct keys are listed in strictly descending order. -/
theorem listing_descending (h : (rows.map key).Nodup) :
    (listing lt key rows cursor).Pairwise fun a b => lt (key b) (key a) := by
  have htotal : Std.Total fun a b : α => ¬ lt (key a) (key b) := ⟨fun a b => by
    by_contra hboth
    simp only [not_or, not_not] at hboth
    exact asymm hboth.1 hboth.2⟩
  have htrans : IsTrans α fun a b => ¬ lt (key a) (key b) := ⟨fun a b c hab hbc hac => by
    rcases trichotomous_of lt (key a) (key b) with h | h | h
    · exact hab h
    · exact hbc (h ▸ hac)
    · exact hbc (trans_of lt h hac)⟩
  have hnodup : ((listing lt key rows cursor).map key).Nodup := by
    refine List.Nodup.perm ?_ ((List.perm_insertionSort _ _).map key).symm
    exact h.sublist (List.filter_sublist.map key)
  have hsorted : (listing lt key rows cursor).Pairwise fun a b => ¬ lt (key a) (key b) :=
    List.pairwise_insertionSort _ _
  have hne := List.pairwise_map.mp hnodup
  refine (hsorted.and hne).imp fun hab => ?_
  rcases trichotomous_of lt (key _) (key _) with h | h | h
  · exact absurd h hab.1
  · exact absurd h hab.2
  · exact h

/-- What a page leaves for the next ones is below its last row, and the page is not. -/
theorem page_next {found : List α} {next : κ} (h : (rows.map key).Nodup)
    (hpage : page lt key limit rows cursor = (found, some next)) :
    (∀ a ∈ rows, (∀ k ∈ cursor, lt (key a) k) → a ∈ found ∨ lt (key a) next) ∧
    (∀ a ∈ found, ¬ lt (key a) next) ∧ (∀ k ∈ cursor, lt next k) := by
  rw [page_eq] at hpage
  obtain ⟨rfl, hnext⟩ := Prod.mk.inj hpage
  split at hnext
  · obtain ⟨last, hlast, rfl⟩ := Option.map_eq_some_iff.mp hnext
    have hmem := List.mem_of_getLast? hlast
    have hdesc : (listing lt key rows cursor).Pairwise fun a b => lt (key b) (key a) :=
      listing_descending h
    rw [← List.take_append_drop limit (listing lt key rows cursor), List.pairwise_append] at hdesc
    refine ⟨fun a ha hbelow => ?_, fun a ha => ?_, ?_⟩
    · have hlisted := mem_listing.mpr ⟨ha, hbelow⟩
      rw [← List.take_append_drop limit (listing lt key rows cursor)] at hlisted
      exact (List.mem_append.mp hlisted).imp_right fun hdrop => hdesc.2.2 last hmem a hdrop
    · -- the last row of the page is the least one
      obtain ⟨init, hinit⟩ := List.getLast?_eq_some_iff.mp hlast
      rw [hinit] at ha hdesc
      rcases List.mem_append.mp ha with ha | ha
      · exact asymm ((List.pairwise_append.mp hdesc.1).2.2 a ha last List.mem_cons_self)
      · rw [List.mem_singleton.mp ha]
        exact irrefl _
    · exact (mem_listing.mp (List.mem_of_mem_take hmem)).2
  · cases hnext

omit [IsStrictTotalOrder κ lt] in
/-- The last page has all that is left. -/
theorem page_end {found : List α} (hlimit : 0 < limit)
    (hpage : page lt key limit rows cursor = (found, none)) :
    found = listing lt key rows cursor := by
  rw [page_eq] at hpage
  obtain ⟨rfl, hnext⟩ := Prod.mk.inj hpage
  split at hnext
  · rename_i hmore
    -- a page that is not the last one has rows, so it has a last row
    rw [Option.map_eq_none_iff, List.getLast?_eq_none_iff, List.take_eq_nil_iff] at hnext
    rcases hnext with hzero | hempty
    · omega
    · rw [hempty] at hmore
      cases hmore
  · exact List.take_of_length_le (by omega)

omit [IsStrictTotalOrder κ lt] in
theorem mem_page {found : List α} {next : Option κ}
    (hpage : page lt key limit rows cursor = (found, next)) :
    ∀ a ∈ found, a ∈ rows ∧ ∀ k ∈ cursor, lt (key a) k := by
  rw [page_eq] at hpage
  obtain ⟨rfl, -⟩ := Prod.mk.inj hpage
  exact fun a ha => mem_listing.mp (List.mem_of_mem_take ha)

theorem page_descending {found : List α} {next : Option κ} (h : (rows.map key).Nodup)
    (hpage : page lt key limit rows cursor = (found, next)) :
    found.Pairwise fun a b => lt (key b) (key a) := by
  rw [page_eq] at hpage
  obtain ⟨rfl, -⟩ := Prod.mk.inj hpage
  exact (listing_descending h).sublist (List.take_sublist _ _)

/-! ## Following the cursors -/

variable {tables : List (List α)}

/-- The rows a reader sees are below the cursor the reader starts from. -/
theorem walk_below (h : ∀ rows ∈ tables, (rows.map key).Nodup) :
    ∀ a ∈ (walk lt key limit cursor tables).1,
      (∃ rows ∈ tables, a ∈ rows) ∧ ∀ k ∈ cursor, lt (key a) k := by
  induction tables generalizing cursor with
  | nil => simp [walk]
  | cons rows later ih =>
    intro a ha
    rw [walk] at ha
    split at ha
    · rename_i found hpage
      exact ⟨⟨rows, List.mem_cons_self, (mem_page hpage a ha).1⟩, (mem_page hpage a ha).2⟩
    · rename_i found next hpage
      rcases List.mem_append.mp ha with ha | ha
      · exact ⟨⟨rows, List.mem_cons_self, (mem_page hpage a ha).1⟩, (mem_page hpage a ha).2⟩
      · obtain ⟨⟨rows', hrows', hmem⟩, hbelow⟩ :=
          ih (fun rows hrows => h rows (List.mem_cons_of_mem _ hrows)) a ha
        refine ⟨⟨rows', List.mem_cons_of_mem _ hrows', hmem⟩, fun k hk => ?_⟩
        have hnext := (page_next (h rows List.mem_cons_self) hpage).2.2 k hk
        exact trans_of lt (hbelow next rfl) hnext

/-- A reader sees the rows in descending order, and so no row twice. -/
theorem walk_descending (h : ∀ rows ∈ tables, (rows.map key).Nodup) :
    (walk lt key limit cursor tables).1.Pairwise fun a b => lt (key b) (key a) := by
  induction tables generalizing cursor with
  | nil => exact List.Pairwise.nil
  | cons rows later ih =>
    have hlater := fun rows hrows => h rows (List.mem_cons_of_mem _ hrows)
    rw [walk]
    split
    · rename_i found hpage
      exact page_descending (h rows List.mem_cons_self) hpage
    · rename_i found next hpage
      refine List.pairwise_append.mpr
        ⟨page_descending (h rows List.mem_cons_self) hpage, ih hlater, fun a ha b hb => ?_⟩
      -- the later pages are below the cursor, and this one is not
      have hbelow := (walk_below hlater b hb).2 next rfl
      have habove := (page_next (h rows List.mem_cons_self) hpage).2.1 a ha
      rcases trichotomous_of lt (key a) next with hlt | heq | hgt
      · exact absurd hlt habove
      · exact heq ▸ hbelow
      · exact trans_of lt hbelow hgt

/-- Who gets to the end has seen every row that was there all the time. -/
theorem walk_complete (hlimit : 0 < limit) (h : ∀ rows ∈ tables, (rows.map key).Nodup)
    (hend : (walk lt key limit cursor tables).2 = true) {a : α}
    (ha : ∀ rows ∈ tables, a ∈ rows) (hbelow : ∀ k ∈ cursor, lt (key a) k) :
    a ∈ (walk lt key limit cursor tables).1 := by
  induction tables generalizing cursor with
  | nil => cases hend
  | cons rows later ih =>
    rw [walk] at hend ⊢
    split at hend
    · rename_i found hpage
      exact page_end hlimit hpage ▸ mem_listing.mpr ⟨ha rows List.mem_cons_self, hbelow⟩
    · rename_i found next hpage
      refine List.mem_append.mpr (((page_next (h rows List.mem_cons_self) hpage).1 a
        (ha rows List.mem_cons_self) hbelow).imp_right fun hnext => ?_)
      refine ih (fun rows hrows => h rows (List.mem_cons_of_mem _ hrows)) hend
        (fun rows hrows => ha rows (List.mem_cons_of_mem _ hrows)) fun k hk => ?_
      cases hk
      exact hnext

/-- Every page that is not the last one leaves less to read. -/
theorem listing_next_lt {found : List α} {next : κ} (h : (rows.map key).Nodup)
    (hpage : page lt key limit rows cursor = (found, some next)) :
    (listing lt key rows (some next)).length < (listing lt key rows cursor).length := by
  obtain ⟨-, habove, hnext⟩ := page_next h hpage
  have hfilter : (rows.filter fun a => decide (∀ k ∈ some next, lt (key a) k)) =
      (rows.filter fun a => decide (∀ k ∈ cursor, lt (key a) k)).filter
        fun a => decide (∀ k ∈ some next, lt (key a) k) := by
    rw [List.filter_filter]
    refine List.filter_congr fun a _ => ?_
    by_cases hlt : lt (key a) next
    · have hcursor : ∀ k ∈ cursor, lt (key a) k := fun k hk => trans_of lt hlt (hnext k hk)
      simpa [hlt] using hcursor
    · simp [hlt]
  -- the last row of the page is one that is not left
  obtain ⟨last, hlast⟩ : ∃ last, last ∈ found := by
    rw [page_eq] at hpage
    obtain ⟨rfl, hsome⟩ := Prod.mk.inj hpage
    split at hsome
    · obtain ⟨last, hlast, -⟩ := Option.map_eq_some_iff.mp hsome
      exact ⟨last, List.mem_of_getLast? hlast⟩
    · cases hsome
  obtain ⟨hmem, hbelow⟩ := mem_page hpage last hlast
  simp only [listing, List.length_insertionSort]
  rw [hfilter, List.length_filter_lt_length_iff_exists]
  refine ⟨last, List.mem_filter.mpr ⟨hmem, decide_eq_true hbelow⟩, ?_⟩
  simp [habove last hlast]

/-- A table that stays as it is is read to the end. -/
theorem walk_replicate (h : (rows.map key).Nodup) {n : Nat}
    (hn : (listing lt key rows cursor).length < n) :
    (walk lt key limit cursor (List.replicate n rows)).2 = true := by
  induction n generalizing cursor with
  | zero => omega
  | succ n ih =>
    rw [List.replicate_succ, walk]
    split
    · rfl
    · rename_i found next hpage
      have hless := listing_next_lt h hpage
      exact ih (by omega)

/-- A reader gets to the end once no more rows are added. -/
theorem walk_ends (h : (rows.map key).Nodup) (cursor : Option κ) (tables : List (List α)) :
    ∃ n, (walk lt key limit cursor (tables ++ List.replicate n rows)).2 = true := by
  induction tables generalizing cursor with
  | nil => exact ⟨_, walk_replicate h (Nat.lt_succ_self _)⟩
  | cons first later ih =>
    cases hpage : page lt key limit first cursor with
    | mk found next =>
      cases next with
      | none => exact ⟨0, by simp [walk, hpage]⟩
      | some next =>
        obtain ⟨n, hn⟩ := ih (some next)
        exact ⟨n, by simpa [walk, hpage] using hn⟩

end Paging
