/-! Results that may be faults, one after another and over lists. -/

namespace CriteriaSql

theorem eq_ok_of_bind {result : Except ε α} {next : α → Except ε β} {value : β}
    (h : result >>= next = .ok value) : ∃ first, result = .ok first ∧ next first = .ok value := by
  cases result with
  | error fault => cases h
  | ok first => exact ⟨first, rfl, h⟩

/-- Functions that agree on an item and its result agree on a list and its results. -/
theorem map_eq_of_mapM {f : α → Except ε β} {g : α → γ} {k : β → γ} {items : List α}
    {results : List β} (hresults : items.mapM f = .ok results)
    (h : ∀ item ∈ items, ∀ result, f item = .ok result → g item = k result) :
    items.map g = results.map k := by
  induction items generalizing results with
  | nil =>
      obtain rfl := Except.ok.inj hresults
      rfl
  | cons item rest ih =>
      rw [List.mapM_cons] at hresults
      obtain ⟨first, hitem, hresults⟩ := eq_ok_of_bind hresults
      obtain ⟨others, hrest, hresults⟩ := eq_ok_of_bind hresults
      obtain rfl := Except.ok.inj hresults
      have hfirst := h item List.mem_cons_self first hitem
      have hothers := ih hrest fun i hi => h i (List.mem_cons_of_mem _ hi)
      rw [List.map_cons, List.map_cons, hfirst, hothers]

/-- A list gives certain results if and only if each of its items gives its own. -/
theorem mapM_eq_ok_map_iff {f : α → Except ε β} {g : α → β} {items : List α} :
    items.mapM f = .ok (items.map g) ↔ ∀ item ∈ items, f item = .ok (g item) := by
  induction items with
  | nil => exact ⟨fun _ => List.forall_mem_nil _, fun _ => rfl⟩
  | cons item rest ih =>
      rw [List.mapM_cons, List.map_cons, List.forall_mem_cons, ← ih]
      constructor
      · intro h
        obtain ⟨first, hfirst, h⟩ := eq_ok_of_bind h
        obtain ⟨others, hothers, h⟩ := eq_ok_of_bind h
        have hparts := List.cons.inj (Except.ok.inj h)
        rw [hfirst, hothers, hparts.1, hparts.2]
        exact ⟨rfl, rfl⟩
      · rintro ⟨hfirst, hrest⟩
        rw [hfirst, hrest]
        rfl

/-- What may fail, and what comes after it if it does not. -/
theorem ite_error_bind {c : Prop} [Decidable c] (fault : ε) (value : α) (next : α → Except ε β) :
    (if c then .error fault else .ok value) >>= next = if c then .error fault else next value := by
  by_cases hc : c
  · rw [if_pos hc, if_pos hc]
    rfl
  · rw [if_neg hc, if_neg hc]
    rfl

/-- Where every item fails with one and the same fault or gives a result, so does the list. -/
theorem mapM_eq_ite {f : α → Except ε β} {fails : α → Bool} {fault : ε} {g : α → β}
    {items : List α}
    (h : ∀ item ∈ items, f item = if fails item then .error fault else .ok (g item)) :
    items.mapM f = if items.any fails then .error fault else .ok (items.map g) := by
  induction items with
  | nil => rfl
  | cons item rest ih =>
      have hrest := ih fun i hi => h i (List.mem_cons_of_mem _ hi)
      rw [List.mapM_cons, h item List.mem_cons_self, ite_error_bind, hrest, ite_error_bind,
        List.any_cons]
      cases fails item with
      | false => rfl
      | true => rfl

end CriteriaSql
