import CriteriaSql.Fault

/-! Results of checks made one after another: the first fault is the one that is reported. -/

namespace CriteriaSql

/-- Of the faults that there are, in the order in which they are looked for, the result is the
first, and without a fault it is a value. -/
def Reports (faults : List Fault) : Except Fault α → Prop
  | .ok _ => faults = []
  | .error fault => faults.head? = some fault

namespace Reports

variable {faults others : List Fault} {result : Except Fault α}

theorem ok (value : α) : Reports [] (.ok value : Except Fault α) := rfl

theorem error (fault : Fault) : Reports [fault] (.error fault : Except Fault α) := rfl

theorem ok_iff (h : Reports faults result) : (∃ value, result = .ok value) ↔ faults = [] := by
  cases result with
  | ok value => exact ⟨fun _ => h, fun _ => ⟨value, rfl⟩⟩
  | error fault =>
      constructor
      · rintro ⟨value, hvalue⟩
        cases hvalue
      · rintro rfl
        cases h

theorem error_iff (h : Reports faults result) (fault : Fault) :
    result = .error fault ↔ faults.head? = some fault := by
  cases result with
  | ok value =>
      rw [show faults = [] from h]
      constructor <;> intro hfault <;> cases hfault
  | error first =>
      rw [show faults.head? = some first from h, Except.error.injEq, Option.some.injEq]

/-- What is checked next counts only if nothing is wrong so far. -/
theorem bind {next : α → Except Fault β} (h : Reports faults result)
    (hnext : ∀ value, result = .ok value → Reports others (next value)) :
    Reports (faults ++ others) (result >>= next) := by
  cases result with
  | ok value =>
      rw [show faults = [] from h, List.nil_append]
      exact hnext value rfl
  | error fault =>
      show (faults ++ others).head? = some fault
      rw [List.head?_append, show faults.head? = some fault from h]
      rfl

theorem map (f : α → β) (h : Reports faults result) :
    Reports faults (result >>= fun a => .ok (f a)) := by
  have hbind := h.bind fun value _ => ok (f value)
  rwa [List.append_nil] at hbind

/-- A list of checks reports the first fault of the first item that has one. -/
theorem mapM {items : List α} {check : α → Except Fault β} {faultsOf : α → List Fault}
    (h : ∀ item ∈ items, Reports (faultsOf item) (check item)) :
    Reports (items.flatMap faultsOf) (items.mapM check) := by
  induction items with
  | nil => exact ok []
  | cons item rest ih =>
      have hrest := ih fun i hi => h i (List.mem_cons_of_mem _ hi)
      rw [List.mapM_cons, List.flatMap_cons]
      exact (h item List.mem_cons_self).bind fun value _ => hrest.map (value :: ·)

end Reports

end CriteriaSql
