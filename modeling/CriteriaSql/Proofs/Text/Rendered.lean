import CriteriaSql.Proofs.Text.Separated

/-!
Parts that are still to be rendered, by what may fail and keeps a state. Items are rendered in their
order up to the first fault. Without a fault their texts are joined, and nothing else is done to
them.
-/

namespace CriteriaSql.Text

/-- The separator that is taken off is the one that was put there last, whatever the parts end
in. -/
theorem separated_eq_intercalate (separator : String) (parts : List String) :
    separated separator parts = separator.intercalate parts := by
  rw [← String.toList_inj, toList_separated, String.toList_intercalate]

theorem separated_append (separator : String) {parts more : List String} (hparts : parts ≠ [])
    (hmore : more ≠ []) :
    separated separator (parts ++ more) =
      separated separator parts ++ separator ++ separated separator more := by
  rw [separated_eq_intercalate, separated_eq_intercalate, separated_eq_intercalate]
  exact String.intercalate_append_of_ne_nil hparts hmore

section

variable {m : Type → Type u} [Monad m] [LawfulMonad m] {α : Type} (separator : String)
  (render : α → m String)

theorem separatedM_append {items more : List α} (hitems : items ≠ []) (hmore : more ≠ []) :
    separatedM separator render (items ++ more) = do
      let first ← separatedM separator render items
      let second ← separatedM separator render more
      return first ++ separator ++ second := by
  -- Neither list of texts is empty, which shows only when the first item of each is split off.
  obtain ⟨item, rest, rfl⟩ := List.exists_cons_of_ne_nil hitems
  obtain ⟨next, others, rfl⟩ := List.exists_cons_of_ne_nil hmore
  have hjoin : ∀ text texts nextText otherTexts,
      separated separator (text :: texts ++ nextText :: otherTexts) =
        separated separator (text :: texts) ++ separator ++
          separated separator (nextText :: otherTexts) :=
    fun _ _ _ _ => separated_append separator (List.cons_ne_nil _ _) (List.cons_ne_nil _ _)
  unfold separatedM
  rw [List.mapM_append, List.mapM_cons, List.mapM_cons]
  simp only [bind_assoc, pure_bind, hjoin]

/-- A renderer that only makes texts makes them first and joins them then. -/
theorem separatedM_pure (text : α → String) (items : List α) :
    separatedM separator (fun item => (pure (text item) : m String)) items =
      pure (separated separator (items.map text)) := by
  unfold separatedM
  rw [List.mapM_pure, pure_bind]

end

variable {ε σ α : Type}

/-- A renderer that cannot fail does the same where it might. -/
theorem separatedM_lift (separator : String) (render : α → StateM σ String) (items : List α) :
    separatedM separator (fun item => (ExceptT.lift (render item) : ExceptT ε (StateM σ) String))
        items =
      ExceptT.lift (separatedM separator render items) := by
  have hmapM :
      items.mapM (fun item => (ExceptT.lift (render item) : ExceptT ε (StateM σ) String)) =
        ExceptT.lift (items.mapM render) := by
    induction items with
    | nil => rfl
    | cons item rest ih =>
        rw [List.mapM_cons, ih, List.mapM_cons]
        rfl
  unfold separatedM
  rw [hmapM]
  rfl

/-- From a state to another one, items are rendered one after another, and every one to a text. -/
inductive Renders (render : α → ExceptT ε (StateM σ) String) :
    σ → List α → List String → σ → Prop
  | nil (state : σ) : Renders render state [] [] state
  | cons {state next last : σ} {item : α} {rest : List α} {text : String} {texts : List String}
      (hitem : (render item).run.run state = (.ok text, next))
      (hrest : Renders render next rest texts last) :
      Renders render state (item :: rest) (text :: texts) last

/-- From a state to another one, items are rendered up to the first that has a fault. Those after it
are not looked at. -/
inductive BreaksOff (render : α → ExceptT ε (StateM σ) String) :
    σ → List α → List α → ε → σ → Prop
  | fault {start state last : σ} {before : List α} {texts : List String} {item : α} {fault : ε}
      (hbefore : Renders render start before texts state)
      (hitem : (render item).run.run state = (.error fault, last)) (after : List α) :
      BreaksOff render start (before ++ item :: after) (before ++ [item]) fault last

section

variable {render : α → ExceptT ε (StateM σ) String} {start next last : σ} {item : α}
  {items called : List α} {text : String} {texts : List String} {fault : ε}

theorem run_mapM_cons (hitem : (render item).run.run start = (.ok text, next)) (rest : List α) :
    ((item :: rest).mapM render).run.run start =
      let (result, last) := (rest.mapM render).run.run next
      (result.map (text :: ·), last) := by
  rw [List.mapM_cons, ExceptT.run_bind, StateT.run_bind, hitem]
  show (ExceptT.run (do let texts ← rest.mapM render; pure (text :: texts))).run next = _
  rw [ExceptT.run_bind, StateT.run_bind]
  rcases hrest : (rest.mapM render).run.run next with ⟨result | texts, last⟩
  · rfl
  · rfl

theorem run_mapM_fault (hitem : (render item).run.run start = (.error fault, last))
    (rest : List α) : ((item :: rest).mapM render).run.run start = (.error fault, last) := by
  rw [List.mapM_cons, ExceptT.run_bind, StateT.run_bind, hitem]
  rfl

theorem Renders.run_mapM (h : Renders render start items texts last) :
    (items.mapM render).run.run start = (.ok texts, last) := by
  induction h with
  | nil state => rfl
  | cons hitem _ ih => rw [run_mapM_cons hitem, ih]; rfl

theorem BreaksOff.run_mapM (h : BreaksOff render start items called fault last) :
    (items.mapM render).run.run start = (.error fault, last) := by
  obtain ⟨hbefore, hitem, after⟩ := h
  induction hbefore with
  | nil state => exact run_mapM_fault hitem after
  | cons hfirst _ ih => rw [List.cons_append, run_mapM_cons hfirst, ih hitem]; rfl

/-- There is no third way for a list to end. -/
theorem renders_or_breaksOff (render : α → ExceptT ε (StateM σ) String) (items : List α)
    (start : σ) :
    (∃ texts last, Renders render start items texts last) ∨
      ∃ called fault last, BreaksOff render start items called fault last := by
  induction items generalizing start with
  | nil => exact .inl ⟨[], start, .nil start⟩
  | cons item rest ih =>
      rcases hitem : (render item).run.run start with ⟨fault | text, next⟩
      · exact .inr ⟨[item], fault, next, .fault (.nil start) hitem rest⟩
      · rcases ih next with ⟨texts, last, hrest⟩ | ⟨_, fault, last, ⟨hbefore, hfault, after⟩⟩
        · exact .inl ⟨text :: texts, last, .cons hitem hrest⟩
        · exact .inr ⟨_, fault, last, .fault (.cons hitem hbefore) hfault after⟩

end

/-- The renderer keeps the items that it was called on, besides its own state. -/
def recording (render : α → ExceptT ε (StateM σ) String) (item : α) :
    ExceptT ε (StateM (σ × List α)) String :=
  .mk fun state =>
    let (result, next) := (render item).run.run state.1
    (result, next, state.2 ++ [item])

/-- What comes of the items, the state that is left, and the items that were rendered. -/
def outcome (separator : String) (render : α → ExceptT ε (StateM σ) String) (items : List α)
    (start : σ) : Except ε String × σ × List α :=
  (separatedM separator (recording render) items).run.run (start, [])

section

variable {render : α → ExceptT ε (StateM σ) String} {start last : σ} {items called : List α}
  {texts : List String} {fault : ε}

theorem run_recording {item : α} {result : Except ε String}
    (hitem : (render item).run.run start = (result, last)) (earlier : List α) :
    (recording render item).run.run (start, earlier) = (result, last, earlier ++ [item]) := by
  show (((render item).run.run start).1, ((render item).run.run start).2, _) = _
  rw [hitem]

theorem Renders.recording (h : Renders render start items texts last) (earlier : List α) :
    Renders (recording render) (start, earlier) items texts (last, earlier ++ items) := by
  induction h generalizing earlier with
  | nil state => rw [List.append_nil]; exact .nil _
  | @cons state next last item rest text texts hitem _ ih =>
      rw [List.append_cons]
      exact .cons (run_recording hitem earlier) (ih (earlier ++ [item]))

theorem BreaksOff.recording (h : BreaksOff render start items called fault last) :
    BreaksOff (recording render) (start, []) items called fault (last, called) := by
  obtain ⟨hbefore, hitem, after⟩ := h
  exact .fault (hbefore.recording []) (run_recording hitem _) after

end

theorem run_separatedM (separator : String) (render : α → ExceptT ε (StateM σ) String)
    (items : List α) (start : σ) :
    (separatedM separator render items).run.run start =
      let (result, last) := (items.mapM render).run.run start
      (result.map separator.intercalate, last) := by
  unfold separatedM
  rw [ExceptT.run_bind, StateT.run_bind]
  rcases (items.mapM render).run.run start with ⟨fault | texts, last⟩
  · rfl
  · rw [funext (separated_eq_intercalate separator)]
    rfl

/-- Items are rendered in their order, each one once, and none after the first that has a fault,
which is then the fault of all. Otherwise the texts are joined as they are, with the separator
between them and nowhere else. What cannot fail gives the same with or without the possibility, and
of two lists the joined texts are joined in the same way. -/
theorem rendered_in_order (separator : String) (render : α → ExceptT ε (StateM σ) String)
    (items : List α) (start : σ) :
    (∀ texts last, Renders render start items texts last →
      outcome separator render items start = (.ok (separator.intercalate texts), last, items)) ∧
    (∀ called fault last, BreaksOff render start items called fault last →
      outcome separator render items start = (.error fault, last, called)) ∧
    ((∃ texts last, Renders render start items texts last) ∨
      ∃ called fault last, BreaksOff render start items called fault last) ∧
    (separatedM separator render items).run.run start =
      ((outcome separator render items start).1, (outcome separator render items start).2.1) ∧
    (∀ steady : α → StateM σ String,
      separatedM separator (fun item => (ExceptT.lift (steady item) : ExceptT ε (StateM σ) String))
          items =
        ExceptT.lift (separatedM separator steady items)) ∧
    (∀ text : α → String,
      separatedM separator (fun item => (pure (text item) : StateM σ String)) items =
        pure (separated separator (items.map text))) ∧
    ∀ more, items ≠ [] → more ≠ [] →
      separatedM separator render (items ++ more) = do
        let first ← separatedM separator render items
        let second ← separatedM separator render more
        return first ++ separator ++ second := by
  have hrenders : ∀ texts last, Renders render start items texts last →
      outcome separator render items start =
        (.ok (separator.intercalate texts), last, items) := by
    intro texts last h
    rw [outcome, run_separatedM, (h.recording []).run_mapM]
    rfl
  have hbreaks : ∀ called fault last, BreaksOff render start items called fault last →
      outcome separator render items start = (.error fault, last, called) := by
    intro called fault last h
    rw [outcome, run_separatedM, h.recording.run_mapM]
    rfl
  have hends := renders_or_breaksOff render items start
  refine ⟨hrenders, hbreaks, hends, ?_, fun steady => separatedM_lift separator steady items,
    fun text => separatedM_pure separator text items,
    fun more => separatedM_append separator render⟩
  rw [run_separatedM]
  rcases hends with ⟨texts, last, h⟩ | ⟨called, fault, last, h⟩
  · rw [h.run_mapM, hrenders texts last h]
    rfl
  · rw [h.run_mapM, hbreaks called fault last h]
    rfl

/-- Items may end in the separator. An empty one is refused, and the call is counted like any
other. -/
theorem rendered_in_order_counted :
    let render : String → ExceptT String (StateM Nat) String := fun item => do
      modify (· + 1)
      if item = "" then throw "empty" else return item
    outcome ", " render ["a, ", "b, "] 0 = (.ok "a, , b, ", 2, ["a, ", "b, "]) ∧
      outcome ", " render ["a", "", "b"] 0 = (.error "empty", 2, ["a", ""]) ∧
      separatedM ", " render (["a, "] ++ ["b, "]) = do
        let first ← separatedM ", " render ["a, "]
        let second ← separatedM ", " render ["b, "]
        return first ++ ", " ++ second := by
  intro render
  have hall := rendered_in_order ", " render ["a, ", "b, "] 0
  have hsome := rendered_in_order ", " render ["a", "", "b"] 0
  have happend := rendered_in_order ", " render ["a, "] 0
  have hbreaks : BreaksOff render 0 (["a"] ++ "" :: ["b"]) (["a"] ++ [""]) "empty" 2 :=
    .fault (.cons (by rfl) (.nil 1)) (by rfl) ["b"]
  refine ⟨?_, ?_, happend.2.2.2.2.2.2 ["b, "] (by simp) (by simp)⟩
  · exact hall.1 ["a, ", "b, "] 2 (.cons rfl (.cons rfl (.nil 2)))
  · exact hsome.2.1 ["a", ""] "empty" 2 hbreaks

end CriteriaSql.Text
