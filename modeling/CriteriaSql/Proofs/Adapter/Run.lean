import CriteriaSql.Adapter
import CriteriaSql.Proofs.Criteria.Acceptance

/-!
Runs of an adapter over an arbitrary service. What is sent is decided by what was asked, and by
the collections in the order in which they were given.
-/

namespace CriteriaSql

/-- The service keeps the statements that it was given, besides its own state. -/
def Executor.recording (executor : Executor σ) : Executor (σ × List String) where
  execute sql state :=
    let (answer, next) := executor.execute sql state.1
    (answer, next, state.2 ++ [sql])

/-- The state to which statements lead that are executed one after another. -/
def Executor.after (executor : Executor σ) (state : σ) (statements : List String) : σ :=
  statements.foldl (fun state sql => (executor.execute sql state).2) state

theorem Executor.after_append (executor : Executor σ) (state : σ) (first rest : List String) :
    executor.after state (first ++ rest) = executor.after (executor.after state first) rest :=
  List.foldl_append

/-- Each statement takes the next answer of the script. What is not in it any more has no rows. -/
def Executor.scripted : Executor (List (Except String (List Row))) where
  execute _ script :=
    match script with
    | [] => (.ok [], [])
    | answer :: rest => (answer.mapError .execution, rest)

/-- With whatever a plain or an aggregate select cannot be written, asking again will not help. -/
theorem Criteria.isUsage_of_select {table : String} {criteria : Criteria} {fault : Fault}
    (h : criteria.select table = .error fault) : fault.isUsage := by
  cases haggregate : criteria.isAggregate with
  | false =>
      rw [select_of_not_isAggregate table haggregate] at h
      split at h
      · cases h
        rfl
      · cases h
  | true =>
      have hfirst := ((select_of_isAggregate table haggregate).error_iff fault).1 h
      split at hfirst
      · cases hfirst
        rfl
      · cases hfirst

namespace Adapter

/-- What can be asked of an adapter. -/
inductive Request where
  | register (collection : Collection)
  | find (identity : String) (criteria : Criteria)
  | query (sql : String)

def perform (executor : Executor σ) (adapter : Adapter σ) : Request → Adapter σ
  | .register collection => (adapter.register collection).value
  | .find identity criteria => (adapter.find executor identity criteria).adapter
  | .query sql => (adapter.query executor sql).adapter

def run (executor : Executor σ) (adapter : Adapter σ) (requests : List Request) : Adapter σ :=
  requests.foldl (perform executor) adapter

/-! What a run comes to, told without a registry: from lists of collections in which an identity
may come again. -/

def firstOf (given : List Collection) (identity : String) : Option Collection :=
  given.find? fun collection => collection.identity == identity

namespace Request

def collection? : Request → Option Collection
  | register collection => some collection
  | find .. | query _ => none

/-- The statement for a request, if it can be compiled and calls for one. -/
def statement? (given : List Collection) : Request → Option String
  | register _ => none
  | find identity criteria => do
      let collection ← firstOf given identity
      let sql ← (criteria.select collection.table).toOption
      return sql.value
  | query sql => some sql

/-- The statements for requests one after another. -/
def statements (given : List Collection) : List Request → List String
  | [] => []
  | request :: rest =>
      (request.statement? given).toList ++ statements (given ++ request.collection?.toList) rest

end Request

variable {executor : Executor σ} {given : List Collection} {adapter : Adapter (σ × List String)}

/-- The service is given the statement, and what it answers comes back: a fault as it is, and rows
without their padding. -/
structure Sends (executor : Executor σ) (adapter : Adapter (σ × List String)) (sql : String)
    (reply : Reply (σ × List String)) : Prop where
  registry : reply.adapter.registry = adapter.registry
  service : reply.adapter.service =
    ((executor.execute sql adapter.service.1).2, adapter.service.2 ++ [sql])
  fault : ∀ fault, (executor.execute sql adapter.service.1).1 = .error fault →
    reply.result = .error fault
  rows : ∀ rows, (executor.execute sql adapter.service.1).1 = .ok rows →
    reply.result = .ok (normalizeRows rows)

/-- The service is left out of it. -/
structure Refuses (adapter : Adapter (σ × List String)) (fault : Fault)
    (reply : Reply (σ × List String)) : Prop where
  result : reply.result = .error fault
  adapter : reply.adapter = adapter

theorem query_sends (executor : Executor σ) (adapter : Adapter (σ × List String)) (sql : String) :
    Sends executor adapter sql (adapter.query executor.recording sql) where
  registry := rfl
  service := rfl
  fault fault h := by
    show (executor.execute sql adapter.service.1).1.map normalizeRows = _
    rw [h]
    rfl
  rows rows h := by
    show (executor.execute sql adapter.service.1).1.map normalizeRows = _
    rw [h]
    rfl

/-- What a find does, with the collections given so far. -/
structure Finds (executor : Executor σ) (given : List Collection)
    (adapter : Adapter (σ × List String)) (identity : String) (criteria : Criteria)
    (reply : Reply (σ × List String)) : Prop where
  unknown : firstOf given identity = none → Refuses adapter (.unknownCollection identity) reply
  unusable : ∀ collection, firstOf given identity = some collection →
    ∀ fault, criteria.select collection.table = .error fault →
      fault.isUsage ∧ Refuses adapter fault reply
  sends : ∀ collection, firstOf given identity = some collection →
    ∀ sql, criteria.select collection.table = .ok sql → Sends executor adapter sql.value reply

/-- The registry has the first collection of each identity. -/
def Knows (given : List Collection) (registry : Registry) : Prop :=
  ∀ identity, registry.find? identity = firstOf given identity

theorem firstOf_append (given others : List Collection) (identity : String) :
    firstOf (given ++ others) identity = (firstOf given identity).or (firstOf others identity) :=
  List.find?_append

theorem Knows.register {registry : Registry} (h : Knows given registry) (collection : Collection) :
    Knows (given ++ [collection]) (registry.register collection) := by
  intro identity
  rw [Registry.find?_register, h identity, firstOf_append]
  rfl

theorem find_finds (executor : Executor σ) (h : Knows given adapter.registry)
    (identity : String) (criteria : Criteria) :
    Finds executor given adapter identity criteria
      (adapter.find executor.recording identity criteria) := by
  -- Of all that the registry holds, only the first collection of this identity is looked at.
  have hcompile : compileFind adapter.registry identity criteria =
      match firstOf given identity with
      | none => .error (.unknownCollection identity)
      | some collection => criteria.select collection.table := by
    rw [compileFind, Registry.get, h identity]
    cases firstOf given identity with
    | none => rfl
    | some collection => rfl
  unfold find
  constructor
  case unknown =>
    intro hfirst
    rw [hcompile, hfirst]
    exact ⟨rfl, rfl⟩
  case unusable =>
    intro collection hfirst fault hfault
    simp only [hcompile, hfirst, hfault]
    exact ⟨Criteria.isUsage_of_select hfault, rfl, rfl⟩
  case sends =>
    intro collection hfirst sql hsql
    simp only [hcompile, hfirst, hsql]
    have hsends := query_sends executor adapter sql.value
    exact ⟨hsends.registry, hsends.service, hsends.fault, hsends.rows⟩

/-- With or without an answer, a find does to the service what its statement does, if it has one. -/
theorem Finds.effect {identity : String} {criteria : Criteria} {reply : Reply (σ × List String)}
    (h : Finds executor given adapter identity criteria reply) :
    let sent := ((Request.find identity criteria).statement? given).toList
    reply.adapter.registry = adapter.registry ∧
      reply.adapter.service =
        (executor.after adapter.service.1 sent, adapter.service.2 ++ sent) := by
  cases hfirst : firstOf given identity with
  | none =>
      have hrefuses := h.unknown hfirst
      simp [Request.statement?, hfirst, hrefuses.adapter, Executor.after]
  | some collection =>
      cases hselect : criteria.select collection.table with
      | error fault =>
          have hrefuses := (h.unusable collection hfirst fault hselect).2
          simp [Request.statement?, hfirst, hselect, Except.toOption, hrefuses.adapter,
            Executor.after]
      | ok sql =>
          have hsends := h.sends collection hfirst sql hselect
          simp [Request.statement?, hfirst, hselect, Except.toOption, hsends.registry,
            hsends.service, Executor.after]

/-- What fails in a find without failing in the service was not sent. -/
theorem Finds.adapter_of_fault {identity : String} {criteria : Criteria}
    {reply : Reply (σ × List String)} {fault : Fault}
    (h : Finds executor given adapter identity criteria reply)
    (hfault : reply.result = .error fault)
    (hservice : ∀ sql state, (executor.execute sql state).1 ≠ .error fault) :
    reply.adapter = adapter := by
  cases hfirst : firstOf given identity with
  | none => exact (h.unknown hfirst).adapter
  | some collection =>
      cases hselect : criteria.select collection.table with
      | error first => exact (h.unusable collection hfirst first hselect).2.adapter
      | ok sql =>
          -- It was sent, so the fault would be one that the service gives.
          have hsends := h.sends collection hfirst sql hselect
          cases hanswer : (executor.execute sql.value adapter.service.1).1 with
          | error other =>
              have hother := hsends.fault other hanswer
              rw [hfault] at hother
              rw [← Except.error.inj hother] at hanswer
              exact absurd hanswer (hservice _ _)
          | ok rows =>
              have hrows := hsends.rows rows hanswer
              rw [hfault] at hrows
              cases hrows

/-- Collections that come later do not matter for an identity that is known. -/
theorem Finds.of_append {identity : String} {criteria : Criteria}
    {reply : Reply (σ × List String)} {others : List Collection}
    (h : Finds executor (given ++ others) adapter identity criteria reply)
    (hknown : firstOf given identity ≠ none) :
    Finds executor given adapter identity criteria reply := by
  have hfirst : firstOf (given ++ others) identity = firstOf given identity := by
    rw [firstOf_append, Option.or_of_isSome (Option.isSome_iff_ne_none.2 hknown)]
  exact ⟨hfirst ▸ h.unknown, hfirst ▸ h.unusable, hfirst ▸ h.sends⟩

/-- How far an adapter has come: the collections it knows, and the statements that its service,
which began in some state, has executed. -/
structure Reached (executor : Executor σ) (start : σ) (given : List Collection) (log : List String)
    (adapter : Adapter (σ × List String)) : Prop where
  knows : Knows given adapter.registry
  service : adapter.service = (executor.after start log, log)

section

variable {start : σ} {log : List String} (h : Reached executor start given log adapter)

include h

theorem Reached.perform (request : Request) :
    Reached executor start (given ++ request.collection?.toList)
      (log ++ (request.statement? given).toList) (perform executor.recording adapter request) := by
  cases request with
  | register collection =>
      refine ⟨h.knows.register collection, ?_⟩
      show adapter.service = (executor.after start (log ++ []), log ++ [])
      rw [h.service, List.append_nil]
  | find identity criteria =>
      -- What is looked up is decided by the collections given so far, and so is what is sent.
      have hfind := (find_finds executor h.knows identity criteria).effect
      constructor
      · show Knows (given ++ [])
          (adapter.find executor.recording identity criteria).adapter.registry
        rw [hfind.1, List.append_nil]
        exact h.knows
      · refine hfind.2.trans ?_
        rw [h.service, Executor.after_append]
  | query sql =>
      have hquery := (query_sends executor adapter sql).service
      constructor
      · show Knows (given ++ []) adapter.registry
        rw [List.append_nil]
        exact h.knows
      · refine hquery.trans ?_
        rw [h.service]
        show _ = (executor.after start (log ++ [sql]), log ++ [sql])
        rw [Executor.after_append]
        rfl

theorem Reached.run (requests : List Request) :
    Reached executor start (given ++ requests.filterMap Request.collection?)
      (log ++ Request.statements given requests) (run executor.recording adapter requests) := by
  induction requests generalizing given log adapter with
  | nil =>
      rw [List.filterMap_nil, Request.statements, List.append_nil, List.append_nil]
      exact h
  | cons request rest ih =>
      have hcollections : (request :: rest).filterMap Request.collection? =
          request.collection?.toList ++ rest.filterMap Request.collection? := by
        cases request <;> rfl
      -- The rest of the run starts with what the first request has added.
      rw [hcollections, Request.statements, ← List.append_assoc, ← List.append_assoc]
      exact ih (h.perform request)

end

/-- Whatever was asked before, all that an adapter has sent and all that it will send are decided
by what was asked. A find goes to the table of the first collection that was ever given for its
identity, also after more collections have been registered. One that fails without a fault of the
service leaves the adapter and the service as they were. -/
theorem run_history (executor : Executor σ) (registry : Registry) (service : σ)
    (requests : List Request) :
    let adapter := run executor.recording ⟨registry, service, []⟩ requests
    let given := registry.collections ++ requests.filterMap Request.collection?
    let sent := Request.statements registry.collections requests
    adapter.service = (executor.after service sent, sent) ∧
    (∀ collection, (adapter.register collection).value.service = adapter.service) ∧
    (∀ sql, Sends executor adapter sql (adapter.query executor.recording sql)) ∧
    ∀ identity criteria,
      Finds executor given adapter identity criteria
        (adapter.find executor.recording identity criteria) ∧
      (∀ fault, (adapter.find executor.recording identity criteria).result = .error fault →
        (∀ sql state, (executor.execute sql state).1 ≠ .error fault) →
        (adapter.find executor.recording identity criteria).adapter = adapter) ∧
      (firstOf given identity ≠ none → ∀ others : List Collection,
        let later := run executor.recording adapter (others.map .register)
        Finds executor given later identity criteria
          (later.find executor.recording identity criteria)) := by
  intro adapter given sent
  have hstart : Reached executor service registry.collections [] ⟨registry, (service, [])⟩ :=
    ⟨fun _ => rfl, rfl⟩
  have hreached : Reached executor service given sent adapter := hstart.run requests
  refine ⟨hreached.service, fun _ => rfl, query_sends executor adapter, fun identity criteria => ?_⟩
  have hfinds := find_finds executor hreached.knows identity criteria
  refine ⟨hfinds, fun fault hfault hservice => ?_, fun hknown others => ?_⟩
  · exact hfinds.adapter_of_fault hfault hservice
  · -- Further registrations come after the first collection of the identity and do not hide it.
    have hlater := (hreached.run (others.map .register)).knows
    exact (find_finds executor hlater identity criteria).of_append hknown

/-- The user is found in the first table although another was given for it, the sale cannot be
grouped without a calculation, and the ghost is not known, grouped or not. -/
theorem run_history_mixed :
    let executor := Executor.scripted.recording
    let ungrouped := { Criteria.empty with groupBy := ["region"] }
    let adapter := run executor
      ⟨.ofList [.withTable (.named "user") "USERS"], [.error "busy", .ok []], []⟩
      [.register (.withTable (.named "user") "OTHERS"), .register (.named "sale"),
        .find "ghost" ungrouped, .find "sale" ungrouped, .query "SELECT 1",
        .find "user" { Criteria.empty with limit := some 2 }]
    adapter.service = ([], ["SELECT 1", "SELECT TOP 2 * FROM USERS "]) ∧
      (adapter.find executor "ghost" ungrouped).result = .error (.unknownCollection "ghost") ∧
      (adapter.find executor "sale" ungrouped).result = .error .groupWithoutCalculation ∧
      (adapter.find executor "sale" ungrouped).adapter = adapter := by
  intro executor ungrouped adapter
  obtain ⟨hservice, -, -, hfind⟩ := run_history Executor.scripted
    (.ofList [.withTable (.named "user") "USERS"]) [.error "busy", .ok []]
    [.register (.withTable (.named "user") "OTHERS"), .register (.named "sale"),
      .find "ghost" ungrouped, .find "sale" ungrouped, .query "SELECT 1",
      .find "user" { Criteria.empty with limit := some 2 }]
  have hsale := ((hfind "sale" ungrouped).1.unusable (.named "sale") rfl
    .groupWithoutCalculation rfl).2.result
  refine ⟨hservice, ((hfind "ghost" ungrouped).1.unknown rfl).result, hsale, ?_⟩
  apply (hfind "sale" ungrouped).2.1 _ hsale
  intro sql script
  cases script with
  | nil => nofun
  | cons answer rest => cases answer <;> nofun

end Adapter

end CriteriaSql
