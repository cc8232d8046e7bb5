import CriteriaSql.Schema.Describe
import CriteriaSql.Schema.Registry
import CriteriaSql.Statement.Basic

/-!
Read-only access to collections: requests are compiled, sent to an execution service, and answered
with trimmed rows.
-/

namespace CriteriaSql

/-- Runs a finished statement in a state of its own. -/
structure Executor (σ : Type u) where
  execute : String → σ → Except Fault (List Row) × σ

structure Adapter (σ : Type u) where
  registry : Registry
  service : σ

namespace Adapter

/-- What one request led to: its result, the statements that were sent, and what was reported. -/
structure Reply (σ : Type u) where
  result : Except Fault (List Row)
  adapter : Adapter σ
  statements : List String
  events : List Event

def register (adapter : Adapter σ) (collection : Collection) : Logged (Adapter σ) where
  value := { adapter with registry := adapter.registry.register collection }
  events := [.registering collection.identity collection.table collection.primaryKey]

/-- Sends a statement as it is. -/
def query (executor : Executor σ) (adapter : Adapter σ) (sql : String) : Reply σ :=
  let (answer, service) := executor.execute sql adapter.service
  { result := answer.map normalizeRows
    adapter := { adapter with service }
    statements := [sql]
    events := [.executing sql] }

def compileFind (registry : Registry) (identity : String) (criteria : Criteria) :
    Except Fault (Logged String) := do
  criteria.select (← registry.get identity).table

/-- What cannot be compiled is answered without a word to the service. -/
def find (executor : Executor σ) (adapter : Adapter σ) (identity : String)
    (criteria : Criteria) : Reply σ :=
  match compileFind adapter.registry identity criteria with
  | .error fault => { result := .error fault, adapter, statements := [], events := [] }
  | .ok compiled =>
      let reply := query executor adapter compiled.value
      { reply with events := compiled.events ++ reply.events }

end Adapter

end CriteriaSql
