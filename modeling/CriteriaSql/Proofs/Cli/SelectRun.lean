import CriteriaSql.Cli.Run
import CriteriaSql.Proofs.Adapter.Run
import CriteriaSql.Proofs.Config.Identities

/-!
The select command against an adapter with the same collections. What the one prints is what the
other sends, but an identity that is not registered is a table to the one and unknown to the other.
-/

namespace CriteriaSql.Cli

open Adapter (Sends Refuses)

/-- What the program makes of its arguments. They name the configuration, and everything else is
found around it. -/
def answer (environment : Option String) (surroundings : Option String → Surroundings)
    (args : List String) : Output :=
  match Invocation.ofArguments environment args with
  | .error refusal => refusal.output
  | .ok invocation => invocation.run (surroundings invocation.config)

/-- The criteria that a text says, if it is a JSON text and says any. -/
def criteriaOf? (text : String) : Option Criteria := do
  (Criteria.ofJson (← Json.ofText? text)).toOption

/-- The run that selects from a collection by the criteria in its input. -/
def selecting (config : Option String) (identity : String) : Invocation where
  config
  verbose := false
  command := .select identity "-"

/-! Which arguments select from a collection. -/

section

variable (environment : Option String) {identity : String}

theorem Argument.ofText_eq_plain (h : identity = "-" ∨ identity.toList.head? ≠ some '-') :
    Argument.ofText identity = .plain identity := by
  rcases h with rfl | hhead
  · rfl
  · unfold ofText
    split <;> rename_i heq
    · exact absurd (by rw [heq]; rfl) hhead
    · exact absurd (by rw [heq]; rfl) hhead
    · exact absurd (by rw [heq]; rfl) hhead
    · rfl

/-- What begins with a hyphen and goes on may be taken for an option. -/
theorem ofArguments_select (h : identity = "-" ∨ identity.toList.head? ≠ some '-') :
    Invocation.ofArguments environment ["select", identity, "-"] =
      .ok (selecting environment identity) := by
  have hidentity := Argument.ofText_eq_plain h
  have hselect : readSide .top (.done .none) ["select", identity, "-"] =
      .ok ⟨.none, ["select"], [identity, "-"]⟩ := rfl
  have hplain : readSide (.within "select" 2) (.done .none) [identity, "-"] =
      .ok ⟨.none, [identity, "-"], []⟩ := by
    rw [readSide, hidentity]
    rfl
  unfold Invocation.ofArguments
  rw [hselect]
  show (readSide (.within "select" 2) (.done .none) [identity, "-"] >>= _) = _
  rw [hplain]
  rfl

/-- Behind two hyphens every text is an identity. -/
theorem ofArguments_select_after :
    Invocation.ofArguments environment ["select", "--", identity, "-"] =
      .ok (selecting environment identity) :=
  rfl

end

/-! What the program puts out, against what an adapter does when it is asked to find the same. -/

structure Agrees (executor : Executor σ) (adapter : Adapter (σ × List String))
    (identity input : String) (output : Output) : Prop where
  /-- What is printed is what is sent. -/
  compiled : ∀ collection criteria sql, adapter.registry.get identity = .ok collection →
    criteriaOf? input = some criteria → criteria.select collection.table = .ok sql →
    output.exitCode = 0 ∧ output.stdout = sql.value ++ "\n" ∧
      Sends executor adapter sql.value (adapter.find executor.recording identity criteria)
  /-- Without criteria that can be written there is nothing to print and nothing to send. -/
  failed : (∀ criteria, criteriaOf? input = some criteria →
      ∃ fault, criteria.select (adapter.registry.tableFor identity) = .error fault) →
    output.exitCode = 1 ∧ output.stdout = "" ∧
      ∀ criteria, criteriaOf? input = some criteria →
        (adapter.find executor.recording identity criteria).adapter = adapter
  /-- Nothing is sent for an identity without a collection, whatever is printed. -/
  unregistered : ∀ fault, adapter.registry.get identity = .error fault →
    (∀ criteria sql, criteriaOf? input = some criteria → criteria.select identity = .ok sql →
      output.exitCode = 0 ∧ output.stdout = sql.value ++ "\n") ∧
    ∀ criteria, Refuses adapter (.unknownCollection identity)
      (adapter.find executor.recording identity criteria)

section

variable {registry : Registry} {identity input : String} {criteria : Criteria}

theorem criteriaOf?_eq_some_iff :
    criteriaOf? input = some criteria ↔
      ∃ json, Json.ofText? input = some json ∧ Criteria.ofJson json = .ok criteria := by
  have hsome : ∀ json, (Criteria.ofJson json).toOption = some criteria ↔
      Criteria.ofJson json = .ok criteria := by
    intro json
    cases Criteria.ofJson json <;> simp [Except.toOption]
  unfold criteriaOf?
  show (Json.ofText? input).bind _ = _ ↔ _
  simp only [Option.bind_eq_some_iff, hsome]

theorem sql_select_of_some {sql : Logged String} (hcriteria : criteriaOf? input = some criteria)
    (hsql : criteria.select (registry.tableFor identity) = .ok sql) :
    Command.sql registry input (.select identity "-") = .ok sql := by
  obtain ⟨json, hjson, hread⟩ := criteriaOf?_eq_some_iff.1 hcriteria
  have hinput : readJson input "-" = .ok json := by
    rw [readJson, if_pos rfl, hjson]
  have hselect : selectOfJson (registry.tableFor identity) json = .ok sql := by
    rw [selectOfJson, hread]
    exact hsql
  rw [Command.sql, hinput]
  show (selectOfJson (registry.tableFor identity) json).mapError _ = _
  rw [hselect]
  rfl

/-- A text that is no JSON text, a value that says no criteria and criteria that cannot be written
all end the command. -/
theorem exists_sql_select_error (h : ∀ criteria, criteriaOf? input = some criteria →
      ∃ fault, criteria.select (registry.tableFor identity) = .error fault) :
    ∃ failure, Command.sql registry input (.select identity "-") = .error failure := by
  rw [Command.sql, readJson, if_pos rfl]
  cases hjson : Json.ofText? input with
  | none => exact ⟨.jsonArgument, rfl⟩
  | some json =>
      show ∃ failure, (selectOfJson (registry.tableFor identity) json).mapError _ = .error failure
      rw [selectOfJson]
      cases hread : Criteria.ofJson json with
      | error fault => exact ⟨.compilation fault, rfl⟩
      | ok criteria =>
          obtain ⟨fault, hfault⟩ := h criteria (criteriaOf?_eq_some_iff.2 ⟨json, hjson, hread⟩)
          show ∃ failure, (criteria.select (registry.tableFor identity)).mapError _ = .error failure
          rw [hfault]
          exact ⟨.compilation fault, rfl⟩

end

section

variable {surroundings : Surroundings} {config : Config}
  (hconfig : loadConfig surroundings = .ok config) (path : Option String) {identity : String}

include hconfig

theorem run_selecting_ok {sql : Logged String}
    (h : Command.sql config.registry surroundings.input (.select identity "-") = .ok sql) :
    ((selecting path identity).run surroundings).exitCode = 0 ∧
      ((selecting path identity).run surroundings).stdout = sql.value ++ "\n" := by
  have hrun : (selecting path identity).run surroundings =
      ⟨0, "" ++ sql.value ++ "\n", "", sql.events⟩ := by
    simp only [Invocation.run, hconfig, selecting, h]
    rfl
  rw [hrun]
  exact ⟨rfl, by simp⟩

theorem run_selecting_error {failure : Failure}
    (h : Command.sql config.registry surroundings.input (.select identity "-") = .error failure) :
    ((selecting path identity).run surroundings).exitCode = 1 ∧
      ((selecting path identity).run surroundings).stdout = "" := by
  simp only [Invocation.run, hconfig, selecting, h]
  exact ⟨rfl, rfl⟩

/-- The table of the command is the one of the first collection with the identity, as it is for the
adapter. Without such a collection they part. -/
theorem agrees_selecting (executor : Executor σ) (service : σ × List String) :
    Agrees executor ⟨config.registry, service⟩ identity surroundings.input
      ((selecting path identity).run surroundings) := by
  have hknows : Adapter.Knows config.registry.collections
      (Adapter.mk config.registry service).registry := fun _ => rfl
  have hfinds := Adapter.find_finds executor hknows identity
  constructor
  case compiled =>
    intro collection criteria sql hget hcriteria hsql
    have hfirst := Registry.get_eq_ok_iff.1 hget
    have htable : config.registry.tableFor identity = collection.table := by
      rw [Registry.tableFor, hfirst]
    have hprinted := run_selecting_ok hconfig path
      (sql_select_of_some hcriteria (htable ▸ hsql))
    exact ⟨hprinted.1, hprinted.2, (hfinds criteria).sends collection hfirst sql hsql⟩
  case failed =>
    intro hfaults
    obtain ⟨failure, hfailure⟩ := exists_sql_select_error hfaults
    have hprinted := run_selecting_error hconfig path hfailure
    refine ⟨hprinted.1, hprinted.2, fun criteria hcriteria => ?_⟩
    obtain ⟨fault, hfault⟩ := hfaults criteria hcriteria
    cases hfirst : config.registry.find? identity with
    | none => exact ((hfinds criteria).unknown hfirst).adapter
    | some collection =>
        have htable : config.registry.tableFor identity = collection.table := by
          rw [Registry.tableFor, hfirst]
        rw [htable] at hfault
        exact ((hfinds criteria).unusable collection hfirst fault hfault).2.adapter
  case unregistered =>
    intro fault hget
    have hfirst := (Registry.get_eq_error_iff.1 hget).2
    have htable : config.registry.tableFor identity = identity := by
      rw [Registry.tableFor, hfirst]
    refine ⟨fun criteria sql hcriteria hsql => ?_, fun criteria => (hfinds criteria).unknown hfirst⟩
    rw [← htable] at hsql
    exact run_selecting_ok hconfig path (sql_select_of_some hcriteria hsql)

end

/-- Every identity can be handed to the command, if need be behind two hyphens. However it was
handed over, the command prints the statement that an adapter with the same collections sends, and
fails where the adapter has nothing to send. Only for an identity that is not registered does it go
on, with the identity for a table. -/
theorem select_prints_sent (executor : Executor σ) (environment : Option String)
    (identity : String) :
    Invocation.ofArguments environment ["select", "--", identity, "-"] =
      .ok (selecting environment identity) ∧
    (identity = "-" ∨ identity.toList.head? ≠ some '-' →
      Invocation.ofArguments environment ["select", identity, "-"] =
        .ok (selecting environment identity)) ∧
    ∀ surroundings args path config,
      Invocation.ofArguments environment args = .ok (selecting path identity) →
      loadConfig (surroundings path) = .ok config →
      ∀ service : σ × List String,
        Agrees executor ⟨config.registry, service⟩ identity (surroundings path).input
          (answer environment surroundings args) := by
  refine ⟨ofArguments_select_after environment, ofArguments_select environment, ?_⟩
  intro surroundings args path config hargs hconfig service
  rw [answer, hargs]
  exact agrees_selecting hconfig path executor service

/-- The collection under the key `client` has the identity `user`, so that `client` has none. The
last run has a hyphen for its identity, and for its criteria what is no JSON text. -/
theorem select_prints_sent_renamed :
    let surroundings : Option String → Surroundings := fun _ =>
      { configFile := .ok (some
          "[collections.client]\nidentity = \"user\"\ntable_name = \"USERS\"\n")
        connection := none
        input := " \x7b \"limit\" : 2 \x7d " }
    let criteria := { Criteria.empty with limit := some 2 }
    ∃ config, loadConfig (surroundings none) = .ok config ∧
      let adapter : Adapter (List (Except String (List Row)) × List String) :=
        ⟨config.registry, [], []⟩
      (answer none surroundings ["select", "user", "-"]).stdout = "SELECT TOP 2 * FROM USERS \n" ∧
      (adapter.find Executor.scripted.recording "user" criteria).adapter.service.2 =
        ["SELECT TOP 2 * FROM USERS "] ∧
      (answer none surroundings ["select", "--", "client", "-"]).stdout =
        "SELECT TOP 2 * FROM client \n" ∧
      (adapter.find Executor.scripted.recording "client" criteria).result =
        .error (.unknownCollection "client") ∧
      (answer none (fun _ => { surroundings none with input := "user" })
        ["select", "-", "-"]).exitCode = 1 := by
  intro surroundings criteria
  have htoml : Toml.ofText?
      "[collections.client]\nidentity = \"user\"\ntable_name = \"USERS\"\n" =
      some (.table [("collections", .table [("client",
        .table [("identity", .string "user"), ("table_name", .string "USERS")])])]) := by
    rw [Toml.ofText?, String.toList_ofList]
    rfl
  have hjson : Json.ofText? " \x7b \"limit\" : 2 \x7d " =
      some (.object [("limit", .number (.integer 2))]) := by
    rw [Json.ofText?, String.toList_ofList]
    rfl
  have hcriteria : criteriaOf? " \x7b \"limit\" : 2 \x7d " = some criteria :=
    criteriaOf?_eq_some_iff.2 ⟨_, hjson, rfl⟩
  have hother : criteriaOf? "user" = none := by
    rw [criteriaOf?, Json.ofText?, String.toList_ofList]
    rfl
  let config : Config :=
    { connection := ⟨none⟩
      collections := ⟨[("client", ⟨"user", some "USERS", .empty⟩)], by simp⟩ }
  have hconfig : loadConfig (surroundings none) = .ok config := by
    simp only [loadConfig, surroundings, Config.ofToml, htoml]
    rfl
  obtain ⟨-, hargs, hruns⟩ := select_prints_sent Executor.scripted none "user"
  have huser := hruns surroundings ["select", "user", "-"] none config (hargs (.inr (by decide)))
    hconfig ([], [])
  obtain ⟨hargs, -, hruns⟩ := select_prints_sent Executor.scripted none "client"
  have hclient := hruns surroundings ["select", "--", "client", "-"] none config hargs hconfig
    ([], [])
  obtain ⟨-, hargs, hruns⟩ := select_prints_sent Executor.scripted none "-"
  have hhyphen := hruns (fun _ => { surroundings none with input := "user" })
    ["select", "-", "-"] none config (hargs (.inl rfl)) hconfig ([], [])
  obtain ⟨-, hprinted, hsends⟩ := huser.compiled _ criteria _ rfl hcriteria rfl
  obtain ⟨hcompiled, hrefuses⟩ := hclient.unregistered _ rfl
  refine ⟨config, hconfig, hprinted, congrArg Prod.snd hsends.service,
    (hcompiled criteria _ hcriteria rfl).2, (hrefuses criteria).result, ?_⟩
  exact (hhyphen.failed fun criteria h => by rw [hother] at h; cases h).1

end CriteriaSql.Cli
