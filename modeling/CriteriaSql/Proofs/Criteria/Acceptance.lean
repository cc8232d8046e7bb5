import CriteriaSql.Proofs.Criteria.Language
import CriteriaSql.Proofs.Sql.SelectRendering
import Mathlib.Algebra.Group.Nat.Defs

/-! The criteria for which there is a select, and the fault that is reported for the others. -/

namespace CriteriaSql

/-! Regular expressions in like maps. -/

/-- The one object that is written for a regular expression. -/
def Json.isRegex : Json → Bool
  | .object [("$regex", .string _)] => true
  | _ => false

def jsonRegexAlgebra : Json.Algebra Bool Bool where
  members found := found.any id
  noMap := false
  any found := found.any id
  all found := found.any id
  isIn _ _ := false
  single key value :=
    Text.lower key == "like" && (value.members?.getD []).any fun entry => entry.2.isRegex

/-- A like map, in the map or below it, holds a regular expression. -/
def Json.hasRegex (json : Json) : Bool :=
  json.foldMap jsonRegexAlgebra

theorem isRegex_ofWrapper (key text : String) (value : Json) :
    ((Literal.ofWrapper? key text).getD (.json value)).isRegex =
      (Json.object [(key, .string text)]).isRegex := by
  unfold Literal.ofWrapper?
  split
  · cases Rfc3339.parse? text <;> rfl
  · rfl
  · rename_i hregex
    unfold Json.isRegex
    split
    · rename_i heq
      cases heq
      exact absurd rfl hregex
    · rfl

theorem isRegex_ofJson (json : Json) : (Literal.ofJson json).isRegex = json.isRegex := by
  unfold Literal.ofJson
  split
  · rfl
  · rfl
  · rename_i number
    unfold Literal.ofNumber
    split
    · split <;> rfl
    · rfl
  · rfl
  · rfl
  · exact isRegex_ofWrapper ..
  · rename_i members hmembers
    unfold Json.isRegex
    split
    · rename_i text heq
      exact absurd (Json.object.inj heq) (hmembers "$regex" text)
    · rfl

theorem jsonRegexAlgebra_reads : jsonRegexAlgebra.Reads regexAlgebra where
  members _ := rfl
  any _ := rfl
  all _ := rfl
  isIn _ _ := rfl
  single := by
    intro key value clause hread
    rcases Clause.ofMember_cases hread with ⟨hkey, entries, rfl, rfl⟩ | ⟨hkey, condition, _, rfl⟩
    · rw [Clause.fold_like]
      show (Text.lower key == "like" && entries.any _) = List.any _ _
      rw [hkey, List.any_map]
      simp [isRegex_ofJson, Function.comp_def]
    · rw [Clause.fold_column]
      show (Text.lower key == "like" && _) = false
      have hlike := Keyword.ne_like_of_notMem hkey
      simp [hlike]

theorem hasRegex_ofJson {json : Json} {predicate : Predicate}
    (h : Predicate.ofJson json = .ok predicate) : json.hasRegex = predicate.hasRegex :=
  jsonRegexAlgebra_reads.foldMap_eq json predicate h

/-! The members of criteria, apart from the filter. -/

namespace Criteria

/-- The keys of columns to calculate from. -/
def calculationKeys : List String :=
  ["sum", "average", "min", "max"]

def columnKeys : List String :=
  "groupBy" :: calculationKeys

/-- The columns given under a key, without what is no text. -/
def columnNames (members : List (String × Json)) (key : String) : List String :=
  match members.lookup key with
  | some (.string column) => if column = "" then [] else [column]
  | some (.array columns) => columns.filterMap Json.string?
  | _ => []

/-- What is wrong with what is written under a key. Null is as good as nothing. -/
def presentFaults (members : List (String × Json)) (key : String) (faults : Json → List Fault) :
    List Fault :=
  match members.lookup key with
  | none | some .null => []
  | some value => faults value

def filterFaults (members : List (String × Json)) : List Fault :=
  presentFaults members "where" Json.mapFaults

def sortFaults (members : List (String × Json)) : List Fault :=
  presentFaults members "sort" fun sort =>
    if sort.members?.isSome then [] else [.malformed .sortNotObject]

def columnListFaults (key : String) : Json → List Fault
  | .string _ => []
  | .array columns => columns.flatMap fun column =>
      if column.string?.isSome then [] else [.malformed (.columnNotText key)]
  | _ => [.malformed (.columnsNotList key)]

def columnFaults (members : List (String × Json)) (key : String) : List Fault :=
  presentFaults members key (columnListFaults key)

def isLimit : Json → Bool
  | .number (.integer n) => 0 ≤ n && n ≤ greatestWord64
  | _ => false

def limitFaults (members : List (String × Json)) : List Fault :=
  presentFaults members "limit" fun limit =>
    if isLimit limit then [] else [.malformed .limitNotNatural]

/-- There are groups, and nothing to calculate for them. -/
def groupingFaults (members : List (String × Json)) : List Fault :=
  if columnNames members "groupBy" ≠ [] ∧ ∀ key ∈ calculationKeys, columnNames members key = []
  then [.groupWithoutCalculation] else []

/-- An aggregate leaves the filter out, whatever patterns are in it. -/
def patternFaults (members : List (String × Json)) : List Fault :=
  if (∀ key ∈ columnKeys, columnNames members key = []) ∧
    (members.lookup "where").any Json.hasRegex then [.regexInLike] else []

/-- What is found while reading comes first, then what is found in the criteria read. -/
def memberFaults (members : List (String × Json)) : List Fault :=
  ([filterFaults members, sortFaults members] ++ columnKeys.map (columnFaults members) ++
    [limitFaults members]).flatten ++ groupingFaults members ++ patternFaults members

def faults : Json → List Fault
  | .object members => memberFaults members
  | _ => [.malformed .criteriaNotObject]

/-! Reading reports the first of them. -/

section

variable {members : List (String × Json)} {key : String}

theorem given?_eq_some_iff {value : Json} :
    given? members key = some value ↔ members.lookup key = some value ∧ value ≠ .null := by
  unfold given?
  cases members.lookup key with
  | none => simp
  | some found =>
      cases found with
      | null => simp [eq_comm]
      | bool _ | number _ | string _ | array _ | object _ =>
          simp only [Option.some.injEq, iff_self_and]
          rintro rfl h
          cases h

theorem given?_eq_none_iff :
    given? members key = none ↔ ∀ value, members.lookup key = some value → value = .null := by
  unfold given?
  cases members.lookup key with
  | none => simp
  | some found => cases found <;> simp

theorem presentFaults_eq (faults : Json → List Fault) :
    presentFaults members key faults = (given? members key).elim [] faults := by
  unfold presentFaults given?
  cases members.lookup key with
  | none => rfl
  | some value => cases value <;> rfl

theorem presentFaults_eq_nil_iff {faults : Json → List Fault} :
    presentFaults members key faults = [] ↔
      ∀ value, members.lookup key = some value → value = .null ∨ faults value = [] := by
  unfold presentFaults
  cases members.lookup key with
  | none => simp
  | some value => cases value <;> simp

theorem exists_of_mem_presentFaults {faults : Json → List Fault} {fault : Fault}
    (h : fault ∈ presentFaults members key faults) : ∃ value, fault ∈ faults value := by
  unfold presentFaults at h
  split at h
  · cases h
  · cases h
  · exact ⟨_, h⟩

end

theorem reports_filter (members : List (String × Json)) :
    Reports (filterFaults members) (filterOf members) := by
  rw [filterFaults, presentFaults_eq, filterOf]
  cases given? members "where" with
  | none => exact .ok _
  | some value => exact (reports_map value).map fun p => if p.isEmpty then none else some p

theorem reports_sort (members : List (String × Json)) :
    Reports (sortFaults members) (sortOf members) := by
  rw [sortFaults, presentFaults_eq, sortOf]
  cases given? members "sort" with
  | none => exact .ok _
  | some sort => cases sort <;> first | exact .ok _ | exact .error _

theorem reports_columns (members : List (String × Json)) (key : String) :
    Reports (columnFaults members key) (columnsOf members key) := by
  rw [columnFaults, presentFaults_eq, columnsOf]
  cases given? members key with
  | none => exact .ok _
  | some value =>
      cases value with
      | string column => exact .ok _
      | array columns =>
          apply Reports.mapM
          intro column _
          cases column <;> first | exact .ok _ | exact .error _
      | null | bool _ | number _ | object _ => exact .error _

theorem reports_limit (members : List (String × Json)) :
    Reports (limitFaults members) (limitOf members) := by
  rw [limitFaults, presentFaults_eq, limitOf]
  cases given? members "limit" with
  | none => exact .ok _
  | some limit =>
      match limit with
      | .number (.integer (.ofNat n)) =>
          simp only [Option.elim_some, isLimit, Json.integer?]
          by_cases hbound : (n : Int) ≤ greatestWord64
          · simp only [Int.ofNat_eq_natCast, hbound, Int.natCast_nonneg]
            exact .ok _
          · simp only [Int.ofNat_eq_natCast, hbound, Int.natCast_nonneg]
            exact .error _
      | .number (.integer (.negSucc n)) | .number (.float x) | .null | .bool _ | .string _
      | .array _ | .object _ => exact .error _

theorem reports_members (members : List (String × Json)) :
    Reports ([filterFaults members, sortFaults members] ++
      columnKeys.map (columnFaults members) ++ [limitFaults members]).flatten
      (ofMembers members) := by
  refine (reports_filter members).bind fun _ _ => (reports_sort members).bind fun _ _ => ?_
  refine (reports_columns members "groupBy").bind fun _ _ => ?_
  refine (reports_columns members "sum").bind fun _ _ => ?_
  refine (reports_columns members "average").bind fun _ _ => ?_
  refine (reports_columns members "min").bind fun _ _ => ?_
  refine (reports_columns members "max").bind fun _ _ => ?_
  exact (reports_limit members).bind fun _ _ => .ok _

/-! The criteria that are read. -/

/-- Every part is read from its own member. -/
structure IsRead (members : List (String × Json)) (criteria : Criteria) : Prop where
  filter : filterOf members = .ok criteria.filter
  sort : sortOf members = .ok criteria.sort
  groupBy : columnsOf members "groupBy" = .ok criteria.groupBy
  sum : columnsOf members "sum" = .ok criteria.sum
  average : columnsOf members "average" = .ok criteria.average
  min : columnsOf members "min" = .ok criteria.min
  max : columnsOf members "max" = .ok criteria.max
  limit : limitOf members = .ok criteria.limit

theorem isRead_of_ofMembers {members : List (String × Json)} {criteria : Criteria}
    (h : ofMembers members = .ok criteria) : IsRead members criteria := by
  obtain ⟨filter, hfilter, h⟩ := eq_ok_of_bind h
  obtain ⟨sort, hsort, h⟩ := eq_ok_of_bind h
  obtain ⟨groupBy, hgroupBy, h⟩ := eq_ok_of_bind h
  obtain ⟨sum, hsum, h⟩ := eq_ok_of_bind h
  obtain ⟨average, haverage, h⟩ := eq_ok_of_bind h
  obtain ⟨min, hmin, h⟩ := eq_ok_of_bind h
  obtain ⟨max, hmax, h⟩ := eq_ok_of_bind h
  obtain ⟨limit, hlimit, h⟩ := eq_ok_of_bind h
  obtain rfl := Except.ok.inj h
  exact ⟨hfilter, hsort, hgroupBy, hsum, haverage, hmin, hmax, hlimit⟩

theorem columnNames_eq {members : List (String × Json)} {key : String} {columns : List String}
    (h : columnsOf members key = .ok columns) : columnNames members key = columns := by
  unfold columnsOf at h
  unfold columnNames
  split at h
  · rename_i hgiven
    rw [← Except.ok.inj h]
    split
    · rename_i hlookup
      cases given?_eq_none_iff.1 hgiven _ hlookup
    · rename_i hlookup
      cases given?_eq_none_iff.1 hgiven _ hlookup
    · rfl
  · rename_i column hgiven
    rw [(given?_eq_some_iff.1 hgiven).1]
    exact Except.ok.inj h
  · rename_i values hgiven
    -- Every value was read as a text, so that none of them is lost.
    have hnames : values.map Json.string? = columns.map some := by
      apply map_eq_of_mapM h
      intro value _ column hcolumn
      cases value with
      | string s => exact congrArg some (Except.ok.inj hcolumn)
      | null | bool _ | number _ | array _ | object _ => cases hcolumn
    have hcolumns : values.filterMap Json.string? = (values.map Json.string?).filterMap id := by
      rw [List.filterMap_map, Function.id_comp]
    rw [(given?_eq_some_iff.1 hgiven).1]
    show values.filterMap Json.string? = columns
    rw [hcolumns, hnames, List.filterMap_map, Function.id_comp, List.filterMap_some]
  · cases h

theorem IsRead.columnNames_eq_nil_iff {members : List (String × Json)} {criteria : Criteria}
    (read : IsRead members criteria) :
    (∀ key ∈ calculationKeys, columnNames members key = []) ↔ criteria.hasCalculation = false := by
  simp [calculationKeys, hasCalculation, columnNames_eq read.sum, columnNames_eq read.average,
    columnNames_eq read.min, columnNames_eq read.max, and_assoc]

theorem IsRead.isAggregate_eq_false_iff {members : List (String × Json)} {criteria : Criteria}
    (read : IsRead members criteria) :
    (∀ key ∈ columnKeys, columnNames members key = []) ↔ criteria.isAggregate = false := by
  rw [columnKeys, List.forall_mem_cons, read.columnNames_eq_nil_iff, columnNames_eq read.groupBy,
    isAggregate]
  simp

theorem IsRead.hasRegex_eq {members : List (String × Json)} {criteria : Criteria}
    (read : IsRead members criteria) :
    (members.lookup "where").any Json.hasRegex = criteria.hasRegex := by
  have hfilter := read.filter
  unfold filterOf at hfilter
  unfold hasRegex
  cases hgiven : given? members "where" with
  | none =>
      rw [hgiven] at hfilter
      rw [← Except.ok.inj hfilter]
      cases hlookup : members.lookup "where" with
      | none => rfl
      | some value =>
          rw [given?_eq_none_iff.1 hgiven value hlookup]
          rfl
  | some value =>
      rw [hgiven] at hfilter
      obtain ⟨predicate, hpredicate, hfilter⟩ := eq_ok_of_bind hfilter
      rw [(given?_eq_some_iff.1 hgiven).1, ← Except.ok.inj hfilter, Option.any_some,
        hasRegex_ofJson hpredicate]
      cases predicate with
      | nil => rfl
      | cons clause rest => rfl

theorem select_of_isAggregate (table : String) {criteria : Criteria}
    (h : criteria.isAggregate = true) :
    Reports (if criteria.hasCalculation = false then [.groupWithoutCalculation] else [])
      (criteria.select table) := by
  unfold select validate
  rw [h]
  cases criteria.hasCalculation with
  | false => exact .error _
  | true => exact .ok _

theorem IsRead.reports_select {members : List (String × Json)} {criteria : Criteria}
    (read : IsRead members criteria) (table : String) :
    Reports (groupingFaults members ++ patternFaults members) (criteria.select table) := by
  have hgrouping : groupingFaults members =
      if criteria.groupBy ≠ [] ∧ criteria.hasCalculation = false then [.groupWithoutCalculation]
      else [] := by
    simp only [groupingFaults, columnNames_eq read.groupBy, read.columnNames_eq_nil_iff]
  have hpattern : patternFaults members =
      if criteria.isAggregate = false ∧ criteria.hasRegex then [.regexInLike] else [] := by
    simp only [patternFaults, read.isAggregate_eq_false_iff, read.hasRegex_eq]
  rw [hgrouping, hpattern]
  -- An aggregate may lack a calculation, and nothing else; a plain select has no groups.
  cases haggregate : criteria.isAggregate with
  | false =>
      have hgroupBy : criteria.groupBy = [] := by
        simp [isAggregate] at haggregate
        exact haggregate.1
      rw [select_of_not_isAggregate table haggregate, if_neg fun h => h.1 hgroupBy]
      cases criteria.hasRegex with
      | false => exact .ok _
      | true => exact .error _
  | true =>
      have hreports := select_of_isAggregate table haggregate
      have hgroup : criteria.hasCalculation = false → criteria.groupBy ≠ [] := by
        intro hcalculation hgroupBy
        simp [isAggregate, hcalculation, hgroupBy] at haggregate
      have hgroups : (criteria.groupBy ≠ [] ∧ criteria.hasCalculation = false) ↔
          criteria.hasCalculation = false :=
        ⟨And.right, fun h => ⟨hgroup h, h⟩⟩
      simpa [hgroups] using hreports

end Criteria

open Criteria in
theorem reports_selectOfJson (table : String) (json : Json) :
    Reports (faults json) (selectOfJson table json) := by
  cases json with
  | object members =>
      rw [faults, memberFaults, List.append_assoc]
      apply (reports_members members).bind
      intro criteria hcriteria
      exact (isRead_of_ofMembers hcriteria).reports_select table
  | null | bool _ | number _ | string _ | array _ => exact .error _

/-! The language of criteria. -/

namespace Criteria

/-- A column or an array of columns. -/
def IsColumnList : Json → Prop
  | .string _ => True
  | .array columns => ∀ column ∈ columns, ∃ name, column = .string name
  | _ => False

/-- What is given is well formed, groups come with a calculation, and where nothing is grouped or
calculated no like map holds a regular expression. -/
structure IsAccepted (members : List (String × Json)) : Prop where
  filter : ∀ value, members.lookup "where" = some value → value = .null ∨ value.IsMap
  sort : ∀ value, members.lookup "sort" = some value →
    value = .null ∨ ∃ columns, value = .object columns
  columns : ∀ key ∈ columnKeys, ∀ value, members.lookup key = some value →
    value = .null ∨ IsColumnList value
  limit : ∀ value, members.lookup "limit" = some value →
    value = .null ∨ ∃ n : Nat, n < 2 ^ 64 ∧ value = .number (.integer n)
  grouping : columnNames members "groupBy" ≠ [] →
    ∃ key ∈ calculationKeys, columnNames members key ≠ []
  patterns : (∀ key ∈ columnKeys, columnNames members key = []) →
    ∀ value, members.lookup "where" = some value → value.hasRegex = false

theorem filterFaults_eq_nil_iff {members : List (String × Json)} :
    filterFaults members = [] ↔
      ∀ value, members.lookup "where" = some value → value = .null ∨ value.IsMap := by
  rw [filterFaults, presentFaults_eq_nil_iff]
  simp only [mapFaults_eq_nil_iff]

theorem sortFaults_eq_nil_iff {members : List (String × Json)} :
    sortFaults members = [] ↔ ∀ value, members.lookup "sort" = some value →
      value = .null ∨ ∃ columns, value = .object columns := by
  rw [sortFaults, presentFaults_eq_nil_iff]
  refine forall₂_congr fun sort _ => or_congr_right ?_
  cases sort <;> simp [Json.members?]

theorem columnListFaults_eq_nil_iff {key : String} {value : Json} :
    columnListFaults key value = [] ↔ IsColumnList value := by
  cases value with
  | array columns =>
      have hcolumn : ∀ column : Json,
          column.string?.isSome ↔ ∃ name, column = .string name := by
        intro column
        cases column <;> simp [Json.string?]
      simp [columnListFaults, IsColumnList, hcolumn]
  | null | bool _ | number _ | string _ | object _ => simp [columnListFaults, IsColumnList]

theorem columnFaults_eq_nil_iff {members : List (String × Json)} {key : String} :
    columnFaults members key = [] ↔
      ∀ value, members.lookup key = some value → value = .null ∨ IsColumnList value := by
  rw [columnFaults, presentFaults_eq_nil_iff]
  simp only [columnListFaults_eq_nil_iff]

theorem isLimit_iff {json : Json} :
    isLimit json ↔ ∃ n : Nat, n < 2 ^ 64 ∧ json = .number (.integer n) := by
  unfold isLimit
  split
  · rename_i n
    rw [Bool.and_eq_true, decide_eq_true_eq, decide_eq_true_eq, greatestWord64]
    constructor
    · intro h
      exact ⟨n.toNat, by omega, by rw [Int.toNat_of_nonneg h.1]⟩
    · rintro ⟨m, hm, hn⟩
      obtain rfl := Json.Number.integer.inj (Json.number.inj hn)
      omega
  · rename_i hjson
    constructor
    · exact fun h => absurd h Bool.false_ne_true
    · rintro ⟨n, _, rfl⟩
      exact absurd rfl (hjson n)

theorem limitFaults_eq_nil_iff {members : List (String × Json)} :
    limitFaults members = [] ↔ ∀ value, members.lookup "limit" = some value →
      value = .null ∨ ∃ n : Nat, n < 2 ^ 64 ∧ value = .number (.integer n) := by
  rw [limitFaults, presentFaults_eq_nil_iff]
  refine forall₂_congr fun limit _ => or_congr_right ?_
  rw [← isLimit_iff]
  simp

theorem groupingFaults_eq_nil_iff {members : List (String × Json)} :
    groupingFaults members = [] ↔ (columnNames members "groupBy" ≠ [] →
      ∃ key ∈ calculationKeys, columnNames members key ≠ []) := by
  unfold groupingFaults
  split
  · rename_i h
    refine ⟨fun hnil => (by cases hnil), fun himp => ?_⟩
    obtain ⟨key, hkey, hne⟩ := himp h.1
    exact absurd (h.2 key hkey) hne
  · rename_i h
    refine ⟨fun _ hgroup => ?_, fun _ => rfl⟩
    apply Decidable.byContradiction
    intro hnone
    refine h ⟨hgroup, fun key hkey => Decidable.byContradiction fun hne => hnone ⟨key, hkey, hne⟩⟩

theorem patternFaults_eq_nil_iff {members : List (String × Json)} :
    patternFaults members = [] ↔ ((∀ key ∈ columnKeys, columnNames members key = []) →
      ∀ value, members.lookup "where" = some value → value.hasRegex = false) := by
  unfold patternFaults
  cases members.lookup "where" with
  | none => simp
  | some value => simp

theorem memberFaults_eq_nil_iff {members : List (String × Json)} :
    memberFaults members = [] ↔ IsAccepted members := by
  have hcolumns : (columnKeys.map (columnFaults members)).flatten = [] ↔
      ∀ key ∈ columnKeys, columnFaults members key = [] := by
    rw [List.flatten_eq_nil_iff, List.forall_mem_map]
  unfold memberFaults
  rw [List.flatten_append, List.flatten_append, List.append_eq_nil_iff, List.append_eq_nil_iff,
    List.append_eq_nil_iff, List.append_eq_nil_iff, hcolumns, List.flatten_singleton,
    List.flatten_cons, List.flatten_singleton, List.append_eq_nil_iff, filterFaults_eq_nil_iff,
    sortFaults_eq_nil_iff, limitFaults_eq_nil_iff, groupingFaults_eq_nil_iff,
    patternFaults_eq_nil_iff]
  simp only [columnFaults_eq_nil_iff]
  constructor
  · rintro ⟨⟨⟨⟨⟨hfilter, hsort⟩, hcolumns⟩, hlimit⟩, hgrouping⟩, hpatterns⟩
    exact ⟨hfilter, hsort, hcolumns, hlimit, hgrouping, hpatterns⟩
  · intro h
    exact ⟨⟨⟨⟨⟨h.filter, h.sort⟩, h.columns⟩, h.limit⟩, h.grouping⟩, h.patterns⟩

/-! Whatever the fault is, it lies in what was asked. -/

theorem isUsage_of_mem_ite {c : Prop} [Decidable c] {other fault : Fault} (hother : other.isUsage)
    (h : fault ∈ if c then [] else [other]) : fault.isUsage := by
  by_cases hc : c
  · rw [if_pos hc] at h
    cases h
  · rw [if_neg hc] at h
    rwa [List.mem_singleton.1 h]

theorem isUsage_of_mem_columnFaults {members : List (String × Json)} {key : String}
    {fault : Fault} (h : fault ∈ columnFaults members key) : fault.isUsage := by
  obtain ⟨value, h⟩ := exists_of_mem_presentFaults h
  unfold columnListFaults at h
  split at h
  · cases h
  · obtain ⟨column, _, hcolumn⟩ := List.mem_flatMap.1 h
    exact isUsage_of_mem_ite rfl hcolumn
  · rw [List.mem_singleton.1 h]
    rfl

theorem isUsage_of_mem_memberFaults {members : List (String × Json)} {fault : Fault}
    (h : fault ∈ memberFaults members) : fault.isUsage := by
  unfold memberFaults at h
  rw [List.flatten_append, List.flatten_append, List.flatten_cons, List.flatten_singleton,
    List.flatten_singleton] at h
  simp only [List.mem_append, or_assoc] at h
  rcases h with h | h | h | h | h | h
  · obtain ⟨value, h⟩ := exists_of_mem_presentFaults h
    exact isUsage_of_mem_mapFaults value fault h
  · obtain ⟨_, h⟩ := exists_of_mem_presentFaults h
    exact isUsage_of_mem_ite rfl h
  · obtain ⟨part, hpart, h⟩ := List.mem_flatten.1 h
    obtain ⟨key, _, rfl⟩ := List.mem_map.1 hpart
    exact isUsage_of_mem_columnFaults h
  · obtain ⟨_, h⟩ := exists_of_mem_presentFaults h
    exact isUsage_of_mem_ite rfl h
  · unfold groupingFaults at h
    split at h
    · rw [List.mem_singleton.1 h]
      rfl
    · cases h
  · unfold patternFaults at h
    split at h
    · rw [List.mem_singleton.1 h]
      rfl
    · cases h

theorem isUsage_of_mem_faults {json : Json} {fault : Fault} (h : fault ∈ faults json) :
    fault.isUsage := by
  cases json with
  | object members => exact isUsage_of_mem_memberFaults h
  | null | bool _ | number _ | string _ | array _ =>
      rw [List.mem_singleton.1 h]
      rfl

end Criteria

/-- There is a select for the criteria of the language and for no others; for these the first fault
is reported, and it is one of usage. -/
theorem select_language (table : String) (json : Json) :
    ((∃ sql, selectOfJson table json = .ok sql) ↔
      ∃ members, json = .object members ∧ Criteria.IsAccepted members) ∧
    (∀ fault, selectOfJson table json = .error fault ↔
      (Criteria.faults json).head? = some fault) ∧
    ∀ fault, selectOfJson table json = .error fault → fault.isUsage := by
  have hreports := reports_selectOfJson table json
  have hmem : ∀ fault, selectOfJson table json = .error fault → fault ∈ Criteria.faults json :=
    fun fault h => List.mem_of_head? ((hreports.error_iff fault).1 h)
  refine ⟨?_, hreports.error_iff, fun fault h => Criteria.isUsage_of_mem_faults (hmem fault h)⟩
  rw [hreports.ok_iff]
  cases json with
  | object members =>
      rw [Criteria.faults, Criteria.memberFaults_eq_nil_iff]
      constructor
      · exact fun h => ⟨members, rfl, h⟩
      · rintro ⟨others, hothers, h⟩
        rwa [Json.object.inj hothers]
  | null | bool _ | number _ | string _ | array _ =>
      constructor
      · intro h
        cases h
      · rintro ⟨members, h, _⟩
        cases h

/-- The filter is looked at before the limit, although the limit is written first. -/
theorem select_language_order :
    selectOfJson "T" (.object [("limit", .string ""), ("where", .object [("Not", .null)])]) =
        .error .groupNegation ∧
      Fault.groupNegation.isUsage := by
  have hfirst := ((select_language "T" (.object
    [("limit", .string ""), ("where", .object [("Not", .null)])])).2.1 .groupNegation).2 rfl
  exact ⟨hfirst, (select_language "T" _).2.2 _ hfirst⟩

end CriteriaSql
