/-! What can go wrong, and the words for it. -/

namespace CriteriaSql

/-- How a criteria object or a map of values is misshapen. -/
inductive Malformed where
  | criteriaNotObject
  | whereNotObject
  | sortNotObject
  | limitNotNatural
  | valuesNotObject
  | columnNotText (key : String)
  | columnsNotList (key : String)
  | branchesNotArray (key : String)
  | patternsNotObject
  | nestedComparator (key : String)
  | other (text : String)

def Malformed.text : Malformed → String
  | criteriaNotObject => "criteria must be an object"
  | whereNotObject => "where clause must be an object"
  | sortNotObject => "sort must be an object"
  | limitNotNatural => "limit must be a non-negative integer"
  | valuesNotObject => "values must be an object"
  | columnNotText key => key ++ " expects column names"
  | columnsNotList key => key ++ " must be a column name or an array of column names"
  | branchesNotArray key => key ++ " expects an array of criteria"
  | patternsNotObject => "like expects a map of column to pattern"
  | nestedComparator key => "comparator " ++ key ++ " cannot take another comparator as operand"
  | other text => text

inductive Fault where
  | groupWithoutCalculation
  | unknownComparator (key : String)
  | regexInLike
  | groupNegation
  | malformed (cause : Malformed)
  | unknownCollection (identity : String)
  | execution (text : String)

namespace Fault

def message : Fault → String
  | groupWithoutCalculation => "Cannot groupBy without a calculation"
  | unknownComparator key => "Unknown comparator: " ++ key
  | regexInLike => "RegExp not supported in LIKE clauses"
  | groupNegation => "NOT not supported yet"
  | malformed cause => "Invalid criteria: " ++ cause.text
  | unknownCollection identity => "Unknown collection: '" ++ identity ++ "'"
  | execution text => "Execution error: " ++ text

/-- The fault lies in what was asked, so asking again will not help. -/
def isUsage : Fault → Bool
  | unknownCollection _ => false
  | execution _ => false
  | _ => true

end Fault

end CriteriaSql
