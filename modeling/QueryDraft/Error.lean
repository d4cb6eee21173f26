import QueryDraft.Value.Display

/-!
# What can go wrong

Every way in which a query, a document or a configuration is turned down is a constructor that holds
what its wording needs; the wording stands in one function per type. `Error` puts them together with
the failures that have no wording of their own: data of a kind that an operation has no meaning for,
numbers out of range, and files.
-/

namespace QueryDraft

/-- Places that want a text that is not blank. -/
inductive TextSlot where
  | conditionField
  | selectField
  | groupByField
  | tableName
  | orderByField
  | columnName (verb : Verb)
  | indexName
  | fieldName
  | aggregationName
  | histogramInterval
  deriving DecidableEq

/-- How messages call a place for a text. -/
def TextSlot.label : TextSlot → String
  | .conditionField => "Condition field"
  | .selectField => "SELECT field"
  | .groupByField => "GROUP BY field"
  | .tableName => "Table name"
  | .orderByField => "ORDER BY field"
  | .columnName verb => verb.text ++ " column name"
  | .indexName => "Index name"
  | .fieldName => "Field name"
  | .aggregationName => "Aggregation name"
  | .histogramInterval => "Histogram interval"

/-- Places that want a count. -/
inductive CountSlot where
  | limit
  | offset
  | size
  | start
  | termsSize
  deriving DecidableEq

/-- How messages call a place for a count. -/
def CountSlot.label : CountSlot → String
  | .limit => "Limit count"
  | .offset => "Offset count"
  | .size => "Size"
  | .start => "From offset"
  | .termsSize => "Terms size"

/-- Places that want a list of texts. -/
inductive TextsSlot where
  | multiMatchFields
  | highlightFields
  | preTags
  | postTags
  deriving DecidableEq

/-- How messages call a place for a list of texts. -/
def TextsSlot.label : TextsSlot → String
  | .multiMatchFields => "multi_match fields"
  | .highlightFields => "highlight fields"
  | .preTags => "highlight pre_tags"
  | .postTags => "highlight post_tags"

/-- Reasons for which a query or a part of one is refused. -/
inductive Refusal where
  | unsupportedOperator (given : Value)
  | unsupportedJoinKind (given : Value)
  | unsupportedDirection (given : Value)
  | unsupportedSortOrder (given : Value)
  | blank (slot : TextSlot)
  | joinParts
  | valueForNullCheck (operator : Operator)
  | notValueList (operator : Operator)
  | noValues (operator : Operator)
  | notTwoValues
  | notCount (slot : CountSlot)
  | negativeCount (slot : CountSlot)
  | noColumns (verb : Verb)
  | missingTable
  | missingProjection
  | unsupportedClauses (verb : Verb) (clauses : List String)
  | notPredicate (typeName : String)
  | notAggregation (typeName : String)
  | notTexts (slot : TextsSlot)
  | blankTexts (slot : TextsSlot)
  | termsValues
  | noBound
  | boundsShape
  | unknownBounds (keys : List Value)
  | unknownHighlightOptions (keys : List Value)
  | noHighlightField
  | fragmentSize
  | negativeTermsSize
  | notSingleEntry (what : String)
  | keyNotText (what : String)
  | boolBody
  | unknownBoolClauses (keys : List Value)
  | multiMatchQuery
  | predicateKind (kind : String)
  | aggregationField (kind : String)
  | histogramBody
  | aggregationKind (kind : String)
  | inDefinition (key : String) (cause : Refusal)

/-- The wording of a refusal. -/
def Refusal.message : Refusal → String
  | .unsupportedOperator v => "Unsupported operator: " ++ v.display
  | .unsupportedJoinKind v => "Unsupported join kind: " ++ v.display
  | .unsupportedDirection v => "Unsupported sort direction: " ++ v.display
  | .unsupportedSortOrder v => "Unsupported sort order: " ++ v.display
  | .blank slot => slot.label ++ " cannot be empty"
  | .joinParts => "Table and condition are required for join"
  | .valueForNullCheck o => o.text ++ " does not take a value"
  | .notValueList o => o.text ++ " requires a list of values"
  | .noValues o => o.text ++ " requires at least one value"
  | .notTwoValues => "BETWEEN requires exactly two values"
  | .notCount slot => slot.label ++ " must be an integer"
  | .negativeCount slot => slot.label ++ " cannot be negative"
  | .noColumns verb => verb.text ++ " requires at least one column value"
  | .missingTable => "FROM table is required"
  | .missingProjection => "SELECT fields are required"
  | .unsupportedClauses verb clauses =>
    verb.text ++ " does not support: " ++ ", ".intercalate clauses
  | .notPredicate name => "Expected a query predicate, got " ++ name
  | .notAggregation name => "Expected an aggregation spec, got " ++ name
  | .notTexts slot => slot.label ++ " must be a list of strings"
  | .blankTexts slot => slot.label ++ " must be non-empty strings"
  | .termsValues => "terms requires a list of values"
  | .noBound => "Range requires at least one bound"
  | .boundsShape => "Range bounds must be a mapping of gte/gt/lte/lt"
  | .unknownBounds keys => "Unknown range bound(s): " ++ Value.displayList keys
  | .unknownHighlightOptions keys => "Unknown highlight option(s): " ++ Value.displayList keys
  | .noHighlightField => "Highlight requires at least one field"
  | .fragmentSize => "Highlight fragment_size must be an integer"
  | .negativeTermsSize => "Terms aggregation size cannot be negative"
  | .notSingleEntry what => what ++ " must be a mapping with exactly one key"
  | .keyNotText what => what ++ " key must be a string"
  | .boolBody => "bool body must be a mapping"
  | .unknownBoolClauses keys => "Unknown bool clause(s): " ++ Value.displayList keys
  | .multiMatchQuery => "multi_match requires 'query'"
  | .predicateKind kind => "Unsupported predicate type: " ++ kind
  | .aggregationField kind => kind ++ " aggregation requires 'field'"
  | .histogramBody => "date_histogram requires 'calendar_interval'"
  | .aggregationKind kind => "Unsupported aggregation type: " ++ kind
  | .inDefinition key cause => key ++ ": " ++ cause.message

/-- Texts shown as a list. -/
def displayTexts (ts : List String) : String := Value.displayList (ts.map .text)

/-- Reasons for which a setting of a configuration is turned down for its value. -/
inductive SettingFault where
  | missing (key : String)
  | unknownKeys (key : String) (names : List String)
  | emptyName (key : String)
  | definitionType (key : String)
  | severalVerbs (key : String) (verbs : List String)
  | queryAndBool (key : String)
  | sortEntry (key : String)
  | noQueries
  | duplicateName (index : Nat) (name : String)
  | logLevel
  | logDir
  | noFormats
  | unknownFormats (names : List Value)
  | baseDir
  | negativeThreshold (name : String)
  | rootShape
  | noWriters

/-- The wording of a fault in a setting's value. -/
def SettingFault.message : SettingFault → String
  | .missing key => "Missing required config: " ++ key
  | .unknownKeys key names => key ++ " has unknown key(s): " ++ displayTexts names
  | .emptyName key => key ++ ".name must not be empty"
  | .definitionType key => key ++ ".type must be one of " ++ displayTexts ["relational", "search"]
  | .severalVerbs key verbs =>
    key ++ " may use only one of insert/update/delete, got " ++ displayTexts verbs
  | .queryAndBool key => key ++ " may set either query or bool, not both"
  | .sortEntry key => key ++ " must map one field to asc/desc"
  | .noQueries => "queries must include at least one query"
  | .duplicateName index name =>
    "queries[" ++ toString index ++ "].name duplicates an earlier query: " ++ name
  | .logLevel =>
    "log.level must be one of " ++ displayTexts ["CRITICAL", "DEBUG", "ERROR", "INFO", "WARNING"]
  | .logDir => "log.dir must not be empty"
  | .noFormats => "output.formats must include at least one format"
  | .unknownFormats names => "output.formats has unknown format(s): " ++ Value.displayList names
  | .baseDir => "output.base_dir must not be empty when json output is enabled"
  | .negativeThreshold name => "analysis." ++ name ++ " must not be negative"
  | .rootShape => "Config root must be a mapping/object"
  | .noWriters => "No output writers configured"

/-- Kinds that a setting may be asked to have. -/
inductive SettingKind where
  | string
  | boolean
  | integer
  | number
  | object
  | list
  deriving DecidableEq

/-- A kind with its article. -/
def SettingKind.phrase : SettingKind → String
  | .string => "a string"
  | .boolean => "a boolean"
  | .integer => "an integer"
  | .number => "a number"
  | .object => "an object"
  | .list => "a list"

/-- Reasons for which something is turned down for its kind. -/
inductive KindFault where
  | setting (key : String) (wanted : SettingKind)
  | predicate (typeName : String)
  | aggregation (typeName : String)
  | query (typeName : String)
  deriving DecidableEq

/-- The wording of a fault of kind. -/
def KindFault.message : KindFault → String
  | .setting key wanted => key ++ " must be " ++ wanted.phrase
  | .predicate name => "Unsupported predicate: " ++ name
  | .aggregation name => "Unsupported aggregation: " ++ name
  | .query name => "Unsupported query type: " ++ name

/-- Failures without a wording of their own. -/
inductive Failure where
  /-- An operation on data of a kind that it has no meaning for. -/
  | mismatch
  /-- A part is asked for that the data does not have. -/
  | noSuchPart
  /-- A place that a list does not have. -/
  | outOfRange
  /-- A number beyond the range of the binary format. -/
  | overflow
  /-- A text or number that stands for nothing, such as a day that no calendar has. -/
  | meaningless
  /-- A mapping key that has no text in a document. -/
  | unwritableKey (typeName : String)
  /-- A text that is no document. -/
  | malformedDocument
  | missingFile (path : String)
  | isDirectory (path : String)
  | notDirectory (path : String)
  | fileExists (path : String)
  | accessDenied (path : String)
  | nameTooLong (path : String)
  /-- A path that holds the character that ends a path for the system. -/
  | endInPath
  /-- Any other failure of the system, in its own words. -/
  | system (message : String)
  deriving DecidableEq

/-- What a failure says when it ends a run. -/
def Failure.text : Failure → String
  | .mismatch => "unsupported operation"
  | .noSuchPart => "no such attribute"
  | .outOfRange => "index out of range"
  | .overflow => "int too large to convert to float"
  | .meaningless => "invalid value"
  | .unwritableKey name => "keys must be str, int, float, bool or None, not " ++ name
  | .malformedDocument => "malformed document"
  | .missingFile path => "[Errno 2] No such file or directory: " ++ Text.quoted path
  | .isDirectory path => "[Errno 21] Is a directory: " ++ Text.quoted path
  | .notDirectory path => "[Errno 20] Not a directory: " ++ Text.quoted path
  | .fileExists path => "[Errno 17] File exists: " ++ Text.quoted path
  | .accessDenied path => "[Errno 13] Permission denied: " ++ Text.quoted path
  | .nameTooLong path => "[Errno 36] File name too long: " ++ Text.quoted path
  | .endInPath => "embedded null byte"
  | .system message => message

/-- Anything that can go wrong. -/
inductive Error where
  | refused (r : Refusal)
  | setting (s : SettingFault)
  | kind (k : KindFault)
  | failed (f : Failure)

instance : Inhabited Error := ⟨.failed .mismatch⟩

/-- The wording of an error, where it has one of its own. -/
def Error.message? : Error → Option String
  | .refused r => some r.message
  | .setting s => some s.message
  | .kind k => some k.message
  | .failed _ => none

/-- What an error says when it ends a run. -/
def Error.text : Error → String
  | .refused r => r.message
  | .setting s => s.message
  | .kind k => k.message
  | .failed f => f.text

/-- The result of something that can go wrong. -/
abbrev Outcome (α : Type) := Except Error α

/-- Turns something down for a reason. -/
def refuse {α : Type} (r : Refusal) : Outcome α := .error (.refused r)

/-- Fails without a wording. -/
def fail {α : Type} (f : Failure) : Outcome α := .error (.failed f)

end QueryDraft
