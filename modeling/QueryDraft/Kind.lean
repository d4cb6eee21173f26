/-!
# Kinds of parts

A part is something that a query, a search or a configuration is made of, or that was built from
one. Each kind of part has a name, as messages give it, and a label for each of its fields.
-/

namespace QueryDraft

/-- Kinds of parts. -/
inductive Kind where
  | matchAll | matching | phrase | multiMatch | term | terms | range | bool | bounds
  | avg | sum | termsAggregation | dateHistogram
  | highlight | sortField | condition | join | order
  | statement | request | sqlDraft | searchDraft | boolDraft
  | thresholds | report
  | logSettings | outputSettings | settings | definition
  deriving DecidableEq

namespace Kind

/-- Every kind. -/
def all : List Kind :=
  [.matchAll, .matching, .phrase, .multiMatch, .term, .terms, .range, .bool, .bounds, .avg, .sum,
    .termsAggregation, .dateHistogram, .highlight, .sortField, .condition, .join, .order,
    .statement, .request, .sqlDraft, .searchDraft, .boolDraft, .thresholds, .report, .logSettings,
    .outputSettings, .settings, .definition]

/-- The name of a kind. -/
def name : Kind → String
  | .matchAll => "MatchAll"
  | .matching => "Match"
  | .phrase => "MatchPhrase"
  | .multiMatch => "MultiMatch"
  | .term => "Term"
  | .terms => "Terms"
  | .range => "Range"
  | .bool => "Bool"
  | .bounds => "RangeBounds"
  | .avg => "Avg"
  | .sum => "Sum"
  | .termsAggregation => "TermsAggregation"
  | .dateHistogram => "DateHistogram"
  | .highlight => "HighlightSpec"
  | .sortField => "SortField"
  | .condition => "WhereCondition"
  | .join => "JoinCondition"
  | .order => "OrderByClause"
  | .statement => "RelationalQuery"
  | .request => "SearchQuery"
  | .sqlDraft => "RelationalQueryBuilder"
  | .searchDraft => "SearchQueryBuilder"
  | .boolDraft => "BoolQueryBuilder"
  | .thresholds => "AnalysisThresholds"
  | .report => "AnalysisReport"
  | .logSettings => "RuntimeConfig"
  | .outputSettings => "OutputConfig"
  | .settings => "AppConfig"
  | .definition => "QueryDefinition"

/-- The kind with a name. -/
def ofName? (name : String) : Option Kind := all.find? fun k => k.name == name

/-- The labels of the fields of a kind, in order. -/
def labels : Kind → List String
  | .matchAll => []
  | .matching | .term => ["field", "value"]
  | .phrase => ["field", "phrase"]
  | .multiMatch => ["value", "fields"]
  | .terms => ["field", "values"]
  | .range => ["field", "bounds"]
  | .bool => ["must", "must_not", "should", "filter"]
  | .bounds => ["gte", "gt", "lte", "lt"]
  | .avg | .sum => ["field"]
  | .termsAggregation => ["field", "size"]
  | .dateHistogram => ["field", "interval"]
  | .highlight => ["fields", "pre_tags", "post_tags", "fragment_size"]
  | .sortField => ["field", "order"]
  | .condition => ["field", "operator", "value", "connector"]
  | .join => ["table", "condition", "kind"]
  | .order => ["field", "direction"]
  | .statement =>
    ["text", "parameters", "kind", "estimated_cost", "table", "projection", "where_count", "limit"]
  | .request =>
    ["predicate", "filters", "sort", "size", "from_", "aggregations", "highlight",
      "source_fields", "index"]
  | .sqlDraft =>
    ["kind", "projection", "table", "joins", "where_conditions", "group_by_fields",
      "having_conditions", "order_by_fields", "limit_count", "offset_count", "assignments"]
  | .searchDraft =>
    ["index_name", "predicate", "filters", "sort_fields", "size_value", "from_value",
      "aggregation_items", "highlight_spec", "source_fields"]
  | .boolDraft =>
    ["parent", "must_clauses", "must_not_clauses", "should_clauses", "filter_clauses"]
  | .thresholds => ["max_cost", "large_result_size", "sort_required_size"]
  | .report => ["rating", "notes"]
  | .logSettings => ["level", "to_file", "dir"]
  | .outputSettings => ["base_dir", "formats"]
  | .settings => ["runtime", "output", "analysis", "queries"]
  | .definition => ["name", "kind", "builder"]

/-- The operations of a draft of a search that are called like a field of a built one. -/
def operations : Kind → List String
  | .searchDraft => ["size", "sort", "index", "highlight"]
  | _ => []

end Kind

end QueryDraft
