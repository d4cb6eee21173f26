/-!
# The closed vocabularies of queries

The fixed words that conditions, joins, orders, statements and ratings are made of. A word has a
text, which is what a statement or a document prints for it, and a name in capitals; together they
make its display form. `Word` collects the vocabularies, since a word may stand anywhere a text may.
-/

namespace QueryDraft

/-- Comparison operators of conditions. -/
inductive Operator where
  | eq | ne | gt | lt | ge | le | like | isIn | notIn | between | isNull | isNotNull
  deriving DecidableEq

/-- How a condition joins the one before it. -/
inductive Connector where
  | and | or
  deriving DecidableEq

/-- Flavours of join. -/
inductive JoinKind where
  | inner | left | right | fullOuter
  deriving DecidableEq

/-- Directions of a statement's ordering. -/
inductive Direction where
  | asc | desc
  deriving DecidableEq

/-- Verbs of statements. -/
inductive Verb where
  | select | insert | update | delete
  deriving DecidableEq

/-- Directions of a search's ordering. -/
inductive SortOrder where
  | asc | desc
  deriving DecidableEq

/-- Ratings of an analysis. -/
inductive Rating where
  | good | fair | poor
  deriving DecidableEq

namespace Operator

/-- Every operator, in the order in which spellings are tried. -/
def all : List Operator :=
  [.eq, .ne, .gt, .lt, .ge, .le, .like, .isIn, .notIn, .between, .isNull, .isNotNull]

/-- The spelling of an operator in a statement. -/
def text : Operator → String
  | .eq => "="
  | .ne => "!="
  | .gt => ">"
  | .lt => "<"
  | .ge => ">="
  | .le => "<="
  | .like => "LIKE"
  | .isIn => "IN"
  | .notIn => "NOT IN"
  | .between => "BETWEEN"
  | .isNull => "IS NULL"
  | .isNotNull => "IS NOT NULL"

/-- The name of an operator. -/
def name : Operator → String
  | .eq => "EQ"
  | .ne => "NE"
  | .gt => "GT"
  | .lt => "LT"
  | .ge => "GE"
  | .le => "LE"
  | .like => "LIKE"
  | .isIn => "IN"
  | .notIn => "NOT_IN"
  | .between => "BETWEEN"
  | .isNull => "IS_NULL"
  | .isNotNull => "IS_NOT_NULL"

/-- Whether the operator takes no value. -/
def isNullCheck : Operator → Bool
  | .isNull | .isNotNull => true
  | _ => false

/-- Whether the operator takes a list of values. -/
def isMultiValue : Operator → Bool
  | .isIn | .notIn | .between => true
  | _ => false

end Operator

/-- The spelling of a connector, which is also its name. -/
def Connector.text : Connector → String
  | .and => "AND"
  | .or => "OR"

/-- Every join kind, in the order in which spellings are tried. -/
def JoinKind.all : List JoinKind := [.inner, .left, .right, .fullOuter]

/-- The spelling of a join kind in a statement. -/
def JoinKind.text : JoinKind → String
  | .inner => "INNER"
  | .left => "LEFT"
  | .right => "RIGHT"
  | .fullOuter => "FULL OUTER"

/-- The name of a join kind. -/
def JoinKind.name : JoinKind → String
  | .fullOuter => "FULL_OUTER"
  | kind => kind.text

/-- The spelling of a direction, which is also its name. -/
def Direction.text : Direction → String
  | .asc => "ASC"
  | .desc => "DESC"

/-- The spelling of a verb, which is also its name. -/
def Verb.text : Verb → String
  | .select => "SELECT"
  | .insert => "INSERT"
  | .update => "UPDATE"
  | .delete => "DELETE"

/-- The spelling of a sort order in a document. -/
def SortOrder.text : SortOrder → String
  | .asc => "asc"
  | .desc => "desc"

/-- The name of a sort order. -/
def SortOrder.name : SortOrder → String
  | .asc => "ASC"
  | .desc => "DESC"

/-- The spelling of a rating in a report. -/
def Rating.text : Rating → String
  | .good => "Good"
  | .fair => "Fair"
  | .poor => "Poor"

/-- The name of a rating. -/
def Rating.name : Rating → String
  | .good => "GOOD"
  | .fair => "FAIR"
  | .poor => "POOR"

/-- How bad a rating is. -/
def Rating.severity : Rating → Nat
  | .good => 0
  | .fair => 1
  | .poor => 2

/-- The worse of two ratings. -/
def Rating.worst (a b : Rating) : Rating := if b.severity ≤ a.severity then a else b

/-- A word of one of the vocabularies. -/
inductive Word where
  | operator (o : Operator)
  | connector (c : Connector)
  | joinKind (k : JoinKind)
  | direction (d : Direction)
  | verb (v : Verb)
  | sortOrder (o : SortOrder)
  | rating (r : Rating)
  deriving DecidableEq

namespace Word

/-- The text of a word. -/
def text : Word → String
  | .operator o => o.text
  | .connector c => c.text
  | .joinKind k => k.text
  | .direction d => d.text
  | .verb v => v.text
  | .sortOrder o => o.text
  | .rating r => r.text

/-- The name of a word. -/
def name : Word → String
  | .operator o => o.name
  | .connector c => c.text
  | .joinKind k => k.name
  | .direction d => d.text
  | .verb v => v.text
  | .sortOrder o => o.name
  | .rating r => r.name

/-- The name of a word's vocabulary. -/
def vocabulary : Word → String
  | .operator _ => "Operator"
  | .connector _ => "Connector"
  | .joinKind _ => "JoinKind"
  | .direction _ => "Direction"
  | .verb _ => "StatementKind"
  | .sortOrder _ => "SortOrder"
  | .rating _ => "Rating"

/-- The name of a word with its vocabulary before it. -/
def qualified (w : Word) : String := w.vocabulary ++ "." ++ w.name

/-- All words of all vocabularies. -/
def all : List Word :=
  Operator.all.map .operator ++ [Connector.and, .or].map .connector ++
    JoinKind.all.map .joinKind ++ [Direction.asc, .desc].map .direction ++
    [Verb.select, .insert, .update, .delete].map .verb ++
    [SortOrder.asc, .desc].map .sortOrder ++ [Rating.good, .fair, .poor].map .rating

/-- The word with a name in a vocabulary. -/
def ofName? (vocabulary name : String) : Option Word :=
  all.find? fun w => w.vocabulary == vocabulary && w.name == name

end Word

end QueryDraft
