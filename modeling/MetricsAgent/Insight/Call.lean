import MetricsAgent.Insight.Basic
import MetricsAgent.Name.Canonical

/-!
# Insights in queries

Producers that speak the query language alone report an insight by a call.  `callArgument?` takes the
argument out of a query; what the argument holds is read as any other insight.
-/

namespace MetricsAgent.Insight

/-- The text that starts a call, up to its opening parenthesis. -/
def callStart : List Char := "CALL InsightsRpc.reportInsight(".toList

/-- What follows the first occurrence of `word`. -/
def afterFirst? (word : List Char) : List Char → Option (List Char)
  | [] => if word = [] then some [] else none
  | c :: rest =>
    if word.isPrefixOf (c :: rest) then some ((c :: rest).drop word.length)
    else afterFirst? word rest

/-- What precedes the last occurrence of `mark`. -/
def beforeLast? (mark : Char) : List Char → Option (List Char)
  | [] => none
  | c :: rest =>
    match beforeLast? mark rest with
    | some front => some (c :: front)
    | none => if c = mark then some [] else none

/-- The text without blanks at its ends. -/
def trim (cs : List Char) : List Char :=
  ((cs.dropWhile Name.isBlank).reverse.dropWhile Name.isBlank).reverse

/-- The text between single quotes, or the text itself if it does not stand between such. -/
def unquote (cs : List Char) : List Char :=
  match cs with
  | '\'' :: rest => if rest.getLast? = some '\'' then rest.dropLast else cs
  | _ => cs

/-- The argument of the call in a query: what stands between the first start of a call and the last
closing parenthesis. -/
def callArgument? (query : String) : Option String := do
  let rest ← afterFirst? callStart query.toList
  let argument ← beforeLast? ')' rest
  return String.ofList (unquote (trim argument))

/-- The insight that a query reports, if it is such a call. -/
def ofQuery? (now : Int) (query : String) : Option (Except InsightError Insight) :=
  (callArgument? query).map (receive now)

end MetricsAgent.Insight
