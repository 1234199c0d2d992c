import MailFilters.Date
import MailFilters.Obstacle
import MailFilters.Text.Split

/-!
# Queries

A condition as a fragment of a Gmail search.

* **`Condition.query`** — the fragment, or why there is none.
* **`Comparator.isTerm`** — the comparators that a search term stands for; a search knows neither
  the start nor the end nor the whole of a text, so all of these mean that the text occurs.
-/

namespace MailFilters

/-- Whether a search term stands for a comparator. -/
def Comparator.isTerm : Comparator → Bool
  | .contains | .beginsWith | .endsWith | .is => true
  | .doesntContain | .isnt | .isBefore => false

namespace Condition

/-- A search text in quotes, its own quotes left out. -/
def literal (search : String) : String :=
  "\"" ++ String.ofList (search.toList.filter (· != '"')) ++ "\""

/-- The term that looks for the text of a condition behind a key, which may be empty. -/
def termQuery (condition : Condition) (key : String) : Except Obstacle String :=
  if condition.comparator.isTerm then .ok (key ++ literal condition.search)
  else if condition.comparator = .doesntContain then
    .ok ("-(" ++ key ++ literal condition.search ++ ")")
  else .error (.comparison condition.target condition.comparator)

/-- The terms behind several keys, any of which may hold. -/
def anyQuery (condition : Condition) (keys : List String) : Except Obstacle String := do
  let terms ← keys.mapM condition.termQuery
  return "(" ++ Text.joined " OR " terms ++ ")"

/-- The fragment for a condition on the date. -/
def dateQuery (condition : Condition) : Except Obstacle String :=
  match Date.read? condition.search with
  | none => .error (.notADate condition.search)
  | some date =>
    if condition.comparator = .isBefore then .ok ("before:" ++ date.render)
    else .error (.comparison condition.target condition.comparator)

/-- The fragment of a search for a condition. -/
def query (condition : Condition) : Except Obstacle String :=
  match condition.target with
  | .field .sender => condition.termQuery "from:"
  | .field .to => condition.termQuery "to:"
  | .field .cc => condition.termQuery "cc:"
  | .field .toOrCc => condition.anyQuery ["to:", "cc:"]
  | .field .allAddresses => condition.anyQuery ["from:", "to:", "cc:", "bcc:"]
  | .field .subject => condition.termQuery "subject:"
  | .field .body => condition.termQuery ""
  | .field .date => condition.dateQuery
  | .field .junkStatus | .header _ => .error (.target condition.target)

end Condition

end MailFilters
