import MailFilters.Proofs.Condition.Clauses
import MailFilters.Proofs.Text.Cut
import MailFilters.Proofs.Text.Lines

/-!
# Writing conditions

* **`conditionsText`** — conditions one after the other, each as its combinator and, in
  parentheses, its target, its comparator and its search text.
* **`IsWritable`** — the conditions that can be written so.
* **`readConditions_conditionsText`** — what is written is read as the same conditions.
-/

namespace MailFilters.Condition

open MailFilters.Text

/-- The name of a combinator in capitals. -/
def combinatorText : Combinator → List Char
  | .and => ['A', 'N', 'D']
  | .or => ['O', 'R']

/-- A search text in quotes, or bare if it holds a quote. -/
def searchText (search : List Char) : List Char :=
  if '"' ∈ search then search else '"' :: (search ++ ['"'])

/-- A condition as it is written. -/
def clauseText (condition : Condition) : List Char :=
  combinatorText condition.combinator ++ ' ' :: '(' :: (condition.target.name.toList ++
    ',' :: (condition.comparator.name.toList ++
      ',' :: (searchText condition.search.toList ++ [')'])))

/-- Conditions as they are written, with a space between them. -/
def conditionsText (conditions : List Condition) : List Char :=
  joinWith [' '] (conditions.map clauseText)

/-- Conditions that can be written: headers hold no quote, and a search text that holds one neither
holds a parenthesis nor starts like a text in quotes. -/
structure IsWritable (condition : Condition) : Prop where
  header : ∀ name, condition.target = .header name → '"' ∉ name.toList ∧ IsLine name.toList
  line : IsLine condition.search.toList
  search : '"' ∉ condition.search.toList ∨ (')' ∉ condition.search.toList ∧
    ∀ c, condition.search.toList.head? = some c → isBlank c = false ∧ c ≠ '"')

/-! ## What is written is read -/

theorem blank_space : Blank [' '] := .singleton (by decide)

theorem combinatorText_spelling (combinator : Combinator) :
    IsSpelling Combinator.names combinator (combinatorText combinator) := by
  unfold IsSpelling
  cases combinator <;> decide +kernel

theorem comparator_spelling (comparator : Comparator) :
    IsSpelling Comparator.names comparator comparator.name.toList := by
  unfold IsSpelling
  cases comparator <;> decide +kernel

theorem field_spelling (part : Field) : IsSpelling Field.names part part.name.toList := by
  unfold IsSpelling
  cases part <;> decide +kernel

theorem IsWritable.targetText {condition : Condition} (writable : condition.IsWritable) :
    TargetText condition.target condition.target.name.toList := by
  cases target : condition.target with
  | field part => exact .field (field_spelling part)
  | header name =>
      have letters : (Target.header name).name.toList = '"' :: (name.toList ++ ['"']) := by
        rw [Target.name, String.toList_append, String.toList_append]
        rfl
      rw [letters]
      exact .header (writable.header name target).1

theorem IsWritable.searchText {condition : Condition} (writable : condition.IsWritable) :
    SearchText condition.search (searchText condition.search.toList ++ [')']) := by
  unfold Condition.searchText
  by_cases quote : '"' ∈ condition.search.toList
  · rw [if_pos quote]
    rcases writable.search with free | ⟨noParen, start⟩
    · exact absurd quote free
    · exact .bare noParen start
  · rw [if_neg quote, List.cons_append, List.append_assoc]
    exact .quoted quote .nil

theorem IsWritable.clauseText {condition : Condition} (writable : condition.IsWritable) :
    ClauseText condition (clauseText condition) := by
  have clause := ClauseText.mk (combinatorText_spelling condition.combinator) blank_space .nil
    writable.targetText .nil .nil (comparator_spelling condition.comparator) .nil .nil
    writable.searchText
  simpa [Condition.clauseText] using clause

theorem conditionsText_clauses {condition : Condition} {conditions : List Condition}
    (writable : ∀ listed ∈ condition :: conditions, listed.IsWritable) :
    ClausesText (condition :: conditions) (conditionsText (condition :: conditions)) := by
  have first := (writable condition List.mem_cons_self).clauseText
  induction conditions generalizing condition with
  | nil => exact .last first
  | cons next rest ih =>
      have later : ∀ listed ∈ next :: rest, listed.IsWritable :=
        fun listed member => writable listed (List.mem_cons_of_mem _ member)
      exact .cons first blank_space (ih later (later next List.mem_cons_self).clauseText)

/-- What is written is read as the same conditions. -/
theorem readConditions_conditionsText {conditions : List Condition} (nonempty : conditions ≠ [])
    (writable : ∀ condition ∈ conditions, condition.IsWritable) :
    readConditions (String.ofList (conditionsText conditions)) = .ok conditions := by
  obtain ⟨first, rest, rfl⟩ := List.exists_cons_of_ne_nil nonempty
  apply readConditions_of_written
  rw [String.toList_ofList]
  exact ⟨[], _, [], .nil, .nil, by simp, conditionsText_clauses writable⟩

/-! ## What is written is one line -/

theorem IsWritable.target_isLine {condition : Condition} (writable : condition.IsWritable) :
    IsLine condition.target.name.toList := by
  have quote : IsLine "\"".toList := .of_all (by decide)
  cases target : condition.target with
  | field part => cases part <;> exact .of_all (by decide)
  | header name =>
      rw [Target.name, String.toList_append, String.toList_append]
      exact (quote.append (writable.header name target).2).append quote

theorem IsWritable.clauseText_isLine {condition : Condition} (writable : condition.IsWritable) :
    IsLine (Condition.clauseText condition) := by
  have combinator : IsLine (combinatorText condition.combinator) := by
    cases condition.combinator <;> exact .of_all (by decide)
  have comparator : IsLine condition.comparator.name.toList := by
    cases condition.comparator <;> exact .of_all (by decide)
  have quote : IsLine ['"'] := .of_all (by decide)
  have search : IsLine (Condition.searchText condition.search.toList) := by
    unfold Condition.searchText
    split
    · exact writable.line
    · exact quote.append (writable.line.append quote)
  have opening : IsLine [' ', '('] := .of_all (by decide)
  have comma : IsLine [','] := .of_all (by decide)
  have closing : IsLine [')'] := .of_all (by decide)
  exact combinator.append (opening.append (writable.target_isLine.append (comma.append
    (comparator.append (comma.append (search.append closing))))))

theorem conditionsText_isLine {conditions : List Condition}
    (writable : ∀ condition ∈ conditions, condition.IsWritable) :
    IsLine (conditionsText conditions) := by
  refine joinWith_forall (by simp) ?_
  intro clause member
  obtain ⟨condition, listed, rfl⟩ := List.mem_map.mp member
  exact (writable condition listed).clauseText_isLine

end MailFilters.Condition
