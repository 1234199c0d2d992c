import MailFilters.Condition.Query
import MailFilters.Proofs.Condition.QueryGrammar
import MailFilters.Proofs.Date

/-!
# Conditions on the date

A message is from before a day if the search text of the condition is that day.

* **`earlier_query`** — the search for such a condition has the day in digits of fixed width.
* **`earlier_ordered`** — the searches for two such conditions are ordered as their days are.
* **`dates_searched`** — the texts that are days, and what is searched for them.
-/

namespace MailFilters.Condition

open MailFilters.Query (IsNumber)

/-- The condition that a message is from before the day that a text names. -/
def earlier (combinator : Combinator) (search : String) : Condition :=
  ⟨combinator, .field .date, .isBefore, search⟩

/-- A day as it is searched for: the year in four digits, the month and the day in two. -/
def IsDayText (date : Date) (text : String) : Prop :=
  ∃ year month day : String, text = "before:" ++ year ++ "/" ++ month ++ "/" ++ day ∧
    IsNumber 4 year.toList date.year ∧ IsNumber 2 month.toList date.month ∧
    IsNumber 2 day.toList date.day

variable {search search' text text' : String} {date date' : Date}

theorem earlier_query (read : Date.read? search = some date) (combinator : Combinator) :
    (earlier combinator search).query = .ok ("before:" ++ date.render) := by
  show (earlier combinator search).dateQuery = _
  have sought : Date.read? (earlier combinator search).search = some date := read
  rw [dateQuery, sought]
  rfl

theorem render_isDayText (read : Date.read? search = some date) :
    IsDayText date ("before:" ++ date.render) := by
  obtain ⟨year, month, day⟩ := Date.read?_bounds read
  refine ⟨_, _, _, ?_, .padded year (by decide), .padded month (by decide),
    .padded day (by decide)⟩
  simp only [Date.render, String.append_assoc]

/-- The searches for two days are the same only for the same day and ordered as the days are. -/
theorem earlier_ordered (read : Date.read? search = some date)
    (read' : Date.read? search' = some date') {combinator combinator' : Combinator}
    (searched : (earlier combinator search).query = .ok text)
    (searched' : (earlier combinator' search').query = .ok text') :
    (text = text' ↔ date = date') ∧ (text < text' ↔ date.Precedes date') := by
  rw [earlier_query read, Except.ok.injEq] at searched
  rw [earlier_query read', Except.ok.injEq] at searched'
  have fits := Date.read?_bounds read
  have fits' := Date.read?_bounds read'
  subst searched searched'
  constructor
  · rw [← Date.render_inj fits fits', ← String.toList_inj, String.toList_append,
      String.toList_append, List.append_cancel_left_eq, String.toList_inj]
  · rw [← Date.render_lt_iff fits fits', String.lt_iff, String.lt_iff, String.toList_append,
      String.toList_append, Text.append_lt_append_iff rfl, or_iff_right (List.lt_irrefl _)]
    exact and_iff_right rfl

/-- **Days.** A text is read as a day exactly if it is written as one of the calendar.  The search
for what is before it has the day in digits of fixed width, so other days have other searches, and
the order of the searches is the order of the days. -/
theorem dates_searched (search : String) (date : Date) :
    (Date.read? search = some date ↔ date.WrittenIn search.toList) ∧
    (Date.read? search = some date →
      (∃ text, IsDayText date text ∧
        ∀ combinator, (earlier combinator search).query = .ok text) ∧
      ∀ search' date' combinator combinator' text text', Date.read? search' = some date' →
        (earlier combinator search).query = .ok text →
        (earlier combinator' search').query = .ok text' →
        (text = text' ↔ date = date') ∧ (text < text' ↔ date.Precedes date')) := by
  refine ⟨Date.read?_eq_some_iff, ?_⟩
  intro read
  refine ⟨⟨_, render_isDayText read, earlier_query read⟩, ?_⟩
  intro search' date' combinator combinator' text text' read' searched searched'
  exact earlier_ordered read read' searched searched'

/-- A leap day with its number in Arabic digits, and the day after it. -/
theorem dates_searched_leap :
    Date.read? " ٢٩-fEb-2024" = some ⟨2024, 2, 29⟩ ∧ Date.read? "1-MAR-2024" = some ⟨2024, 3, 1⟩ ∧
      (earlier .and " ٢٩-fEb-2024").query = .ok "before:2024/02/29" ∧
      (earlier .or "1-MAR-2024").query = .ok "before:2024/03/01" ∧
      "before:2024/02/29" < "before:2024/03/01" := by
  have leap : Date.read? " ٢٩-fEb-2024" = some ⟨2024, 2, 29⟩ := by decide +kernel
  have after : Date.read? "1-MAR-2024" = some ⟨2024, 3, 1⟩ := by decide +kernel
  have searched : (earlier .and " ٢٩-fEb-2024").query = .ok "before:2024/02/29" := by
    decide +kernel
  have searched' : (earlier .or "1-MAR-2024").query = .ok "before:2024/03/01" := by
    decide +kernel
  have precedes : Date.Precedes ⟨2024, 2, 29⟩ ⟨2024, 3, 1⟩ := .inr ⟨rfl, .inl (by decide)⟩
  have ordered := ((dates_searched _ _).2 leap).2 _ _ _ _ _ _ after searched searched'
  exact ⟨leap, after, searched, searched', ordered.2.mpr precedes⟩

end MailFilters.Condition
