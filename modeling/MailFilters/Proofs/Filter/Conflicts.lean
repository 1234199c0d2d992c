import MailFilters.Condition.Clause
import MailFilters.Proofs.Action
import MailFilters.Proofs.Filter.Effects

/-!
# Labels that are added and removed

Nothing keeps a filter from adding a label that it removes.  A rule removes system labels only, and
adds one of them by a junk score, or by a path that the directory has under the id of one.

* **`Rule.Files`** — a rule files messages under an id.
* **`Rule.Contradicts`** — the actions of a rule that add and remove one label.
* **`Rule.filter_conflicts_iff`** — a filter adds and removes exactly the labels that the actions of
  its rule contradict each other about.
-/

namespace MailFilters

/-- A path of a rule has an id among some labels. -/
def Rule.Files (tags : TagTable) (labels : List Label) (rule : Rule) (id : String) : Prop :=
  ∃ path ∈ rule.paths tags, Directory.search path false labels = some id

/-- Actions of a rule of which one adds and one removes the same label: the rule moves messages
into the inbox, sets both junk scores or files messages as junk that it takes for good ones, or
marks messages as read and files them as unread. -/
inductive Rule.Contradicts (tags : TagTable) (labels : List Label) (rule : Rule) : String → Prop
  | inbox {folder : Folder} : .moveTo folder ∈ rule.actions →
      rule.Files tags labels SystemLabel.inbox → Contradicts tags labels rule SystemLabel.inbox
  | spam : .junkScore 0 ∈ rule.actions →
      (.junkScore 100 ∈ rule.actions ∨ rule.Files tags labels SystemLabel.spam) →
      Contradicts tags labels rule SystemLabel.spam
  | unread : .markRead ∈ rule.actions → rule.Files tags labels SystemLabel.unread →
      Contradicts tags labels rule SystemLabel.unread

/-! ## Ids of paths -/

/-- Labels with ids of new ones have no part in what is found under a plain id. -/
theorem Directory.search_plain {path id : String} {labels created : List Label} (plain : Plain id)
    (new : ∀ label ∈ created, ¬ Plain label.id) :
    search path false (labels ++ created) = some id ↔ search path false labels = some id := by
  constructor
  · intro found
    rw [search_append] at found
    cases here : search path false labels with
    | some other => rw [here, Option.some_or] at found; exact found
    | none =>
        rw [here, Option.none_or] at found
        obtain ⟨label, member, rfl, _⟩ := search_some found
        exact absurd plain (new label member)
  · intro found
    exact search_extend found created

/-- A rule whose paths all have labels files messages under the ids of these. -/
theorem Rule.files_iff {tags : TagTable} {labels : List Label} {rule : Rule} {id : String}
    (found : AllFound labels (rule.paths tags)) :
    rule.Files tags labels id ↔ ∃ path ∈ rule.paths tags, idIn labels path = id := by
  constructor
  · intro files
    obtain ⟨path, member, here⟩ := files
    exact ⟨path, member, by rw [idIn, here]; rfl⟩
  · intro named
    obtain ⟨path, member, rfl⟩ := named
    obtain ⟨id, here⟩ := found path member
    exact ⟨path, member, by rw [idIn, here]; rfl⟩

/-! ## Labels of actions -/

/-- The labels that a rule adds: those of its paths, and system labels for some of its actions. -/
theorem Rule.mem_addedLabels {tags : TagTable} {idOf : String → String} {rule : Rule} {id : String} :
    id ∈ rule.addedLabels tags idOf ↔
      (∃ path ∈ rule.paths tags, idOf path = id) ∨
        (.delete ∈ rule.actions ∧ id = SystemLabel.trash) ∨
        (.junkScore 100 ∈ rule.actions ∧ id = SystemLabel.spam) ∨
        (.addTag TagTable.important ∈ rule.actions ∧ id = SystemLabel.important) := by
  simp only [addedLabels, paths, List.mem_append, List.mem_filterMap]
  constructor
  · intro added
    rcases added with ⟨action, member, label⟩ | ⟨action, member, label⟩
    · cases action with
      | copyTo folder =>
          exact .inl ⟨folder.path, .inl ⟨_, member, rfl⟩, Option.some.inj label⟩
      | moveTo folder =>
          exact .inl ⟨folder.path, .inl ⟨_, member, rfl⟩, Option.some.inj label⟩
      | delete => exact .inr (.inl ⟨member, (Option.some.inj label).symm⟩)
      | junkScore score =>
          by_cases full : score = 100
          · subst full
            exact .inr (.inr (.inl ⟨member, (Option.some.inj label).symm⟩))
          · simp [Action.label?, full] at label
      | _ => simp [Action.label?] at label
    · cases action with
      | addTag tag =>
          by_cases important : tag = TagTable.important
          · subst important
            exact .inr (.inr (.inr ⟨member, (Option.some.inj label).symm⟩))
          · rw [Action.tagLabel?, if_neg important] at label
            split at label
            · next plain =>
                refine .inl ⟨tags.nameOf tag, .inr ⟨_, member, ?_⟩, Option.some.inj label⟩
                rw [Action.tagPath?, if_neg important, if_pos plain]
            · simp at label
      | _ => simp [Action.tagLabel?] at label
  · intro named
    rcases named with ⟨path, ⟨action, member, here⟩ | ⟨action, member, here⟩, rfl⟩ |
      ⟨member, rfl⟩ | ⟨member, rfl⟩ | ⟨member, rfl⟩
    · refine .inl ⟨action, member, ?_⟩
      cases action <;> simp_all [Action.folderPath?, Action.label?]
    · refine .inr ⟨action, member, ?_⟩
      cases action with
      | addTag tag =>
          rw [Action.tagPath?] at here
          split at here
          · simp at here
          · next other =>
              split at here
              · next plain =>
                  rw [Action.tagLabel?, if_neg other, if_pos plain, Option.some.inj here]
              · simp at here
      | _ => simp [Action.tagPath?] at here
    · exact .inl ⟨_, member, rfl⟩
    · exact .inl ⟨_, member, rfl⟩
    · exact .inr ⟨_, member, rfl⟩

theorem Rule.mem_removedLabels {rule : Rule} {id : String} :
    id ∈ rule.actions.filterMap Action.removed? ↔
      ((∃ folder, .moveTo folder ∈ rule.actions) ∧ id = SystemLabel.inbox) ∨
        (.junkScore 0 ∈ rule.actions ∧ id = SystemLabel.spam) ∨
        (.markRead ∈ rule.actions ∧ id = SystemLabel.unread) := by
  rw [List.mem_filterMap]
  constructor
  · intro removed
    obtain ⟨action, member, label⟩ := removed
    cases action with
    | moveTo folder => exact .inl ⟨⟨folder, member⟩, (Option.some.inj label).symm⟩
    | junkScore score =>
        by_cases zero : score = 0
        · subst zero
          exact .inr (.inl ⟨member, (Option.some.inj label).symm⟩)
        · simp [Action.removed?, zero] at label
    | markRead => exact .inr (.inr ⟨member, (Option.some.inj label).symm⟩)
    | _ => simp [Action.removed?] at label
  · intro named
    rcases named with ⟨⟨folder, member⟩, rfl⟩ | ⟨member, rfl⟩ | ⟨member, rfl⟩
    · exact ⟨_, member, rfl⟩
    · exact ⟨_, member, rfl⟩
    · exact ⟨_, member, rfl⟩

/-- A rule adds and removes the labels that its actions contradict each other about. -/
theorem Rule.conflicts_iff {tags : TagTable} {labels : List Label} {rule : Rule} {id : String}
    (found : AllFound labels (rule.paths tags)) :
    (id ∈ rule.addedLabels tags (idIn labels) ∧ id ∈ rule.actions.filterMap Action.removed?) ↔
      rule.Contradicts tags labels id := by
  rw [mem_addedLabels, mem_removedLabels, ← files_iff found]
  constructor
  · intro conflict
    obtain ⟨added, removed⟩ := conflict
    rcases removed with ⟨⟨folder, moves⟩, rfl⟩ | ⟨scored, rfl⟩ | ⟨marks, rfl⟩
    · have files : rule.Files tags labels SystemLabel.inbox := by
        simpa [SystemLabel.inbox, SystemLabel.trash, SystemLabel.spam, SystemLabel.important]
          using added
      exact .inbox moves files
    · refine .spam scored ?_
      rcases added with files | ⟨_, other⟩ | ⟨full, _⟩ | ⟨_, other⟩
      · exact .inr files
      · simp [SystemLabel.spam, SystemLabel.trash] at other
      · exact .inl full
      · simp [SystemLabel.spam, SystemLabel.important] at other
    · have files : rule.Files tags labels SystemLabel.unread := by
        simpa [SystemLabel.unread, SystemLabel.trash, SystemLabel.spam, SystemLabel.important]
          using added
      exact .unread marks files
  · intro contradicts
    cases contradicts with
    | inbox moves files => exact ⟨.inl files, .inl ⟨⟨_, moves⟩, rfl⟩⟩
    | spam scored cause =>
        refine ⟨?_, .inr (.inl ⟨scored, rfl⟩)⟩
        rcases cause with full | files
        · exact .inr (.inr (.inl ⟨full, rfl⟩))
        · exact .inl files
    | unread marks files => exact ⟨.inl files, .inr (.inr ⟨marks, rfl⟩)⟩

/-- Labels with ids of new ones make no contradiction. -/
theorem Rule.contradicts_grown {tags : TagTable} {labels created : List Label} {rule : Rule}
    {id : String} (new : ∀ label ∈ created, ¬ Plain label.id) :
    rule.Contradicts tags (labels ++ created) id ↔ rule.Contradicts tags labels id := by
  have same : ∀ system ∈ SystemLabel.all,
      (rule.Files tags (labels ++ created) system ↔ rule.Files tags labels system) := by
    intro system listed
    simp only [Files, Directory.search_plain (systemLabel_plain system listed) new]
  have inbox := same SystemLabel.inbox (by decide)
  have spam := same SystemLabel.spam (by decide)
  have unread := same SystemLabel.unread (by decide)
  constructor
  · intro contradicts
    cases contradicts with
    | inbox moves files => exact .inbox moves (inbox.mp files)
    | spam scored cause => exact .spam scored (cause.imp_right spam.mp)
    | unread marks files => exact .unread marks (unread.mp files)
  · intro contradicts
    cases contradicts with
    | inbox moves files => exact .inbox moves (inbox.mpr files)
    | spam scored cause => exact .spam scored (cause.imp_right spam.mpr)
    | unread marks files => exact .unread marks (unread.mpr files)

/-! ## Filters -/

/-- Without faults a filter has the effect that the actions of its rule describe. -/
theorem Rule.filter_describes {mode : Mode} {tags : TagTable} {rule : Rule}
    {session after : Session} {made : RuleFilter} (serves : session.Serves)
    (ran : rule.filter mode tags session = (.ok made, after)) :
    ∃ created, (∀ label ∈ created, ¬ Plain label.id) ∧
      rule.Describes tags (session.directory mode ++ created) made.filter.effect := by
  cases searched : rule.query with
  | error obstacle =>
      rw [Rule.filter_unsearched searched] at ran
      simp at ran
  | ok query =>
      by_cases unfit : rule.IsUnfit
      · obtain ⟨obstacle, _, stops⟩ := Rule.effect_unfit mode tags serves unfit
        rw [Rule.filter_stopped searched (Prod.ext stops rfl)] at ran
        simp at ran
      · obtain ⟨effect, middle, created, acted, _, grown, new, describes⟩ :=
          Rule.effect_fit mode tags serves unfit
        rw [Rule.filter_acted searched acted] at ran
        obtain ⟨made, _⟩ := Prod.mk.inj ran
        refine ⟨created, new, ?_⟩
        rw [← Except.ok.inj made, ← grown]
        exact describes

/-- **Conflicts.** Without faults a filter adds and removes the same label exactly if the actions of
its rule contradict each other about it, given the labels that the directory has at the start. -/
theorem Rule.filter_conflicts_iff (mode : Mode) (tags : TagTable) (rule : Rule)
    {session after : Session} {made : RuleFilter} (serves : session.Serves)
    (ran : rule.filter mode tags session = (.ok made, after)) (id : String) :
    (id ∈ made.filter.effect.addLabels ∧ id ∈ made.filter.effect.removeLabels) ↔
      rule.Contradicts tags (session.directory mode) id := by
  obtain ⟨created, new, describes⟩ := Rule.filter_describes serves ran
  rw [describes.added, describes.removed, List.mem_eraseDups, List.mem_eraseDups,
    Rule.conflicts_iff describes.found, Rule.contradicts_grown new]

/-- A rule that moves messages into a folder with the name of the inbox. -/
theorem Rule.filter_conflicts_inbox :
    let session : Session := { account := { labels := [⟨"INBOX", "INBOX"⟩] } }
    let rule : Rule :=
      { name := "a"
        criteria := { conditions := [⟨.and, .field .subject, .contains, "x"⟩] }
        actions := [.moveTo ⟨"h", none, "u", ["Inbox"]⟩] }
    session.Serves ∧ ∃ made after, rule.filter .real TagTable.initial session = (.ok made, after) ∧
      ((SystemLabel.inbox ∈ made.filter.effect.addLabels ∧
          SystemLabel.inbox ∈ made.filter.effect.removeLabels) ↔
        rule.Contradicts TagTable.initial (session.directory .real) SystemLabel.inbox) := by
  intro session rule
  have serves : session.Serves := ⟨by simp [Silent, session], by simp [Silent, session]⟩
  have ran : rule.filter .real TagTable.initial session =
      (.ok ⟨rule, ⟨"subject:\"x\"", ⟨["INBOX"], ["INBOX"], none⟩⟩⟩,
        (rule.filter .real TagTable.initial session).2) := Prod.ext (by decide +kernel) rfl
  exact ⟨serves, _, _, ran, Rule.filter_conflicts_iff .real TagTable.initial rule serves ran _⟩

/-- A rule that was read with both junk scores adds and removes the label for junk. -/
theorem junkScores_conflict :
    let session : Session := { account := {} }
    let rule : Rule :=
      { name := "a"
        criteria := { conditions := [⟨.and, .field .subject, .contains, "x"⟩] }
        actions := [.junkScore 0, .junkScore 100] }
    Condition.readConditions "AND (subject,contains,x)" = .ok rule.criteria.conditions ∧
      Action.read "JunkScore" (some "0") = .ok (.junkScore 0) ∧
      Action.read "JunkScore" (some "100") = .ok (.junkScore 100) ∧ session.Serves ∧
      ∃ made after, rule.filter .real TagTable.initial session = (.ok made, after) ∧
        SystemLabel.spam ∈ made.filter.effect.addLabels ∧
        SystemLabel.spam ∈ made.filter.effect.removeLabels := by
  intro session rule
  have serves : session.Serves := ⟨by simp [Silent, session], by simp [Silent, session]⟩
  have ran : rule.filter .real TagTable.initial session =
      (.ok ⟨rule, ⟨"subject:\"x\"", ⟨["SPAM"], ["SPAM"], none⟩⟩⟩,
        (rule.filter .real TagTable.initial session).2) := Prod.ext (by decide +kernel) rfl
  exact ⟨by decide +kernel, by decide +kernel, by decide +kernel, serves, _, _, ran, by decide,
    by decide⟩

end MailFilters
