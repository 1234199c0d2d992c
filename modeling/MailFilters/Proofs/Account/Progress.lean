import MailFilters.Account.Session
import MailFilters.Filter.Plan
import MailFilters.Proofs.Account.Requests
import MailFilters.Text.LetterCase

/-!
# Progress of a session

What activities in one mode do to a session, and what all of them keep.

* **`Session.Coherent`** — what real activities know of the labels is what the account has.
* **`Account.Fits`** — the requests that suit an account: new labels have a new name and stand below
  labels that are there, filters add labels that are there.
* **`Progress`** — a session gets from one state to another by requests of one mode: the other mode
  knows what it knew, the labels are got once, and a coherent session stays so, with requests that
  fit only.  Progress can be put together (`Progress.trans`).
-/

namespace MailFilters

/-- The labels that every account has. -/
def SystemLabel.all : List String := [inbox, important, spam, trash, unread]

/-- Whether activities in a mode may make a request: a dry run only looks. -/
def Mode.Allows : Mode → Call → Prop
  | .real, _ => True
  | .dry, call => call = .listLabels

/-- The requests that suit an account: a new label has a name that no other label has in any letter
case, and its parents are there; a filter adds labels that are there. -/
def Account.Fits (account : Account) : Call → Prop
  | .listLabels => True
  | .createLabel name =>
    (∀ label ∈ account.labels, Text.sameLetters label.name name = false) ∧
      ∀ parent below, name = parent ++ "/" ++ below →
        ∃ label ∈ account.labels, Text.sameLetters label.name parent = true
  | .createFilter filter =>
    ∀ id ∈ filter.effect.addLabels,
      id ∈ SystemLabel.all ∨ ∃ label ∈ account.labels, label.id = id

/-- What real activities know of the labels is what the account has. -/
def Session.Coherent (session : Session) : Prop :=
  ∀ labels, session.realLabels = some labels → labels = session.account.labels

namespace Session

@[simp] theorem known_setKnown (session : Session) (labels : List Label) (mode : Mode) :
    (session.setKnown labels mode).known mode = some labels := by cases mode <;> rfl

theorem known_setKnown_of_ne (session : Session) (labels : List Label) {mode other : Mode}
    (different : other ≠ mode) :
    (session.setKnown labels mode).known other = session.known other := by
  cases mode <;> cases other <;> first | rfl | exact absurd rfl different

@[simp] theorem account_setKnown (session : Session) (labels : List Label) (mode : Mode) :
    (session.setKnown labels mode).account = session.account := by cases mode <;> rfl

end Session

theorem Session.Coherent.of_same {first second : Session} (coherent : first.Coherent)
    (labels : second.account.labels = first.account.labels)
    (known : second.realLabels = first.realLabels) : second.Coherent := by
  intro knownLabels equal
  rw [labels]
  exact coherent knownLabels (known ▸ equal)

/-- A sequence of one request splits in one way only. -/
theorem Call.single_split {call other : Call} {earlier later : List Call}
    (split : [call] = earlier ++ other :: later) : earlier = [] ∧ other = call ∧ later = [] := by
  cases earlier with
  | nil =>
      obtain ⟨rfl, rfl⟩ := List.cons.inj split
      exact ⟨rfl, rfl, rfl⟩
  | cons first earlier => simp at split

/-- A session gets from one state to another by activities in a mode, which make some requests. -/
structure Progress (mode : Mode) (before after : Session) (calls : List Call) : Prop where
  replay : after.account = before.account.afterAll calls
  allowed : ∀ call ∈ calls, mode.Allows call
  apart : ∀ other, other ≠ mode → after.known other = before.known other
  settled : ∀ labels, before.known mode = some labels →
    (∃ added, after.known mode = some (labels ++ added)) ∧ .listLabels ∉ calls
  once : ∀ earlier later, calls = earlier ++ .listLabels :: later →
    (before.account.afterAll earlier).faultOf .listLabels = none →
      (after.known mode).isSome ∧ .listLabels ∉ later
  coherent : before.Coherent → after.Coherent ∧ before.account.Always Account.Fits calls

namespace Progress

variable {mode : Mode} {first second third : Session} {xs ys : List Call}

/-- Nothing is asked for, and the labels stay what they are known as. -/
theorem idle (account : second.account = first.account)
    (known : second.known = first.known) : Progress mode first second [] where
  replay := account
  allowed := by simp
  apart := by simp [known]
  settled labels knows := ⟨⟨[], by simpa [known] using knows⟩, by simp⟩
  once := by simp
  coherent coherent := ⟨coherent.of_same (by rw [account]) (congrFun known .real), trivial⟩

theorem refl (session : Session) : Progress mode session session [] := idle rfl rfl

theorem trans (front : Progress mode first second xs) (back : Progress mode second third ys) :
    Progress mode first third (xs ++ ys) where
  replay := by rw [back.replay, front.replay, Account.afterAll_append]
  allowed := List.forall_mem_append.mpr ⟨front.allowed, back.allowed⟩
  apart other different := (back.apart other different).trans (front.apart other different)
  settled labels knows := by
    obtain ⟨⟨added, knows'⟩, unlisted⟩ := front.settled labels knows
    obtain ⟨⟨more, knows''⟩, unlisted'⟩ := back.settled _ knows'
    exact ⟨⟨added ++ more, by rw [knows'', List.append_assoc]⟩,
      fun member => (List.mem_append.mp member).elim unlisted unlisted'⟩
  once := by
    intro earlier later split granted
    -- the listing is one of the later requests or one of the earlier ones
    rcases List.append_eq_append_iff.mp split with ⟨between, rfl, rest⟩ | ⟨between, same, rest⟩
    · rw [Account.afterAll_append, ← front.replay] at granted
      exact back.once between later rest granted
    · cases between with
      | nil =>
          rw [List.append_nil] at same
          rw [← same, ← front.replay] at granted
          exact back.once [] later rest.symm granted
      | cons call between =>
          obtain ⟨rfl, rfl⟩ := List.cons.inj rest
          obtain ⟨known, unlisted⟩ := front.once earlier between same granted
          obtain ⟨labels, knows⟩ := Option.isSome_iff_exists.mp known
          obtain ⟨⟨added, knows'⟩, unlisted'⟩ := back.settled labels knows
          exact ⟨by simp [knows'],
            fun member => (List.mem_append.mp member).elim unlisted unlisted'⟩
  coherent := by
    intro coherent
    obtain ⟨middle, fits⟩ := front.coherent coherent
    obtain ⟨final, fits'⟩ := back.coherent middle
    refine ⟨final, Account.always_append.mpr ⟨fits, ?_⟩⟩
    rw [← front.replay]
    exact fits'

/-- Lines of the log and names of rules are no progress. -/
theorem noted (progress : Progress mode first second xs) (log : Log) (handled : List String) :
    Progress mode first { second with log, handled } xs := by
  have silent : Progress mode second { second with log, handled } [] := idle rfl rfl
  simpa using progress.trans silent

/-- Dry activities leave the labels of an account as they are. -/
theorem dry_labels (progress : Progress .dry first second xs) :
    second.account.labels = first.account.labels := by
  have looks : ∀ call ∈ xs, call = .listLabels := progress.allowed
  rw [progress.replay, Account.afterAll_labels, Account.created_of_looks looks, List.append_nil]

/-! ## Single requests -/

/-- The labels are asked for and not given. -/
theorem refused {fault : Fault} (failed : first.account.faultOf .listLabels = some fault)
    (account : second.account = first.account.after .listLabels)
    (known : second.known = first.known) (unknown : first.known mode = none) :
    Progress mode first second [.listLabels] where
  replay := account
  allowed := by cases mode <;> simp [Mode.Allows]
  apart := by simp [known]
  settled := by simp [unknown]
  once := by
    intro earlier later split granted
    obtain ⟨rfl, _, _⟩ := Call.single_split split
    simp [failed] at granted
  coherent coherent := by
    refine ⟨coherent.of_same ?_ (congrFun known .real), trivial, trivial⟩
    rw [account, Account.after_labels, Account.newLabels, List.append_nil]

/-- The labels are asked for and given. -/
theorem listed (account : second.account = first.account.after .listLabels)
    (unknown : first.known mode = none) (known : second.known mode = some first.account.labels)
    (apart : ∀ other, other ≠ mode → second.known other = first.known other) :
    Progress mode first second [.listLabels] where
  replay := account
  allowed := by cases mode <;> simp [Mode.Allows]
  apart := apart
  settled := by simp [unknown]
  once := by
    intro earlier later split _
    obtain ⟨_, _, rfl⟩ := Call.single_split split
    simp [known]
  coherent coherent := by
    have same : second.account.labels = first.account.labels := by
      rw [account, Account.after_labels, Account.newLabels, List.append_nil]
    refine ⟨?_, trivial, trivial⟩
    cases mode with
    | real =>
        intro labels knownLabels
        rw [same]
        exact Option.some.inj (knownLabels.symm.trans known)
    | dry => exact coherent.of_same same (apart .real (by simp))

/-- A real activity asks for a label, and takes note of it if it is given. -/
theorem asked {name : String} {labels : List Label}
    (account : second.account = first.account.after (.createLabel name))
    (known : first.realLabels = some labels)
    (noted : second.realLabels = some (labels ++ first.account.newLabels (.createLabel name)))
    (apart : second.dryLabels = first.dryLabels)
    (fits : first.Coherent → first.account.Fits (.createLabel name)) :
    Progress .real first second [.createLabel name] where
  replay := account
  allowed := by simp [Mode.Allows]
  apart other different := by
    cases other with
    | real => exact absurd rfl different
    | dry => exact apart
  settled labels' knows := by
    obtain rfl := Option.some.inj (known.symm.trans knows)
    exact ⟨⟨_, noted⟩, by simp⟩
  once := by
    intro earlier later split
    cases (Call.single_split split).2.1
  coherent coherent := by
    refine ⟨?_, fits coherent, trivial⟩
    intro knownLabels equal
    rw [account, Account.after_labels, ← coherent labels known]
    exact Option.some.inj (equal.symm.trans noted)

/-- A dry activity takes note of a label that it only announces. -/
theorem announced {labels : List Label} {label : Label}
    (account : second.account = first.account)
    (known : first.dryLabels = some labels)
    (noted : second.dryLabels = some (labels ++ [label]))
    (apart : second.realLabels = first.realLabels) : Progress .dry first second [] where
  replay := account
  allowed := by simp
  apart other different := by
    cases other with
    | real => exact apart
    | dry => exact absurd rfl different
  settled labels' knows := by
    obtain rfl := Option.some.inj (known.symm.trans knows)
    exact ⟨⟨_, noted⟩, by simp⟩
  once := by simp
  coherent coherent := ⟨coherent.of_same (by rw [account]) apart, trivial⟩

/-- A real activity asks for a filter. -/
theorem submitted {filter : Filter}
    (account : second.account = first.account.after (.createFilter filter))
    (known : second.known = first.known)
    (fits : first.Coherent → first.account.Fits (.createFilter filter)) :
    Progress .real first second [.createFilter filter] where
  replay := account
  allowed := by simp [Mode.Allows]
  apart := by simp [known]
  settled labels knows := ⟨⟨[], by simpa [known] using knows⟩, by simp⟩
  once := by
    intro earlier later split
    cases (Call.single_split split).2.1
  coherent coherent := by
    refine ⟨coherent.of_same ?_ (congrFun known .real), fits coherent, trivial⟩
    rw [account, Account.after_labels, Account.newLabels, List.append_nil]

end Progress

end MailFilters
