import MailFilters.Proofs.Condition.QueryGrammar
import MailFilters.Proofs.Condition.Uniform
import MailFilters.Proofs.Date
import MailFilters.Result
import Mathlib.Data.List.Forall2

/-!
# What queries mean

The search of criteria, read back, is the conjunction or the disjunction of what their conditions
say.

* **`tree?`** — what a condition says as a search.
* **`query_reads`** — the search of one condition is one expression for what it says.
* **`criteria_query_reads`** — the search of criteria reads as one tree, whichever combinator binds
  tighter, and no search text changes more of it than its own literals.
-/

namespace MailFilters.Query

open MailFilters.Criteria (Reachable)

/-! ## What conditions say -/

/-- The text that a literal can hold of a search text. -/
def literalText (search : String) : List Char := search.toList.filter (· != '"')

/-- What a condition says about the text behind a key. -/
def termTree (condition : Condition) (key : Key) : Tree :=
  if condition.comparator = .doesntContain then .not (.term key (literalText condition.search))
  else .term key (literalText condition.search)

/-- What a condition says; nothing if there is no search for its target. -/
def tree? (condition : Condition) : Option Tree :=
  match condition.target with
  | .field .sender => some (termTree condition .sender)
  | .field .to => some (termTree condition .to)
  | .field .cc => some (termTree condition .cc)
  | .field .toOrCc => some (.any ([.to, .cc].map (termTree condition)))
  | .field .allAddresses => some (.any ([.sender, .to, .cc, .bcc].map (termTree condition)))
  | .field .subject => some (termTree condition .subject)
  | .field .body => some (termTree condition .body)
  | .field .date => (Date.read? condition.search).map .before
  | .field .junkStatus | .header _ => none

/-! ## Chains of one combinator -/

theorem join_single (combinator : Combinator) (tree : Tree) :
    Tree.join combinator [tree] = tree := by
  cases combinator <;> rfl

theorem assemble_single (tight : Combinator) (tree : Tree) : assemble tight tree [] = tree := by
  show Tree.join (other tight) [Tree.join tight [tree]] = tree
  rw [join_single, join_single]

/-- A chain of the tighter combinator is one run. -/
theorem runs_tight (tight : Combinator) (first : Tree) (rest : List Tree) :
    runs tight first (rest.map (tight, ·)) = (first :: rest, []) := by
  induction rest generalizing first with
  | nil => rfl
  | cons next rest ih =>
      rw [List.map_cons, runs, ih]
      exact if_pos rfl

/-- In a chain of the other combinator each tree is a run of its own. -/
theorem runs_loose {tight combinator : Combinator} (loose : combinator ≠ tight) (first : Tree)
    (rest : List Tree) :
    runs tight first (rest.map (combinator, ·)) = ([first], rest.map ([·])) := by
  induction rest generalizing first with
  | nil => rfl
  | cons next rest ih =>
      rw [List.map_cons, runs, ih]
      exact if_neg loose

/-- **No precedence.** In a chain of one combinator nothing depends on which one binds tighter. -/
theorem assemble_uniform (tight combinator : Combinator) (first : Tree) (rest : List Tree) :
    assemble tight first (rest.map (combinator, ·)) = .join combinator (first :: rest) := by
  unfold assemble
  -- one run of all the trees, or a run for each of them
  by_cases same : combinator = tight
  · rw [same, runs_tight]
    exact join_single _ _
  · have loose : other tight = combinator := by
      cases tight <;> cases combinator <;> first | rfl | exact absurd rfl same
    have singles : ([first] :: rest.map ([·])).map (Tree.join tight) = first :: rest := by
      rw [List.map_cons, List.map_map, join_single]
      congr 1
      exact (List.map_congr_left fun tree _ => join_single tight tree).trans (List.map_id rest)
    rw [runs_loose same]
    show Tree.join (other tight) (([first] :: rest.map ([·])).map (Tree.join tight)) = _
    rw [singles, loose]

/-- Expressions with one combinator between them are a chain. -/
theorem readsChain_join {tight combinator : Combinator} {s : List Char} {tree : Tree}
    {texts : List (List Char)} {trees : List Tree} (first : ReadsUnit tight s tree)
    (rest : List.Forall₂ (ReadsUnit tight) texts trees) :
    ReadsChain tight (Text.joinWith (linkMark combinator) (s :: texts)) tree
      (trees.map (combinator, ·)) := by
  induction rest generalizing s tree with
  | nil => exact .last first
  | cons next _ ih => exact .link first (ih next)

/-! ## Conditions -/

theorem literalText_free (search : String) : '"' ∉ literalText search := by
  simp [literalText]

theorem literal_toList (search : String) :
    (Condition.literal search).toList = '"' :: (literalText search ++ ['"']) := by
  simp [Condition.literal, literalText]

theorem termQuery_reads {condition : Condition} {key : Key} {mark text : String}
    (marks : mark.toList = key.mark) (rendered : condition.termQuery mark = .ok text)
    (tight : Combinator) : ReadsUnit tight text.toList (termTree condition key) := by
  have term := @ReadsUnit.term tight key _ (literalText_free condition.search)
  have plain : (mark ++ Condition.literal condition.search).toList =
      key.mark ++ '"' :: (literalText condition.search ++ ['"']) := by
    rw [String.toList_append, marks, literal_toList]
  unfold Condition.termQuery at rendered
  unfold termTree
  by_cases negated : condition.comparator = .doesntContain
  · rw [if_neg (by simp [negated, Comparator.isTerm]), if_pos negated, Except.ok.injEq] at rendered
    rw [if_pos negated, ← rendered]
    have unit := ReadsUnit.not (.last term)
    rw [assemble_single] at unit
    rw [String.append_assoc, String.append_assoc, String.toList_append, ← String.append_assoc,
      String.toList_append, plain]
    exact unit
  · split at rendered
    · rw [if_neg negated, ← Except.ok.inj rendered, plain]
      exact term
    · simp at rendered

theorem termQueries_read {condition : Condition} {keys : List Key} {marks texts : List String}
    (marked : marks.map String.toList = keys.map Key.mark)
    (rendered : marks.mapM condition.termQuery = .ok texts) (tight : Combinator) :
    List.Forall₂ (ReadsUnit tight) (texts.map String.toList) (keys.map (termTree condition)) := by
  induction keys generalizing marks texts with
  | nil =>
      obtain rfl := List.map_eq_nil_iff.mp marked
      simp only [List.mapM_nil, Result.pure_eq_ok_iff] at rendered
      rw [← rendered]
      exact .nil
  | cons key keys ih =>
      cases marks with
      | nil => simp at marked
      | cons mark marks =>
          simp only [List.map_cons, List.cons.injEq] at marked
          simp only [List.mapM_cons, Result.bind_eq_ok_iff, Result.pure_eq_ok_iff] at rendered
          obtain ⟨text, first, texts, rest, rfl⟩ := rendered
          exact .cons (termQuery_reads marked.1 first tight) (ih marked.2 rest)

theorem anyQuery_reads {condition : Condition} (key : Key) (keys : List Key)
    {marks : List String} {text : String}
    (marked : marks.map String.toList = (key :: keys).map Key.mark)
    (rendered : condition.anyQuery marks = .ok text) (tight : Combinator) :
    ReadsUnit tight text.toList (.join .or ((key :: keys).map (termTree condition))) := by
  obtain ⟨texts, terms, finish⟩ := Result.bind_eq_ok_iff.mp rendered
  have units := termQueries_read marked terms tight
  rw [Result.pure_eq_ok_iff] at finish
  cases texts with
  | nil => simp at units
  | cons first rest =>
      simp only [List.map_cons, List.forall₂_cons] at units
      have chain := @readsChain_join tight .or _ _ _ _ units.1 units.2
      have unit := ReadsUnit.group chain
      rw [assemble_uniform] at unit
      have parens : ("(" ++ Text.joined " OR " (first :: rest) ++ ")").toList =
          '(' ::
            (Text.joinWith (linkMark .or) (first.toList :: rest.map String.toList) ++ [')']) := by
        rw [String.toList_append, String.toList_append, Text.joined, String.toList_ofList]
        have bars : " OR ".toList = linkMark .or := by decide
        simp [bars]
      rw [← finish, parens]
      exact unit

theorem render_reads {date : Date} (year : date.year < 10 ^ 4) (month : date.month < 10 ^ 2)
    (day : date.day < 10 ^ 2) (tight : Combinator) :
    ReadsUnit tight ("before:" ++ date.render).toList (.before date) := by
  have unit := @ReadsUnit.before tight date _ _ _
    (.padded year (by decide)) (.padded month (by decide)) (.padded day (by decide))
  simpa [Date.render, beforeMark] using unit

theorem dateQuery_reads {condition : Condition} {text : String}
    (rendered : condition.dateQuery = .ok text) :
    ∃ tree, (Date.read? condition.search).map Tree.before = some tree ∧
      ∀ tight, ReadsUnit tight text.toList tree := by
  unfold Condition.dateQuery at rendered
  cases read : Date.read? condition.search with
  | none => simp [read] at rendered
  | some date =>
      simp only [read] at rendered
      split at rendered
      · rw [← Except.ok.inj rendered]
        obtain ⟨year, month, day⟩ := Date.read?_bounds read
        exact ⟨_, rfl, render_reads year month day⟩
      · simp at rendered

/-- The search of a condition is one expression for what the condition says. -/
theorem query_reads {condition : Condition} {text : String}
    (rendered : condition.query = .ok text) :
    ∃ tree, tree? condition = some tree ∧ ∀ tight, ReadsUnit tight text.toList tree := by
  unfold Condition.query at rendered
  unfold tree?
  cases target : condition.target with
  | header name => simp [target] at rendered
  | field part =>
      rw [target] at rendered
      cases part with
      | sender => exact ⟨_, rfl, termQuery_reads (by decide) rendered⟩
      | «to» => exact ⟨_, rfl, termQuery_reads (by decide) rendered⟩
      | cc => exact ⟨_, rfl, termQuery_reads (by decide) rendered⟩
      | toOrCc => exact ⟨_, rfl, anyQuery_reads .to [.cc] (by decide) rendered⟩
      | allAddresses =>
          exact ⟨_, rfl, anyQuery_reads .sender [.to, .cc, .bcc] (by decide) rendered⟩
      | subject => exact ⟨_, rfl, termQuery_reads (by decide) rendered⟩
      | body => exact ⟨_, rfl, termQuery_reads (by decide) rendered⟩
      | date => exact dateQuery_reads rendered
      | junkStatus => simp at rendered

/-! ## Criteria -/

theorem separator_toList (combinator : Combinator) :
    (Criteria.separator combinator).toList = linkMark combinator := by
  cases combinator <;> decide

/-- Conditions behind an expression make a chain of it, a link for each of them. -/
theorem tailQuery_reads {combinator : Combinator} {conditions : List Condition} {text : String}
    (shared : ∀ condition ∈ conditions, condition.combinator = combinator)
    (rendered : Criteria.tailQuery conditions = .ok text) :
    ∃ trees, List.Forall₂ (fun condition tree => tree? condition = some tree) conditions trees ∧
      ∀ {tight : Combinator} {s : List Char} {first : Tree}, ReadsUnit tight s first →
        ReadsChain tight (s ++ text.toList) first (trees.map (combinator, ·)) := by
  -- each fragment is the expression in front of the links behind it
  induction conditions generalizing text with
  | nil =>
      simp only [Criteria.tailQuery, Except.ok.injEq] at rendered
      refine ⟨[], .nil, ?_⟩
      intro tight s first unit
      rw [← rendered, String.toList_empty, List.append_nil]
      exact .last unit
  | cons condition rest ih =>
      obtain ⟨fragment, front, finish⟩ := Result.bind_eq_ok_iff.mp rendered
      obtain ⟨tail, behind, finish⟩ := Result.bind_eq_ok_iff.mp finish
      rw [Result.pure_eq_ok_iff] at finish
      obtain ⟨tree, meaning, next⟩ := query_reads front
      obtain ⟨trees, meanings, chain⟩ :=
        ih (fun other member => shared other (List.mem_cons_of_mem _ member)) behind
      refine ⟨tree :: trees, .cons meaning meanings, ?_⟩
      intro tight s first unit
      rw [← finish, shared condition List.mem_cons_self, String.toList_append,
        String.toList_append, separator_toList, List.append_assoc, ← List.append_assoc]
      exact .link unit (chain (next _))

/-! ## Shapes -/

/-- Trees that differ in the texts of their literals and in their dates at most. -/
inductive SameShape : Tree → Tree → Prop
  | term (key : Key) (text text' : List Char) : SameShape (.term key text) (.term key text')
  | before (date date' : Date) : SameShape (.before date) (.before date')
  | not {tree tree' : Tree} : SameShape tree tree' → SameShape (.not tree) (.not tree')
  | all {trees trees' : List Tree} :
      List.Forall₂ SameShape trees trees' → SameShape (.all trees) (.all trees')
  | any {trees trees' : List Tree} :
      List.Forall₂ SameShape trees trees' → SameShape (.any trees) (.any trees')

/-- Conditions that differ in their search texts at most. -/
structure SameFrame (condition condition' : Condition) : Prop where
  combinator : condition.combinator = condition'.combinator
  target : condition.target = condition'.target
  comparator : condition.comparator = condition'.comparator

theorem termTree_sameShape {condition condition' : Condition}
    (frame : SameFrame condition condition') (key : Key) :
    SameShape (termTree condition key) (termTree condition' key) := by
  unfold termTree
  rw [← frame.comparator]
  split
  · exact .not (.term key _ _)
  · exact .term key _ _

theorem termTrees_sameShape {condition condition' : Condition}
    (frame : SameFrame condition condition') (keys : List Key) :
    List.Forall₂ SameShape (keys.map (termTree condition)) (keys.map (termTree condition')) := by
  induction keys with
  | nil => exact .nil
  | cons key keys ih => exact .cons (termTree_sameShape frame key) ih

theorem SameShape.of_some {left right tree tree' : Tree} (shape : SameShape left right)
    (meaning : some left = some tree) (meaning' : some right = some tree') :
    SameShape tree tree' := by
  obtain rfl := Option.some.inj meaning
  obtain rfl := Option.some.inj meaning'
  exact shape

/-- **No injection.** What a condition says has a shape that its search text has no part in. -/
theorem tree?_sameShape {condition condition' : Condition} {tree tree' : Tree}
    (frame : SameFrame condition condition') (meaning : tree? condition = some tree)
    (meaning' : tree? condition' = some tree') : SameShape tree tree' := by
  have single := termTree_sameShape frame
  have several := termTrees_sameShape frame
  unfold tree? at meaning meaning'
  rw [← frame.target] at meaning'
  cases target : condition.target with
  | header name => simp [target] at meaning
  | field part =>
      rw [target] at meaning meaning'
      cases part with
      | sender => exact (single .sender).of_some meaning meaning'
      | «to» => exact (single .to).of_some meaning meaning'
      | cc => exact (single .cc).of_some meaning meaning'
      | toOrCc => exact (SameShape.any (several _)).of_some meaning meaning'
      | allAddresses => exact (SameShape.any (several _)).of_some meaning meaning'
      | subject => exact (single .subject).of_some meaning meaning'
      | body => exact (single .body).of_some meaning meaning'
      | date =>
          obtain ⟨date, _, rfl⟩ := Option.map_eq_some_iff.mp meaning
          obtain ⟨date', _, rfl⟩ := Option.map_eq_some_iff.mp meaning'
          exact .before date date'
      | junkStatus => simp at meaning

theorem join_sameShape {combinator : Combinator} {trees trees' : List Tree}
    (shapes : List.Forall₂ SameShape trees trees') :
    SameShape (.join combinator trees) (.join combinator trees') := by
  cases shapes with
  | nil =>
      cases combinator with
      | and => exact .all .nil
      | or => exact .any .nil
  | cons first rest =>
      cases rest with
      | nil =>
          rw [join_single, join_single]
          exact first
      | cons second rest =>
          cases combinator with
          | and => exact .all (.cons first (.cons second rest))
          | or => exact .any (.cons first (.cons second rest))

/-! ## The search of criteria -/

/-- The search of criteria reads as what their conditions say, joined by their combinator. -/
theorem criteria_reads {criteria : Criteria} {text : String}
    (uniform : Criteria.Uniform criteria.conditions) (rendered : criteria.query = .ok text) :
    ∃ trees, List.Forall₂ (fun condition tree => tree? condition = some tree)
        criteria.conditions trees ∧
      ∀ tight, Reads tight text.toList (.join (criteria.combinator.getD .and) trees) := by
  unfold Criteria.query at rendered
  unfold Criteria.combinator
  cases listed : criteria.conditions with
  | nil =>
      simp only [listed, Except.ok.injEq] at rendered
      rw [← rendered]
      exact ⟨[], .nil, fun tight => .empty⟩
  | cons condition rest =>
      simp only [listed] at rendered
      obtain ⟨fragment, front, finish⟩ := Result.bind_eq_ok_iff.mp rendered
      obtain ⟨tail, behind, finish⟩ := Result.bind_eq_ok_iff.mp finish
      rw [Result.pure_eq_ok_iff] at finish
      obtain ⟨combinator, shared⟩ := uniform
      rw [listed] at shared
      obtain ⟨tree, meaning, unit⟩ := query_reads front
      obtain ⟨trees, meanings, chain⟩ := tailQuery_reads
        (fun other member => shared other (List.mem_cons_of_mem _ member)) behind
      refine ⟨tree :: trees, .cons meaning meanings, ?_⟩
      intro tight
      have reads := Reads.chain (chain (unit tight))
      rw [assemble_uniform] at reads
      rw [← finish, String.toList_append, List.head?_cons, Option.map_some, Option.getD_some,
        shared condition List.mem_cons_self]
      exact reads

theorem trees_sameShape {conditions conditions' : List Condition} {trees trees' : List Tree}
    (frames : List.Forall₂ SameFrame conditions conditions')
    (meanings : List.Forall₂ (fun condition tree => tree? condition = some tree) conditions trees)
    (meanings' : List.Forall₂ (fun condition tree => tree? condition = some tree)
      conditions' trees') : List.Forall₂ SameShape trees trees' := by
  induction frames generalizing trees trees' with
  | nil =>
      cases meanings
      cases meanings'
      exact .nil
  | cons frame _ ih =>
      cases meanings with
      | cons meaning meanings =>
          cases meanings' with
          | cons meaning' meanings' =>
              exact .cons (tree?_sameShape frame meaning meaning') (ih meanings meanings')

theorem head_combinator {conditions conditions' : List Condition}
    (frames : List.Forall₂ SameFrame conditions conditions') :
    conditions.head?.map (·.combinator) = conditions'.head?.map (·.combinator) := by
  cases frames with
  | nil => rfl
  | cons frame _ => exact congrArg some frame.combinator

/-- **The search of criteria.** It reads as one tree, whichever combinator binds tighter: what the
conditions say, joined in order by their combinator.  Other search texts change no more of the tree
than literals and dates. -/
theorem criteria_query_reads {criteria : Criteria} {text : String}
    (reachable : Reachable criteria) (rendered : criteria.query = .ok text) :
    ∃ trees, List.Forall₂ (fun condition tree => tree? condition = some tree)
        criteria.conditions trees ∧
      (∀ tight tree, Reads tight text.toList tree ↔
        tree = .join (criteria.combinator.getD .and) trees) ∧
      ∀ criteria' text', Reachable criteria' → criteria'.query = .ok text' →
        List.Forall₂ SameFrame criteria.conditions criteria'.conditions →
        ∃ tree', (∀ tight tree, Reads tight text'.toList tree ↔ tree = tree') ∧
          SameShape (.join (criteria.combinator.getD .and) trees) tree' := by
  obtain ⟨trees, meanings, reads⟩ := criteria_reads reachable.uniform rendered
  refine ⟨trees, meanings, ?_, ?_⟩
  · intro tight tree
    exact (reads tight).iff_eq tree
  · intro criteria' text' reachable' rendered' frames
    obtain ⟨trees', meanings', reads'⟩ := criteria_reads reachable'.uniform rendered'
    refine ⟨.join (criteria'.combinator.getD .and) trees', ?_, ?_⟩
    · intro tight tree
      exact (reads' tight).iff_eq tree
    -- the combinator is one of the frames' parts, so it is the same on both sides
    · have combinators : criteria.combinator = criteria'.combinator := head_combinator frames
      rw [combinators]
      exact join_sameShape (trees_sameShape frames meanings meanings')

/-- Two conditions, the first of which would like to be two. -/
def hostile : Criteria where
  conditions :=
    [⟨.or, .field .subject, .contains, "x\") OR from:(\"y"⟩,
      ⟨.or, .field .toOrCc, .doesntContain, "z"⟩]

/-- The search of these conditions. -/
def hostileQuery : String := "subject:\"x) OR from:(y\" OR (-(to:\"z\") OR -(cc:\"z\"))"

/-- A search text that looks like the end of its literal and one more term stays in the literal. -/
theorem hostile_reads :
    Reachable hostile ∧ hostile.query = .ok hostileQuery ∧
      ∀ tight tree, Reads tight hostileQuery.toList tree ↔
        tree = .any [.term .subject "x) OR from:(y".toList,
          .any [.not (.term .to ['z']), .not (.term .cc ['z'])]] := by
  have reachable : Reachable hostile := .extend hostile.conditions .start
  have rendered : hostile.query = .ok hostileQuery := by decide
  obtain ⟨trees, meanings, reads, _⟩ := criteria_query_reads reachable rendered
  refine ⟨reachable, rendered, ?_⟩
  intro tight tree
  cases meanings with
  | cons first rest =>
      cases rest with
      | cons second none =>
          cases none
          rw [reads, ← Option.some.inj first, ← Option.some.inj second]
          rfl

end MailFilters.Query
