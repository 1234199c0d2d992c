import MailFilters.Condition.Basic
import MailFilters.Date
import MailFilters.Proofs.Text.Cut
import MailFilters.Proofs.Text.Numeral

/-!
# Reading a query back

The searches that queries are written in, as a grammar over characters: a quote opens a literal
that runs to the next quote, and outside literals stand only keys, dates, negated and plain
parentheses, the word `OR`, and single spaces for a conjunction.

* **`Tree`** — what a search means.
* **`Reads`** — a text reads as a tree, given the combinator that binds tighter.
* **`Reads.unique`** — a text reads as one tree at most.
-/

namespace MailFilters.Query

/-- Where a term looks for its text; the body needs no mark. -/
inductive Key
  | sender
  | to
  | cc
  | bcc
  | subject
  | body
  deriving DecidableEq, Repr

/-- What stands before the literal of a term. -/
def Key.mark : Key → List Char
  | .sender => ['f', 'r', 'o', 'm', ':']
  | .to => ['t', 'o', ':']
  | .cc => ['c', 'c', ':']
  | .bcc => ['b', 'c', 'c', ':']
  | .subject => ['s', 'u', 'b', 'j', 'e', 'c', 't', ':']
  | .body => []

/-- What a search means. -/
inductive Tree
  | term (key : Key) (text : List Char)
  | before (date : Date)
  | not (tree : Tree)
  | all (trees : List Tree)
  | any (trees : List Tree)

/-- What stands between two expressions. -/
def linkMark : Combinator → List Char
  | .and => [' ']
  | .or => [' ', 'O', 'R', ' ']

/-- What stands before a date. -/
def beforeMark : List Char := ['b', 'e', 'f', 'o', 'r', 'e', ':']

/-! ## Precedence -/

/-- Trees joined by one combinator; a single tree stands for itself. -/
def Tree.join : Combinator → List Tree → Tree
  | _, [tree] => tree
  | .and, trees => .all trees
  | .or, trees => .any trees

/-- The combinator that binds less tightly. -/
def other : Combinator → Combinator
  | .and => .or
  | .or => .and

/-- The runs of trees that the tighter combinator joins: the first one and the others. -/
def runs (tight : Combinator) (first : Tree) :
    List (Combinator × Tree) → List Tree × List (List Tree)
  | [] => ([first], [])
  | (combinator, next) :: rest =>
    let (run, later) := runs tight next rest
    if combinator = tight then (first :: run, later) else ([first], run :: later)

/-- The tree of a chain of expressions. -/
def assemble (tight : Combinator) (first : Tree) (links : List (Combinator × Tree)) : Tree :=
  let (run, later) := runs tight first links
  .join (other tight) ((run :: later).map (.join tight))

/-! ## The grammar -/

/-- A number written in ASCII digits, a fixed number of them. -/
structure IsNumber (width : Nat) (digits : List Char) (n : Nat) : Prop where
  length : digits.length = width
  ascii : ∀ c ∈ digits, Text.isAsciiDigit c = true
  value : Text.decimalValue digits = n

theorem IsNumber.padded {width n : Nat} (small : n < 10 ^ width) (positive : 0 < width) :
    IsNumber width (Text.paddedDecimal width n).toList n :=
  ⟨Text.paddedDecimal_length small positive, Text.paddedDecimal_digits _ _,
    Text.decimalValue_paddedDecimal _ _⟩

mutual

/-- A text that is one expression. -/
inductive ReadsUnit (tight : Combinator) : List Char → Tree → Prop
  | term (key : Key) {text : List Char} :
      '"' ∉ text → ReadsUnit tight (key.mark ++ '"' :: (text ++ ['"'])) (.term key text)
  | before {date : Date} {year month day : List Char} :
      IsNumber 4 year date.year → IsNumber 2 month date.month → IsNumber 2 day date.day →
      ReadsUnit tight (beforeMark ++ year ++ '/' :: month ++ '/' :: day) (.before date)
  | group {s : List Char} {first : Tree} {links : List (Combinator × Tree)} :
      ReadsChain tight s first links →
      ReadsUnit tight ('(' :: (s ++ [')'])) (assemble tight first links)
  | not {s : List Char} {first : Tree} {links : List (Combinator × Tree)} :
      ReadsChain tight s first links →
      ReadsUnit tight ('-' :: '(' :: (s ++ [')'])) (.not (assemble tight first links))

/-- A text that is a chain of expressions, with a combinator before each but the first. -/
inductive ReadsChain (tight : Combinator) :
    List Char → Tree → List (Combinator × Tree) → Prop
  | last {s : List Char} {tree : Tree} : ReadsUnit tight s tree → ReadsChain tight s tree []
  | link {combinator : Combinator} {s rest : List Char} {tree next : Tree}
      {links : List (Combinator × Tree)} :
      ReadsUnit tight s tree → ReadsChain tight rest next links →
      ReadsChain tight (s ++ linkMark combinator ++ rest) tree ((combinator, next) :: links)

end

/-- A text reads as a tree; the empty text is the search for everything. -/
inductive Reads (tight : Combinator) : List Char → Tree → Prop
  | empty : Reads tight [] (.all [])
  | chain {s : List Char} {first : Tree} {links : List (Combinator × Tree)} :
      ReadsChain tight s first links → Reads tight s (assemble tight first links)

/-! ## A text reads as one tree at most -/

/-- What may follow a chain: nothing, or the parenthesis that closes it. -/
def Closes (rest : List Char) : Prop := ∀ c, rest.head? = some c → c = ')'

theorem Key.mark_cut {key key' : Key} {rest rest' : List Char}
    (same : key.mark ++ '"' :: rest = key'.mark ++ '"' :: rest') : key = key' ∧ rest = rest' := by
  cases key <;> cases key' <;> simp_all [Key.mark]

theorem IsNumber.cut {width n m : Nat} {digits digits' rest rest' : List Char}
    (first : IsNumber width digits n) (second : IsNumber width digits' m)
    (same : digits ++ rest = digits' ++ rest') : digits = digits' ∧ n = m ∧ rest = rest' := by
  obtain ⟨rfl, rests⟩ := List.append_inj same (first.length.trans second.length.symm)
  exact ⟨rfl, first.value.symm.trans second.value, rests⟩

theorem date_ext {date date' : Date} (years : date.year = date'.year)
    (months : date.month = date'.month) (days : date.day = date'.day) : date = date' := by
  cases date
  cases date'
  simp_all

/-- The characters that an expression starts with. -/
def opens : List Char := ['"', 'f', 't', 'c', 'b', 's', '(', '-']

theorem ReadsUnit.head {tight : Combinator} {s : List Char} {tree : Tree}
    (reads : ReadsUnit tight s tree) : ∃ c rest, s = c :: rest ∧ c ∈ opens := by
  cases reads with
  | term key _ => cases key <;> exact ⟨_, _, rfl, by decide⟩
  | before _ _ _ => exact ⟨_, _, rfl, by decide⟩
  | group _ => exact ⟨_, _, rfl, by decide⟩
  | not _ => exact ⟨_, _, rfl, by decide⟩

theorem ReadsChain.head {tight : Combinator} {s : List Char} {tree : Tree}
    {links : List (Combinator × Tree)} (reads : ReadsChain tight s tree links) :
    ∃ c rest, s = c :: rest ∧ c ∈ opens := by
  cases reads with
  | last unit => exact unit.head
  | link unit _ =>
      obtain ⟨c, rest, rfl, opening⟩ := unit.head
      exact ⟨c, _, rfl, opening⟩

theorem Closes.paren (rest : List Char) : Closes (')' :: rest) := by
  intro c head
  simpa using head.symm

theorem Closes.nil : Closes [] := by
  intro c head
  simp at head

/-- A chain that ends cannot go on behind its end. -/
theorem Closes.ne_link {rest more : List Char} {combinator : Combinator} (closes : Closes rest) :
    rest ≠ linkMark combinator ++ more := by
  rintro rfl
  have blank : (' ' : Char) = ')' := closes ' ' (by cases combinator <;> rfl)
  exact absurd blank (by decide)

/-- No expression starts with the letter that the word `OR` starts with. -/
theorem linkMark_cut {combinator combinator' : Combinator} {c c' : Char} {s s' : List Char}
    (opening : c ∈ opens) (opening' : c' ∈ opens)
    (same : linkMark combinator ++ c :: s = linkMark combinator' ++ c' :: s') :
    combinator = combinator' ∧ c :: s = c' :: s' := by
  have unlike : ∀ d ∈ opens, d ≠ 'O' := by simp [opens]
  cases combinator <;> cases combinator' <;> simp only [linkMark, List.cons_append,
    List.nil_append, List.cons.injEq, true_and] at same
  · exact ⟨rfl, by rw [same.1, same.2]⟩
  · exact absurd same.1 (unlike c opening)
  · exact absurd same.1.symm (unlike c' opening')
  · exact ⟨rfl, by rw [same.1, same.2]⟩

/-- An expression that ends where it ends, whatever follows it. -/
def UnitCut (tight : Combinator) (s : List Char) (tree : Tree) : Prop :=
  ∀ ⦃s' rest rest' : List Char⦄ ⦃tree' : Tree⦄, ReadsUnit tight s' tree' →
    s ++ rest = s' ++ rest' → s = s' ∧ tree = tree' ∧ rest = rest'

/-- A chain that ends where the text ends or a parenthesis closes it. -/
def ChainCut (tight : Combinator) (s : List Char) (first : Tree)
    (links : List (Combinator × Tree)) : Prop :=
  ∀ ⦃s' rest rest' : List Char⦄ ⦃first' : Tree⦄ ⦃links' : List (Combinator × Tree)⦄,
    ReadsChain tight s' first' links' → Closes rest → Closes rest' → s ++ rest = s' ++ rest' →
    s = s' ∧ first = first' ∧ links = links' ∧ rest = rest'

section

variable {tight : Combinator} {s rest : List Char} {tree first : Tree}
  {links : List (Combinator × Tree)}

theorem UnitCut.term (key : Key) {text : List Char} (free : '"' ∉ text) :
    UnitCut tight (key.mark ++ '"' :: (text ++ ['"'])) (.term key text) := by
  intro s' rest rest' tree' reads' same
  cases reads' with
  | term key' free' =>
      simp only [List.append_assoc, List.cons_append, List.nil_append] at same
      obtain ⟨rfl, texts⟩ := Key.mark_cut same
      obtain ⟨rfl, rests⟩ := Text.cut_unique free free' texts
      exact ⟨rfl, rfl, rests⟩
  | before _ _ _ => cases key <;> simp [Key.mark, beforeMark] at same
  | group _ => cases key <;> simp [Key.mark] at same
  | not _ => cases key <;> simp [Key.mark] at same

theorem UnitCut.before {date : Date} {year month day : List Char}
    (yearDigits : IsNumber 4 year date.year) (monthDigits : IsNumber 2 month date.month)
    (dayDigits : IsNumber 2 day date.day) :
    UnitCut tight (beforeMark ++ year ++ '/' :: month ++ '/' :: day) (.before date) := by
  intro s' rest rest' tree' reads' same
  cases reads' with
  | term key' _ => cases key' <;> simp [Key.mark, beforeMark] at same
  | before yearDigits' monthDigits' dayDigits' =>
      simp only [List.append_assoc, List.cons_append, List.append_cancel_left_eq] at same
      obtain ⟨rfl, years, same⟩ := yearDigits.cut yearDigits' same
      obtain ⟨rfl, months, same⟩ := monthDigits.cut monthDigits' (List.cons.inj same).2
      obtain ⟨rfl, days, rests⟩ := dayDigits.cut dayDigits' (List.cons.inj same).2
      exact ⟨rfl, congrArg Tree.before (date_ext years months days), rests⟩
  | group _ => simp [beforeMark] at same
  | not _ => simp [beforeMark] at same

theorem UnitCut.group (cut : ChainCut tight s first links) :
    UnitCut tight ('(' :: (s ++ [')'])) (assemble tight first links) := by
  intro s' rest rest' tree' reads' same
  cases reads' with
  | term key' _ => cases key' <;> simp [Key.mark] at same
  | before _ _ _ => simp [beforeMark] at same
  | group chain' =>
      simp only [List.append_assoc, List.cons_append, List.nil_append, List.cons.injEq,
        true_and] at same
      obtain ⟨rfl, rfl, rfl, rests⟩ := cut chain' (.paren rest) (.paren rest') same
      exact ⟨rfl, rfl, (List.cons.inj rests).2⟩
  | not _ => simp at same

/-- A hyphen goes with the group behind it. -/
theorem UnitCut.not (cut : UnitCut tight s tree) : UnitCut tight ('-' :: s) (.not tree) := by
  intro s' rest rest' tree' reads' same
  cases reads' with
  | term key' _ => cases key' <;> simp [Key.mark] at same
  | before _ _ _ => simp [beforeMark] at same
  | group _ => simp at same
  | not chain' =>
      obtain ⟨rfl, rfl, rests⟩ := cut (.group chain') (List.cons.inj same).2
      exact ⟨rfl, rfl, rests⟩

theorem ChainCut.last (cut : UnitCut tight s tree) : ChainCut tight s tree [] := by
  intro s' rest rest' first' links' reads' closes closes' same
  cases reads' with
  | last unit' =>
      obtain ⟨rfl, rfl, rests⟩ := cut unit' same
      exact ⟨rfl, rfl, rfl, rests⟩
  | link unit' _ =>
      simp only [List.append_assoc] at same
      obtain ⟨_, _, rests⟩ := cut unit' same
      exact absurd rests closes.ne_link

theorem ChainCut.link {combinator : Combinator} (cutUnit : UnitCut tight s tree)
    (chain : ReadsChain tight rest first links) (cutChain : ChainCut tight rest first links) :
    ChainCut tight (s ++ linkMark combinator ++ rest) tree ((combinator, first) :: links) := by
  intro s' after after' first' links' reads' closes closes' same
  cases reads' with
  | last unit' =>
      simp only [List.append_assoc] at same
      obtain ⟨_, _, rests⟩ := cutUnit unit' same
      exact absurd rests.symm closes'.ne_link
  -- both go on: the marks agree because what follows them opens an expression
  | link unit' chain' =>
      simp only [List.append_assoc] at same
      obtain ⟨rfl, rfl, rests⟩ := cutUnit unit' same
      obtain ⟨c, more, equal, opening⟩ := chain.head
      obtain ⟨c', more', equal', opening'⟩ := chain'.head
      rw [equal, equal', List.cons_append, List.cons_append] at rests
      obtain ⟨rfl, chains⟩ := linkMark_cut opening opening' rests
      rw [← List.cons_append, ← List.cons_append, ← equal, ← equal'] at chains
      obtain ⟨rfl, rfl, rfl, ends⟩ := cutChain chain' closes closes' chains
      exact ⟨rfl, rfl, rfl, ends⟩

end

mutual

theorem ReadsUnit.cut {tight : Combinator} {s : List Char} {tree : Tree} :
    ReadsUnit tight s tree → UnitCut tight s tree
  | .term key free => UnitCut.term key free
  | .before year month day => UnitCut.before year month day
  | .group chain => UnitCut.group chain.cut
  | .not chain => UnitCut.not (UnitCut.group chain.cut)

theorem ReadsChain.cut {tight : Combinator} {s : List Char} {first : Tree}
    {links : List (Combinator × Tree)} :
    ReadsChain tight s first links → ChainCut tight s first links
  | .last unit => ChainCut.last unit.cut
  | .link unit chain => ChainCut.link unit.cut chain chain.cut

end

/-- **No ambiguity.** A text reads as one tree at most. -/
theorem Reads.unique {tight : Combinator} {s : List Char} {tree tree' : Tree}
    (reads : Reads tight s tree) (reads' : Reads tight s tree') : tree = tree' := by
  cases reads with
  | empty =>
      cases reads' with
      | empty => rfl
      | chain chain' =>
          obtain ⟨_, _, equal, _⟩ := chain'.head
          simp at equal
  | chain chain =>
      cases reads' with
      | empty =>
          obtain ⟨_, _, equal, _⟩ := chain.head
          simp at equal
      | chain chain' =>
          obtain ⟨_, rfl, rfl, _⟩ := chain.cut chain' .nil .nil rfl
          rfl

theorem Reads.iff_eq {tight : Combinator} {s : List Char} {tree : Tree}
    (reads : Reads tight s tree) (tree' : Tree) : Reads tight s tree' ↔ tree' = tree := by
  constructor
  · intro reads'
    exact reads'.unique reads
  · rintro rfl
    exact reads

end MailFilters.Query
