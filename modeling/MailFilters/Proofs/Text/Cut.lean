import MailFilters.Text.Split

/-!
# Cutting and splitting

* **`cutAt_eq_some_iff`**, **`cutAt_free`** — a text is cut at the first occurrence of a mark, and
  only if there is one.
* **`cutAtLast_append`** — the last cut.
* **`run_at_start`**, **`run_at_end`** — a text without the characters of a class at one of its
  ends.
* **`infix_append_of_head`** — a pattern in one of two parts that are put together.
* **`splitOn_joinWith_flatMap`**, **`splitOn_joinWith`** — texts that are joined are split apart
  again, and a text with marks of its own into its pieces.
* **`splitOn_pieces_free`** — no piece holds the mark.
* **`nil_mem_splitOn_iff`** — a piece is empty at a mark with nothing or another mark beside it.
-/

namespace MailFilters.Text

theorem cutAt_append {mark : Char} {before : List Char} (free : mark ∉ before)
    (after : List Char) : cutAt mark (before ++ mark :: after) = (before, some after) := by
  induction before with
  | nil => simp [cutAt]
  | cons c before ih =>
      rw [List.mem_cons, not_or] at free
      rw [List.cons_append, cutAt, if_neg (Ne.symm free.1), ih free.2]

theorem cutAt_free {mark : Char} {s : List Char} (free : mark ∉ s) :
    cutAt mark s = (s, none) := by
  induction s with
  | nil => rfl
  | cons c rest ih =>
      rw [List.mem_cons, not_or] at free
      rw [cutAt, if_neg (Ne.symm free.1), ih free.2]

/-- The first cut is at the mark that no other one stands before. -/
theorem cutAt_eq_some_iff {mark : Char} {s before after : List Char} :
    cutAt mark s = (before, some after) ↔ s = before ++ mark :: after ∧ mark ∉ before := by
  constructor
  · intro cut
    induction s generalizing before with
    | nil => simp [cutAt] at cut
    | cons c rest ih =>
        rw [cutAt] at cut
        split at cut
        · next equal =>
            simp only [Prod.mk.injEq, Option.some.injEq] at cut
            obtain ⟨rfl, rfl⟩ := cut
            simp [equal]
        · next different =>
            simp only [Prod.mk.injEq] at cut
            obtain ⟨rfl, found⟩ := cut
            obtain ⟨equal, free⟩ := ih (Prod.ext rfl found)
            refine ⟨congrArg (c :: ·) equal, ?_⟩
            rw [List.mem_cons, not_or]
            exact ⟨fun same => different same.symm, free⟩
  · rintro ⟨rfl, free⟩
    exact cutAt_append free after

/-- A text has one cut before which the mark does not occur. -/
theorem cut_unique {mark : Char} {before₁ before₂ after₁ after₂ : List Char}
    (free₁ : mark ∉ before₁) (free₂ : mark ∉ before₂)
    (equal : before₁ ++ mark :: after₁ = before₂ ++ mark :: after₂) :
    before₁ = before₂ ∧ after₁ = after₂ := by
  have cut := cutAt_append free₁ after₁
  rw [equal, cutAt_append free₂] at cut
  simp only [Prod.mk.injEq, Option.some.injEq] at cut
  exact ⟨cut.1.symm, cut.2.symm⟩

/-- The last cut is at the mark that no other one stands behind. -/
theorem cutAtLast_append {mark : Char} (before : List Char) {after : List Char}
    (free : mark ∉ after) : cutAtLast mark (before ++ mark :: after) = (some before, after) := by
  have reversed : (before ++ mark :: after).reverse = after.reverse ++ mark :: before.reverse := by
    simp
  rw [cutAtLast, reversed, cutAt_append (fun member => free (List.mem_reverse.mp member))]
  simp

/-! ## Runs -/

/-- A text has a run of characters of a class at its start, and goes on with none of them. -/
theorem run_at_start (p : Char → Bool) (s : List Char) :
    s = s.takeWhile p ++ s.dropWhile p ∧ (∀ c ∈ s.takeWhile p, p c = true) ∧
      ∀ c, (s.dropWhile p).head? = some c → p c = false := by
  refine ⟨List.takeWhile_append_dropWhile.symm,
    fun c member => List.all_eq_true.mp List.all_takeWhile c member, ?_⟩
  intro c head
  have stopped := List.head?_dropWhile_not p s
  rwa [head] at stopped

/-- A text has a run of characters of a class at its end, and none of them before it. -/
theorem run_at_end (p : Char → Bool) (s : List Char) :
    s = (s.reverse.dropWhile p).reverse ++ (s.reverse.takeWhile p).reverse ∧
      (∀ c ∈ (s.reverse.takeWhile p).reverse, p c = true) ∧
      ∀ c, (s.reverse.dropWhile p).reverse.getLast? = some c → p c = false := by
  obtain ⟨whole, run, stop⟩ := run_at_start p s.reverse
  refine ⟨?_, fun c member => run c (List.mem_reverse.mp member), ?_⟩
  · rw [← List.reverse_append, ← whole, List.reverse_reverse]
  · intro c last
    rw [List.getLast?_reverse] at last
    exact stop c last

/-! ## Patterns -/

/-- A pattern is in one of two parts that are put together, if the second part starts with a
character that the pattern does not have. -/
theorem infix_append_of_head {pattern s t : List Char}
    (foreign : ∀ c, t.head? = some c → c ∉ pattern) :
    pattern <:+: s ++ t ↔ pattern <:+: s ∨ pattern <:+: t := by
  rw [List.infix_append_iff, ← or_assoc, or_iff_left_of_imp]
  rintro ⟨front, back, rfl, ends, starts⟩
  cases back with
  | nil => exact .inl (by simpa using ends.isInfix)
  | cons c back =>
      obtain ⟨rest, rfl⟩ := starts
      exact absurd (List.mem_append_right _ List.mem_cons_self) (foreign c rfl)

/-- Two marks side by side are the first two characters of a text or stand behind the first one. -/
theorem twice_infix_cons {mark c : Char} {s : List Char} :
    [mark, mark] <:+: c :: s ↔ (c = mark ∧ s.head? = some mark) ∨ [mark, mark] <:+: s := by
  rw [List.infix_cons_iff, List.cons_prefix_cons]
  refine or_congr_left (and_congr eq_comm ?_)
  cases s with
  | nil => simp
  | cons d s => simp [List.cons_prefix_cons, eq_comm]

/-! ## Splitting -/

theorem splitOn_cons_mark (mark : Char) (rest : List Char) :
    splitOn mark (mark :: rest) = [] :: splitOn mark rest := by
  rw [splitOn, splitWhere, if_pos (beq_self_eq_true mark), splitOn]

theorem splitOn_cons_other {mark c : Char} (other : c ≠ mark) (rest : List Char) :
    splitOn mark (c :: rest) = extendFirst c (splitOn mark rest) := by
  have unmarked : ¬ (c == mark) = true := by simpa using other
  rw [splitOn, splitWhere, if_neg unmarked, splitOn]

theorem splitOn_free {mark : Char} {piece : List Char} (free : mark ∉ piece) :
    splitOn mark piece = [piece] := by
  induction piece with
  | nil => rfl
  | cons c piece ih =>
      rw [List.mem_cons, not_or] at free
      rw [splitOn_cons_other (Ne.symm free.1), ih free.2]
      rfl

theorem splitOn_nonempty (mark : Char) (s : List Char) : splitOn mark s ≠ [] := by
  cases s with
  | nil => simp [splitOn, splitWhere]
  | cons c rest =>
      by_cases isMark : c = mark
      · simp [isMark, splitOn_cons_mark]
      · rw [splitOn_cons_other isMark]
        cases splitOn mark rest <;> simp [extendFirst]

theorem extendFirst_append {pieces : List (List Char)} (nonempty : pieces ≠ []) (c : Char)
    (more : List (List Char)) :
    extendFirst c (pieces ++ more) = extendFirst c pieces ++ more := by
  cases pieces with
  | nil => exact absurd rfl nonempty
  | cons piece rest => rfl

/-- A mark between two texts parts their pieces. -/
theorem splitOn_append (mark : Char) (s t : List Char) :
    splitOn mark (s ++ mark :: t) = splitOn mark s ++ splitOn mark t := by
  induction s with
  | nil => exact splitOn_cons_mark mark t
  | cons c s ih =>
      rw [List.cons_append]
      by_cases isMark : c = mark
      · rw [isMark, splitOn_cons_mark, splitOn_cons_mark, ih, List.cons_append]
      · rw [splitOn_cons_other isMark, splitOn_cons_other isMark, ih,
          extendFirst_append (splitOn_nonempty mark s)]

/-- No piece holds the mark that the text is split at. -/
theorem splitOn_pieces_free (mark : Char) (s : List Char) :
    ∀ piece ∈ splitOn mark s, mark ∉ piece := by
  induction s with
  | nil => simp [splitOn, splitWhere]
  | cons c rest ih =>
      by_cases isMark : c = mark
      · rw [isMark, splitOn_cons_mark]
        exact List.forall_mem_cons.mpr ⟨List.not_mem_nil, ih⟩
      · rw [splitOn_cons_other isMark]
        cases pieces : splitOn mark rest with
        | nil => simpa [extendFirst] using Ne.symm isMark
        | cons piece later =>
            rw [pieces, List.forall_mem_cons] at ih
            refine List.forall_mem_cons.mpr ⟨?_, ih.2⟩
            rw [List.mem_cons, not_or]
            exact ⟨Ne.symm isMark, ih.1⟩

/-! ## Empty pieces -/

/-- The first piece is empty if the text is, or starts with a mark. -/
theorem splitOn_head_nil_iff {mark : Char} {s : List Char} :
    (splitOn mark s).head? = some [] ↔ s = [] ∨ s.head? = some mark := by
  cases s with
  | nil => simp [splitOn, splitWhere]
  | cons c rest =>
      by_cases isMark : c = mark
      · simp [isMark, splitOn_cons_mark]
      · rw [splitOn_cons_other isMark]
        cases splitOn mark rest <;> simp [extendFirst, isMark]

/-- A later piece is empty if the text ends with a mark, or two marks stand side by side. -/
theorem nil_mem_splitOn_tail_iff {mark : Char} {s : List Char} :
    [] ∈ (splitOn mark s).tail ↔ s.getLast? = some mark ∨ [mark, mark] <:+: s := by
  induction s with
  | nil => simp [splitOn, splitWhere]
  | cons c rest ih =>
      rw [twice_infix_cons]
      by_cases isMark : c = mark
      · subst isMark
        rw [splitOn_cons_mark, List.tail_cons]
        cases rest with
        | nil => simp [splitOn, splitWhere]
        | cons d rest =>
            obtain ⟨piece, others, split⟩ :=
              List.exists_cons_of_ne_nil (splitOn_nonempty c (d :: rest))
            have first := @splitOn_head_nil_iff c (d :: rest)
            rw [split] at ih first ⊢
            simp only [List.tail_cons, List.head?_cons, Option.some.injEq] at ih first
            rw [List.mem_cons, ih, eq_comm, first, List.getLast?_cons_cons]
            simp only [reduceCtorEq, false_or, List.head?_cons, Option.some.injEq, true_and]
            exact or_left_comm
      · have pieces : (splitOn mark (c :: rest)).tail = (splitOn mark rest).tail := by
          rw [splitOn_cons_other isMark]
          cases splitOn mark rest <;> rfl
        rw [pieces, ih]
        cases rest <;> simp [isMark]

/-- A piece is empty if the text is, if it starts or ends with a mark, or if two marks stand side by
side in it. -/
theorem nil_mem_splitOn_iff {mark : Char} {s : List Char} :
    [] ∈ splitOn mark s ↔
      s = [] ∨ s.head? = some mark ∨ s.getLast? = some mark ∨ [mark, mark] <:+: s := by
  obtain ⟨piece, others, split⟩ := List.exists_cons_of_ne_nil (splitOn_nonempty mark s)
  have first := @splitOn_head_nil_iff mark s
  have later := @nil_mem_splitOn_tail_iff mark s
  rw [split] at first later ⊢
  simp only [List.tail_cons, List.head?_cons, Option.some.injEq] at first later
  rw [List.mem_cons, later, eq_comm, first, or_assoc]

/-! ## Joining -/

/-- The characters of a joined text are those of the separator and of the pieces. -/
theorem joinWith_forall {p : Char → Prop} {separator : List Char} {pieces : List (List Char)}
    (between : ∀ c ∈ separator, p c) (inside : ∀ piece ∈ pieces, ∀ c ∈ piece, p c) :
    ∀ c ∈ joinWith separator pieces, p c := by
  induction pieces with
  | nil => simp [joinWith]
  | cons piece rest ih =>
      have first := inside piece List.mem_cons_self
      cases rest with
      | nil => exact first
      | cons next rest =>
          have behind := ih fun part member => inside part (List.mem_cons_of_mem _ member)
          exact List.forall_mem_append.mpr ⟨List.forall_mem_append.mpr ⟨first, between⟩, behind⟩

/-- A text that is joined from others has the pieces of each. -/
theorem splitOn_joinWith_flatMap {mark : Char} {parts : List (List Char)} (nonempty : parts ≠ []) :
    splitOn mark (joinWith [mark] parts) = parts.flatMap (splitOn mark) := by
  induction parts with
  | nil => exact absurd rfl nonempty
  | cons part rest ih =>
      cases rest with
      | nil => simp [joinWith]
      | cons next rest =>
          show splitOn mark (part ++ [mark] ++ joinWith [mark] (next :: rest)) = _
          rw [List.append_assoc, List.singleton_append, splitOn_append, ih (by simp)]
          exact List.flatMap_cons.symm

/-- Pieces without the mark that are joined with it are split apart again. -/
theorem splitOn_joinWith {mark : Char} {parts : List (List Char)} (nonempty : parts ≠ [])
    (free : ∀ part ∈ parts, mark ∉ part) : splitOn mark (joinWith [mark] parts) = parts := by
  rw [splitOn_joinWith_flatMap nonempty]
  clear nonempty
  induction parts with
  | nil => rfl
  | cons part rest ih =>
      obtain ⟨first, others⟩ := List.forall_mem_cons.mp free
      rw [List.flatMap_cons, splitOn_free first, ih others]
      rfl

/-- The pieces of a text joined with the mark that it was split at are the text. -/
theorem joinWith_splitOn (mark : Char) (s : List Char) : joinWith [mark] (splitOn mark s) = s := by
  induction s with
  | nil => rfl
  | cons c rest ih =>
      obtain ⟨piece, later, split⟩ := List.exists_cons_of_ne_nil (splitOn_nonempty mark rest)
      by_cases isMark : c = mark
      · rw [isMark, splitOn_cons_mark]
        rw [split] at ih ⊢
        exact congrArg (mark :: ·) ih
      · rw [splitOn_cons_other isMark, split, extendFirst]
        rw [split] at ih
        rw [← ih]
        cases later <;> rfl

end MailFilters.Text
