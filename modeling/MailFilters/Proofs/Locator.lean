import MailFilters.Locator.Basic
import MailFilters.Proofs.Text.Cut
import MailFilters.Proofs.Text.Percent

/-!
# Locators that are put together

Parts that are percent-encoded have none of the characters that separate the parts of a locator, so
each separator is found where the locator has it.

* **`Locator.text`** — a locator put together from its parts.
* **`Locator.IsWritable.read?_text`** — it is read as its parts, the scheme in lower case.
* **`Authority.read?_written`** — the same for the user and the password of an authority.
-/

namespace MailFilters

open MailFilters.Text

/-- A part behind its mark; an empty part goes without it. -/
def marked (mark : Char) (part : List Char) : List Char :=
  if part.isEmpty then [] else mark :: part

theorem exists_cutAt_marked {mark : Char} {front : List Char} (free : mark ∉ front)
    (part : List Char) :
    ∃ after, cutAt mark (front ++ marked mark part) = (front, after) ∧ after.getD [] = part := by
  cases part with
  | nil => exact ⟨none, by simp [marked, cutAt_free free], rfl⟩
  | cons c part => exact ⟨some (c :: part), by simp [marked, cutAt_append free], rfl⟩

theorem marked_isMadeOf {marks part : List Char} {mark : Char} (listed : mark ∈ marks)
    (made : IsMadeOf marks part) : IsMadeOf marks (marked mark part) := by
  unfold marked
  split
  · exact .nil marks
  · exact .cons listed made

namespace Locator

/-! ## Locators -/

/-- A locator as it is written; a query and a fragment that are empty are left out. -/
def text (locator : Locator) : List Char :=
  locator.scheme ++ ':' :: '/' :: '/' :: (locator.authority ++
    (locator.path ++ marked '?' locator.query ++ marked '#' locator.fragment))

/-- Locators of encoded parts: the scheme is a word, and the path starts at the root. -/
structure IsWritable (locator : Locator) : Prop where
  filled : locator.scheme ≠ []
  letters : ∀ c ∈ locator.scheme, isAsciiLetter c = true
  authority : IsMadeOf ['@', ':'] locator.authority
  rooted : locator.path.head? = some '/'
  path : IsMadeOf ['/'] locator.path
  query : IsMadeOf [] locator.query
  fragment : IsMadeOf [] locator.fragment

/-- The characters that stand between the parts of a locator. -/
def delimiters : List Char := ['@', ':', '/', '?', '#']

theorem isAsciiLetter_encoded {c : Char} (letter : isAsciiLetter c = true) :
    isEncodedChar c = true := by
  simp [isEncodedChar, isUnreserved, letter]

theorem isAsciiLetter_graphic {c : Char} (letter : isAsciiLetter c = true) :
    ¬ c.toNat ≤ 0x20 := by
  have plain := isAsciiLetter_encoded letter
  intro low
  have other : isEncodedChar c = false :=
    @of_codePoints (fun c => isEncodedChar c = false) 0 0x21 (by decide) c (by omega) (by omega)
  rw [plain] at other
  simp at other

variable {locator : Locator}

theorem IsWritable.text_isMadeOf (writable : IsWritable locator) :
    IsMadeOf delimiters (text locator) := by
  have scheme : IsMadeOf delimiters locator.scheme :=
    fun c member => .inl (isAsciiLetter_encoded (writable.letters c member))
  have authority : IsMadeOf delimiters locator.authority :=
    writable.authority.mono (by simp [delimiters])
  have path : IsMadeOf delimiters locator.path := writable.path.mono (by simp [delimiters])
  have query : IsMadeOf delimiters (marked '?' locator.query) :=
    marked_isMadeOf (by decide) (writable.query.mono (by simp))
  have fragment : IsMadeOf delimiters (marked '#' locator.fragment) :=
    marked_isMadeOf (by decide) (writable.fragment.mono (by simp))
  exact scheme.append (.cons (by decide) (.cons (by decide) (.cons (by decide)
    (authority.append ((path.append query).append fragment)))))

theorem IsWritable.clean_text (writable : IsWritable locator) :
    clean (text locator) = text locator := by
  have made := writable.text_isMadeOf
  have noTab : '\t' ∉ text locator := made.free (by decide) (by decide)
  have noReturn : '\r' ∉ text locator := made.free (by decide) (by decide)
  have noFeed : '\n' ∉ text locator := made.free (by decide) (by decide)
  have start : (text locator).dropWhile (fun c => c.toNat ≤ 0x20) = text locator := by
    obtain ⟨c, rest, scheme⟩ := List.exists_cons_of_ne_nil writable.filled
    have high := isAsciiLetter_graphic (writable.letters c (by simp [scheme]))
    rw [text, scheme]
    exact List.dropWhile_cons_of_neg (by simpa using high)
  rw [clean, start, List.filter_eq_self]
  intro c member
  simp [ne_of_mem_of_not_mem member noTab, ne_of_mem_of_not_mem member noReturn,
    ne_of_mem_of_not_mem member noFeed]

theorem IsWritable.split_scheme (writable : IsWritable locator) (rest : List Char) :
    splitScheme (locator.scheme ++ ':' :: rest) = (locator.scheme.map Char.toLower, rest) := by
  have noColon : ':' ∉ locator.scheme :=
    fun member => absurd (writable.letters _ member) (by decide)
  have isWord : isScheme locator.scheme = true := by
    obtain ⟨c, others, scheme⟩ := List.exists_cons_of_ne_nil writable.filled
    have first := writable.letters c (by simp [scheme])
    have all : locator.scheme.all isSchemeChar = true :=
      List.all_eq_true.mpr fun d member => by simp [isSchemeChar, writable.letters d member]
    rw [isScheme, all, scheme, List.head?_cons, Option.any_some, first]
    rfl
  rw [splitScheme, cutAt_append noColon]
  exact if_pos isWord

/-- Encoded text with at-signs and colons is an authority up to the slash behind it. -/
theorem splitAuthority_rooted {authority rest : List Char}
    (made : IsMadeOf ['@', ':'] authority) :
    splitAuthority ('/' :: '/' :: (authority ++ '/' :: rest)) = (authority, '/' :: rest) := by
  have inside : ∀ c ∈ authority, (!endsAuthority c) = true := by
    have noSlash : '/' ∉ authority := made.free (by decide) (by decide)
    have noQuestion : '?' ∉ authority := made.free (by decide) (by decide)
    have noHash : '#' ∉ authority := made.free (by decide) (by decide)
    intro c member
    simp [endsAuthority, ne_of_mem_of_not_mem member noSlash,
      ne_of_mem_of_not_mem member noQuestion, ne_of_mem_of_not_mem member noHash]
  rw [splitAuthority, List.takeWhile_append_of_pos inside, List.dropWhile_append_of_pos inside,
    List.takeWhile_cons_of_neg (by decide), List.dropWhile_cons_of_neg (by decide),
    List.append_nil]

theorem isSoundAuthority_of_made {authority : List Char} (made : IsMadeOf ['@', ':'] authority) :
    isSoundAuthority authority = true := by
  have noOpening : authority.contains '[' = false := by
    simpa using made.free (by decide) (by decide)
  have noClosing : authority.contains ']' = false := by
    simpa using made.free (by decide) (by decide)
  have plain : ∀ n < 0x80, inRanges delimiterLookalikes n = false := by decide
  have noLookalike : (authority.any fun c => inRanges delimiterLookalikes c.toNat) = false := by
    rw [List.any_eq_false]
    intro c member
    simp [plain c.toNat (made.ascii (by simp) member)]
  rw [isSoundAuthority, bracketsAreSound, noOpening, noClosing, noLookalike]
  rfl

/-- A locator that is put together is read as its parts. -/
theorem IsWritable.read?_text (writable : IsWritable locator) :
    read? (text locator) = some { locator with scheme := locator.scheme.map Char.toLower } := by
  obtain ⟨rest, path⟩ := List.head?_eq_some_iff.mp writable.rooted
  have noHash : '#' ∉ locator.path ++ marked '?' locator.query := by
    have made : IsMadeOf ['/', '?'] (locator.path ++ marked '?' locator.query) :=
      (writable.path.mono (by simp)).append
        (marked_isMadeOf (by decide) (writable.query.mono (by simp)))
    exact made.free (by decide) (by decide)
  have noQuestion : '?' ∉ locator.path := writable.path.free (by decide) (by decide)
  obtain ⟨fragment, cutFragment, sameFragment⟩ := exists_cutAt_marked noHash locator.fragment
  obtain ⟨query, cutQuery, sameQuery⟩ := exists_cutAt_marked noQuestion locator.query
  have split : splitAuthority ('/' :: '/' :: (locator.authority ++
      (locator.path ++ marked '?' locator.query ++ marked '#' locator.fragment))) =
      (locator.authority,
        locator.path ++ marked '?' locator.query ++ marked '#' locator.fragment) := by
    rw [path, List.cons_append, List.cons_append]
    exact splitAuthority_rooted writable.authority
  rw [read?, writable.clean_text, text, writable.split_scheme]
  simp only [split, cutFragment, cutQuery, sameFragment, sameQuery,
    isSoundAuthority_of_made writable.authority, if_pos]

end Locator

namespace Authority

/-! ## Authorities -/

/-- An authority is read as its user and its password, which is left out if it is empty, and as the
host and the port that its place says. -/
theorem read?_written {user password place : List Char} (userMade : IsMadeOf [] user)
    (placeMade : IsMadeOf [':'] place) :
    read? (user ++ marked ':' password ++ '@' :: place) =
      (readPort? (splitPlace place).2).map fun port =>
        ⟨user, password, lowerHost (splitPlace place).1, port⟩ := by
  -- the user is cut off at the last mark, and a mark inside the user is encoded
  have noAt : '@' ∉ place := placeMade.free (by decide) (by decide)
  have noColon : ':' ∉ user := userMade.free (by decide) (by decide)
  obtain ⟨after, cut, same⟩ := exists_cutAt_marked noColon password
  rw [read?, cutAtLast_append _ noAt]
  simp only [Option.getD_some, cut, same]

end Authority

end MailFilters
