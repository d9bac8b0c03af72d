import AidnSpec.Base.PyValue
import Mathlib.Data.List.TakeWhile

/-!
# Splitting URLs

`urllib.parse.urlsplit` and `urlunsplit` on characters, and the parts of a network location. The
checks that `urlsplit` makes of a network location (its brackets, the address between them and the
NFKC form) are a parameter.
-/

namespace AidnSpec.Base

open List

/-- What `urlsplit` raises on. -/
class NetlocChecks where
  rejects : List Char → Bool

structure SplitResult where
  scheme : List Char
  netloc : List Char
  path : List Char
  query : List Char
  fragment : List Char

/-- The text before the first mark, and the text behind it; without a mark everything stands
before. -/
def partitionAt (mark : Char → Bool) (cs : List Char) : List Char × List Char :=
  (cs.takeWhile (!mark ·), (cs.dropWhile (!mark ·)).drop 1)

def afterLast (mark : Char) (cs : List Char) : List Char :=
  (cs.reverse.takeWhile (· ≠ mark)).reverse

/-- The text before the last mark; empty without a mark. -/
def beforeLast (mark : Char) (cs : List Char) : List Char :=
  ((cs.reverse.dropWhile (· ≠ mark)).drop 1).reverse

/-- A character that is removed wherever it stands. -/
def isUnsafe (c : Char) : Bool := c = '\t' || c = '\r' || c = '\n'

/-- The text that is split. -/
def cleanedUrl (url : List Char) : List Char :=
  (url.dropWhile (·.toNat ≤ 32)).filter (!isUnsafe ·)

def isSchemeChar (c : Char) : Bool := c.isAlphanum || c = '+' || c = '-' || c = '.'

/-- The scheme and the text behind it. -/
def splitScheme (url : List Char) : List Char × List Char :=
  match url.takeWhile (· ≠ ':'), url.dropWhile (· ≠ ':') with
  | c :: cs, _ :: rest =>
    if c.isAlpha && (c :: cs).all isSchemeChar then ((c :: cs).map Char.toLower, rest)
    else ([], url)
  | _, _ => ([], url)

def endsNetloc (c : Char) : Bool := c = '/' || c = '?' || c = '#'

/-- The network location and the text behind it. -/
def splitNetloc : List Char → List Char × List Char
  | '/' :: '/' :: rest => (rest.takeWhile (!endsNetloc ·), rest.dropWhile (!endsNetloc ·))
  | url => ([], url)

def splitUrl (url : List Char) : SplitResult :=
  let (scheme, rest) := splitScheme (cleanedUrl url)
  let (netloc, rest) := splitNetloc rest
  let (rest, fragment) := partitionAt (· = '#') rest
  let (path, query) := partitionAt (· = '?') rest
  ⟨scheme, netloc, path, query, fragment⟩

def urlsplit [NetlocChecks] (url : List Char) : Except PyError SplitResult :=
  let parsed := splitUrl url
  if NetlocChecks.rejects parsed.netloc then raiseValue "Invalid URL" else .ok parsed

/-- `urlunsplit` on parts with a network location. -/
def urlunsplit (parts : SplitResult) : List Char :=
  let path :=
    if parts.path ≠ [] ∧ parts.path.head? ≠ some '/' then '/' :: parts.path else parts.path
  let url := '/' :: '/' :: (parts.netloc ++ path)
  let url := if parts.scheme = [] then url else parts.scheme ++ ':' :: url
  let url := if parts.query = [] then url else url ++ '?' :: parts.query
  if parts.fragment = [] then url else url ++ '#' :: parts.fragment

namespace SplitResult

/-- `SplitResult._hostinfo`: the host and the text of the port. -/
def hostinfo (r : SplitResult) : List Char × List Char :=
  let info := afterLast '@' r.netloc
  if info.contains '[' then
    let (host, rest) := partitionAt (· = ']') (partitionAt (· = '[') info).2
    (host, (partitionAt (· = ':') rest).2)
  else partitionAt (· = ':') info

/-- `SplitResult.hostname`. A zone keeps its case. -/
def hostname (r : SplitResult) : Option (List Char) :=
  let host := r.hostinfo.1
  if host = [] then none
  else some ((host.takeWhile (· ≠ '%')).map Char.toLower ++ host.dropWhile (· ≠ '%'))

def port (r : SplitResult) : Except PyError (Option ℕ) :=
  let text := r.hostinfo.2
  if text = [] then .ok none
  else if text.all Char.isDigit then
    let port := Nat.ofDigitChars 10 text 0
    if port ≤ 65535 then .ok (some port) else raiseValue "Port out of range 0-65535"
  else raiseValue "Port could not be cast to integer value"

def username (r : SplitResult) : Option (List Char) :=
  if r.netloc.contains '@' then some (partitionAt (· = ':') (beforeLast '@' r.netloc)).1 else none

def password (r : SplitResult) : Option (List Char) :=
  if r.netloc.contains '@' && (beforeLast '@' r.netloc).contains ':' then
    some (partitionAt (· = ':') (beforeLast '@' r.netloc)).2
  else none

end SplitResult

/-! ## Where the characters of the parts come from -/

variable {p : Char → Bool} {cs url : List Char} {c : Char} {r : SplitResult}

theorem mem_of_mem_takeWhile (h : c ∈ cs.takeWhile p) : c ∈ cs := (List.takeWhile_prefix p).subset h

theorem mem_of_mem_dropWhile (h : c ∈ cs.dropWhile p) : c ∈ cs := (dropWhile_suffix p).subset h

theorem mem_of_mem_partitionAt {mark : Char → Bool}
    (h : c ∈ (partitionAt mark cs).1 ∨ c ∈ (partitionAt mark cs).2) : c ∈ cs := by
  rcases h with h | h
  · exact mem_of_mem_takeWhile h
  · exact mem_of_mem_dropWhile (mem_of_mem_drop h)

theorem mem_of_mem_splitScheme (h : c ∈ (splitScheme url).2) : c ∈ url := by
  unfold splitScheme at h
  split at h
  · next hdrop =>
    split at h
    · exact mem_of_mem_dropWhile (hdrop ▸ mem_cons_of_mem _ h)
    · exact h
  · exact h

theorem mem_of_mem_splitNetloc (h : c ∈ (splitNetloc url).1 ∨ c ∈ (splitNetloc url).2) :
    c ∈ url := by
  unfold splitNetloc at h
  split at h
  · rcases h with h | h
    · exact mem_cons_of_mem _ (mem_cons_of_mem _ (mem_of_mem_takeWhile h))
    · exact mem_cons_of_mem _ (mem_cons_of_mem _ (mem_of_mem_dropWhile h))
  · rcases h with h | h
    · cases h
    · exact h

/-- No part of a URL has a character that is removed. -/
theorem not_isUnsafe_of_mem
    (h : c ∈ (splitUrl url).netloc ++ (splitUrl url).path ++ (splitUrl url).query ++
      (splitUrl url).fragment) :
    isUnsafe c = false := by
  have hclean : c ∈ cleanedUrl url := by
    apply mem_of_mem_splitScheme
    apply mem_of_mem_splitNetloc
    simp only [mem_append] at h
    rcases h with ((h | h) | h) | h
    · exact .inl h
    · exact .inr (mem_of_mem_partitionAt (.inl (mem_of_mem_partitionAt (.inl h))))
    · exact .inr (mem_of_mem_partitionAt (.inl (mem_of_mem_partitionAt (.inr h))))
    · exact .inr (mem_of_mem_partitionAt (.inr h))
  simpa using (mem_filter.mp hclean).2

/-- A network location ends before its first end mark. -/
theorem not_endsNetloc_of_mem (h : c ∈ (splitUrl url).netloc) : endsNetloc c = false := by
  have hnetloc : c ∈ (splitNetloc (splitScheme (cleanedUrl url)).2).1 := h
  unfold splitNetloc at hnetloc
  split at hnetloc
  · simpa using mem_takeWhile_imp hnetloc
  · cases hnetloc

/-! ## Splitting what was put together -/

/-- Parts that a URL can be made of: a scheme, a network location without end marks, and no
character that would be removed. -/
structure SplitResult.Joinable (r : SplitResult) : Prop where
  scheme : r.scheme.head?.any Char.isAlpha = true
  schemeChars : r.scheme.all isSchemeChar = true
  netloc : ∀ c ∈ r.netloc, endsNetloc c = false
  clean : ∀ c ∈ r.netloc ++ r.path ++ r.query ++ r.fragment, isUnsafe c = false

/-- What stands behind the network location. -/
def SplitResult.tail (r : SplitResult) : List Char :=
  (if r.path ≠ [] ∧ r.path.head? ≠ some '/' then '/' :: r.path else r.path) ++
    (if r.query = [] then [] else '?' :: r.query) ++
    (if r.fragment = [] then [] else '#' :: r.fragment)

theorem urlunsplit_eq (h : r.scheme ≠ []) :
    urlunsplit r = r.scheme ++ ':' :: '/' :: '/' :: (r.netloc ++ r.tail) := by
  simp only [urlunsplit, SplitResult.tail, if_neg h]
  split_ifs <;> simp

/-- The tail is empty or starts with an end mark. -/
theorem SplitResult.takeWhile_tail (r : SplitResult) : r.tail.takeWhile (!endsNetloc ·) = [] := by
  unfold SplitResult.tail
  have hpath : ∀ rest : List Char, (r.path = [] ∨ r.path.head? = some '/') → r.path ≠ [] →
      (r.path ++ rest).takeWhile (!endsNetloc ·) = [] := by
    intro rest hhead hne
    obtain ⟨c, cs, hcons⟩ := exists_cons_of_ne_nil hne
    rw [hcons] at hhead ⊢
    rcases hhead with h | h
    · cases h
    · cases h
      rfl
  by_cases hempty : r.path = []
  · rw [hempty]
    split_ifs <;> rfl
  · by_cases hslash : r.path.head? = some '/'
    · rw [if_neg (by simp [hslash]), append_assoc]
      exact hpath _ (.inr hslash) hempty
    · rw [if_pos ⟨hempty, hslash⟩]
      rfl

theorem isSchemeChar_spec (h : isSchemeChar c = true) : c ≠ ':' ∧ isUnsafe c = false := by
  constructor
  · rintro rfl
    revert h
    decide
  · by_contra hunsafe
    simp only [isUnsafe, Bool.not_eq_false, Bool.or_eq_true, decide_eq_true_eq] at hunsafe
    rcases hunsafe with (rfl | rfl) | rfl <;> revert h <;> decide

theorem dropWhile_of_isAlpha (h : c.isAlpha = true) (cs : List Char) :
    (c :: cs).dropWhile (·.toNat ≤ 32) = c :: cs := by
  apply dropWhile_cons_of_neg
  change (decide ('A'.val ≤ c.val ∧ c.val ≤ 'Z'.val) || 'a'.val ≤ c.val && c.val ≤ 'z'.val) = true
    at h
  simp only [Bool.or_eq_true, Bool.and_eq_true, decide_eq_true_eq, UInt32.le_iff_toNat_le] at h
  have hval : c.toNat = c.val.toNat := rfl
  have hA : 'A'.val.toNat = 65 := rfl
  have ha : 'a'.val.toNat = 97 := rfl
  simp only [decide_eq_true_eq, not_le]
  omega

theorem SplitResult.Joinable.tail (h : r.Joinable) : ∀ c ∈ r.tail, isUnsafe c = false := by
  intro c hc
  have hparts : c ∈ ['/', '?', '#'] ∨ c ∈ r.netloc ++ r.path ++ r.query ++ r.fragment := by
    simp only [SplitResult.tail, mem_append] at hc ⊢
    rcases hc with (hc | hc) | hc
    · split_ifs at hc
      · rcases mem_cons.mp hc with rfl | hc
        · exact .inl (by decide)
        · exact .inr (.inl (.inl (.inr hc)))
      · exact .inr (.inl (.inl (.inr hc)))
    · split_ifs at hc
      · cases hc
      · rcases mem_cons.mp hc with rfl | hc
        · exact .inl (by decide)
        · exact .inr (.inl (.inr hc))
    · split_ifs at hc
      · cases hc
      · rcases mem_cons.mp hc with rfl | hc
        · exact .inl (by decide)
        · exact .inr (.inr hc)
  rcases hparts with hmark | hpart
  · simp only [mem_cons, not_mem_nil, or_false] at hmark
    rcases hmark with rfl | rfl | rfl <;> decide
  · exact h.clean c hpart

/-- The network location that a URL was made of is read back. -/
theorem netloc_splitUrl (h : r.Joinable) : (splitUrl (urlunsplit r)).netloc = r.netloc := by
  have htail := h.tail
  have htake := r.takeWhile_tail
  cases hscheme : r.scheme with
  | nil =>
    have hhead := h.scheme
    rw [hscheme] at hhead
    cases hhead
  | cons c cs =>
    have halpha : c.isAlpha = true := by
      have hhead := h.scheme
      rw [hscheme] at hhead
      exact hhead
    have hchars : ∀ d ∈ c :: cs, isSchemeChar d = true :=
      hscheme ▸ all_eq_true.mp h.schemeChars
    have hurl : urlunsplit r = (c :: cs) ++ ':' :: '/' :: '/' :: (r.netloc ++ r.tail) := by
      rw [urlunsplit_eq (by rw [hscheme]; exact cons_ne_nil c cs), hscheme]
    have hclean : cleanedUrl (urlunsplit r) = urlunsplit r := by
      rw [hurl, cleanedUrl, cons_append, dropWhile_of_isAlpha halpha, ← cons_append,
        filter_eq_self]
      intro d hd
      have hsafe : isUnsafe d = false := by
        simp only [mem_append, mem_cons (b := ':'), mem_cons (b := '/')] at hd
        rcases hd with hd | rfl | rfl | rfl | hd | hd
        · exact (isSchemeChar_spec (hchars d hd)).2
        · decide
        · decide
        · decide
        · exact h.clean d (mem_append_left _ (mem_append_left _
            (mem_append_left _ hd)))
        · exact htail d hd
      rw [hsafe]
      rfl
    have hcolon : ∀ d ∈ c :: cs, decide (d ≠ ':') = true := fun d hd =>
      decide_eq_true (isSchemeChar_spec (hchars d hd)).1
    have hsplit : (splitScheme (urlunsplit r)).2 = '/' :: '/' :: (r.netloc ++ r.tail) := by
      have hvalid : (c.isAlpha && (c :: cs).all isSchemeChar) = true := by
        rw [halpha, Bool.true_and]
        exact all_eq_true.mpr hchars
      rw [hurl, splitScheme, takeWhile_append_of_pos hcolon,
        dropWhile_append_of_pos hcolon, takeWhile_cons_of_neg (by simp), append_nil,
        dropWhile_cons_of_neg (by simp)]
      simp only [if_pos hvalid]
    show (splitNetloc (splitScheme (cleanedUrl (urlunsplit r))).2).1 = r.netloc
    rw [hclean, hsplit, splitNetloc]
    have hends : ∀ d ∈ r.netloc, (!endsNetloc d) = true := fun d hd => by
      rw [h.netloc d hd]
      rfl
    rw [takeWhile_append_of_pos hends, htake, append_nil]

end AidnSpec.Base
