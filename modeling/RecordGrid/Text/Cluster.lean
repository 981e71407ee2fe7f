/-
**Clusters: the characters a reader perceives.**

A text is cut into extended grapheme clusters.  Whether there is a boundary before a character
depends on the class of the character before it and on three things further back: how many flag
letters stand in a row, whether an emoji waits behind a joiner, and whether a consonant waits
behind a linker.  These make up the state of the scan.

Main definitions:

* `RecordGrid.Text.ClusterState` — what the characters so far leave behind;
* `RecordGrid.Text.ClusterState.boundary` — whether the next character starts a cluster;
* `RecordGrid.Text.clusters` — the clusters of some characters.

Main results:

* `RecordGrid.Text.flatten_clusters` — no character is lost.
-/

import RecordGrid.Text.BreakClass
import RecordGrid.Text.Emoji

set_option relaxedAutoImplicit false
set_option autoImplicit false

namespace RecordGrid.Text

/-! ### The state of the scan -/

/-- How far the start of an emoji sequence has come. -/
inductive EmojiState where
  /-- No emoji is open. -/
  | idle
  /-- An emoji and characters that extend it. -/
  | base
  /-- The same and a joiner. -/
  | joined
deriving DecidableEq, Repr

/-- How far the start of a conjunct has come. -/
inductive ConjunctState where
  /-- No consonant is open. -/
  | idle
  /-- A consonant without a linker. -/
  | consonant
  /-- A consonant and a linker. -/
  | linked
deriving DecidableEq, Repr

/-- What the characters so far leave behind. -/
structure ClusterState where
  /-- The class of the last character. -/
  last : BreakClass
  /-- Whether the last characters are an odd number of flag letters. -/
  oddRegional : Bool
  /-- The emoji sequence that is open. -/
  emoji : EmojiState
  /-- The conjunct that is open. -/
  conjunct : ConjunctState
deriving DecidableEq, Repr

namespace ClusterState

/-- The emoji sequence that is open after a character. -/
def nextEmoji (s : EmojiState) (c : Char) (k : BreakClass) : EmojiState :=
  if isPictographic c then .base
  else match s, k with
    | .base, .extend => .base
    | .base, .joiner => .joined
    | _, _ => .idle

/-- The conjunct that is open after a character. -/
def nextConjunct (s : ConjunctState) (c : Char) (k : BreakClass) : ConjunctState :=
  if isLinkable c then .consonant
  else if isLinker c then (if s = .idle then .idle else .linked)
  else if (k = .extend ∧ c ≠ '\u200c') ∨ k = .joiner then s
  else .idle

/-- The state after a character. -/
def next (s : ClusterState) (c : Char) : ClusterState :=
  let k := breakClass c
  { last := k
    oddRegional := k = .regional && !(s.last = .regional && s.oddRegional)
    emoji := nextEmoji s.emoji c k
    conjunct := nextConjunct s.conjunct c k }

/-- The state before the first character. -/
def initial : ClusterState := ⟨.control, false, .idle, .idle⟩

/-- Whether a class ends a line or controls the terminal. -/
def separates (k : BreakClass) : Bool :=
  k = .control || k = .carriageReturn || k = .lineFeed

/-- Whether Hangul letters of these classes form one syllable. -/
def syllable : BreakClass → BreakClass → Bool
  | .leading, .leading | .leading, .vowel => true
  | .leading, .leadingVowel | .leading, .leadingVowelTrailing => true
  | .leadingVowel, .vowel | .leadingVowel, .trailing => true
  | .vowel, .vowel | .vowel, .trailing => true
  | .leadingVowelTrailing, .trailing | .trailing, .trailing => true
  | _, _ => false

/-- Whether a cluster starts at the next character. -/
def boundary (s : ClusterState) (c : Char) : Bool :=
  let k := breakClass c
  if s.last = .carriageReturn ∧ k = .lineFeed then false
  else if separates s.last || separates k then true
  else if syllable s.last k then false
  else if k = .extend ∨ k = .joiner ∨ k = .spacingMark ∨ s.last = .prepend then false
  else if s.conjunct = .linked ∧ isLinkable c then false
  else if s.emoji = .joined ∧ isPictographic c then false
  else !(s.last = .regional && k = .regional && s.oddRegional)

end ClusterState

/-! ### Clusters -/

/-- The rest of the open cluster, and the clusters after it. -/
def clustersFrom (s : ClusterState) : List Char → List Char × List (List Char)
  | [] => ([], [])
  | c :: cs =>
      let (run, rest) := clustersFrom (s.next c) cs
      if s.boundary c then ([], (c :: run) :: rest) else (c :: run, rest)

/-- The clusters of some characters. -/
def clusters (cs : List Char) : List (List Char) :=
  match cs with
  | [] => []
  | c :: cs =>
      let (run, rest) := clustersFrom (ClusterState.initial.next c) cs
      (c :: run) :: rest

theorem append_flatten_clustersFrom (s : ClusterState) (cs : List Char) :
    (clustersFrom s cs).1 ++ (clustersFrom s cs).2.flatten = cs := by
  induction cs generalizing s with
  | nil => rfl
  | cons c cs ih =>
      have h := ih (s.next c)
      simp only [clustersFrom]
      split <;> simp [h]

/-- No character is lost. -/
theorem flatten_clusters (cs : List Char) : (clusters cs).flatten = cs := by
  cases cs with
  | nil => rfl
  | cons c cs => simp [clusters, append_flatten_clustersFrom]

end RecordGrid.Text
