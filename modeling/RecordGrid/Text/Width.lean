/-
**Display width.**

The number of terminal cells a text takes.  Most characters take one cell, wide ones two and
combining ones none, but sequences differ from the sum of their parts: an emoji and its skin tone,
emoji joined to one, flags, characters before a selector, a carriage return before a line feed, and
ligatures of some scripts.  The text is measured from its end; each character sees what stands
directly after it.

Main definitions:

* `RecordGrid.Text.charWidth` — the width of a character by itself;
* `RecordGrid.Text.Follow`, `RecordGrid.Text.Ahead` — what a character sees after it;
* `RecordGrid.Text.advance` — the cells a character adds, and what the one before it sees;
* `RecordGrid.Text.width` — the width of some characters.
-/

import RecordGrid.Text.Extending
import RecordGrid.Text.Ignorable
import RecordGrid.Text.Wide
import RecordGrid.Text.Emoji

set_option relaxedAutoImplicit false
set_option autoImplicit false

namespace RecordGrid.Text

/-! ### Single characters -/

/-- Whether a character is the vowel or final part of a Hangul syllable. -/
def isMedialHangul (c : Char) : Bool :=
  inRanges [(0x1160, 0x11ff), (0xd7b0, 0xd7c6), (0xd7cb, 0xd7fb)] c

/-- Marks that stand over, under or before other characters although they do not extend them. -/
def isOverlaid (c : Char) : Bool :=
  inRanges [(0x605, 0x605), (0x70f, 0x70f), (0x890, 0x891), (0x8e2, 0x8e2), (0xd4e, 0xd4e),
    (0xa8fa, 0xa8fa), (0x111c2, 0x111c3), (0x113d1, 0x113d1), (0x1193f, 0x1193f),
    (0x11941, 0x11941), (0x11a84, 0x11a89), (0x11d46, 0x11d46), (0x11f02, 0x11f02)] c

/-- The width of a character by itself.  Controls take one cell. -/
def charWidth (c : Char) : Nat :=
  let n := c.toNat
  if n ≤ 0xa0 then 1
  else if n = 0x2d7f then 1
  else if n = 0x115f ∨ n = 0x17a4 then 2
  else if n = 0x17d8 then 3
  else if isIgnorable c || isOverdrawn c || isMedialHangul c || isOverlaid c then 0
  else if isWide c then 2
  else 1

/-! ### What stands after a character -/

/-- Parts of an emoji sequence after a joiner has been seen. -/
inductive Joined where
  /-- An emoji, before it a joiner. -/
  | emoji
  /-- The same behind the mark of a key cap. -/
  | keycap
  /-- The same behind one flag letter. -/
  | region
  /-- The same behind a positive even number of flag letters. -/
  | evenRegions
  /-- The same behind an odd number of flag letters above one. -/
  | oddRegions
  /-- The same behind the end of a tag. -/
  | tagEnd
  /-- The same behind this many letters of a tag. -/
  | tagLetters (n : Nat)
  /-- The same behind this many digits of a tag, with or without letters. -/
  | tagDigits (n : Nat)
deriving DecidableEq, Repr

/-- Characters that form a ligature with what stands before them. -/
inductive Ligature where
  /-- The Hebrew lamed, after an alef and a joiner. -/
  | lamed
  /-- The Buginese ya, after a vowel sign and a joiner. -/
  | ya
  /-- The Buginese ya with the vowel sign before it. -/
  | vowelYa
  /-- A Khmer letter that a coeng puts below the letter before it. -/
  | coengLetter
  /-- A Tifinagh consonant. -/
  | tifinagh
  /-- A Tifinagh consonant with the consonant joiner before it. -/
  | joinedTifinagh
  /-- A Lisu tone letter, after another one. -/
  | toneLetter
  /-- The Old Turkic letter i, after a consonant and a joiner. -/
  | orkhon
deriving DecidableEq, Repr

/-- What a character sees directly after it. -/
inductive Follow where
  /-- Nothing that matters. -/
  | plain
  /-- A line feed. -/
  | lineFeed
  /-- An emoji. -/
  | emoji
  /-- A skin tone. -/
  | modifier
  /-- One flag letter. -/
  | flagLetter
  /-- Two or more flag letters. -/
  | flagLetters
  /-- An emoji sequence behind a joiner. -/
  | joined (j : Joined)
  /-- An alef, marks in between allowed. -/
  | alef
  /-- The second half of a ligature, and whether a joiner stands before it. -/
  | ligature (l : Ligature) (joiner : Bool)
  /-- A Kirat Rai vowel sign, which joins those before it. -/
  | vowel
  /-- Two such vowel signs. -/
  | vowels
deriving DecidableEq, Repr

/-- What the character before `c` sees when `c` enters no sequence. -/
def follow (c : Char) : Follow :=
  let n := c.toNat
  if 0x1f3fb ≤ n ∧ n ≤ 0x1f3ff then .modifier
  else if 0x1f1e6 ≤ n ∧ n ≤ 0x1f1ff then .flagLetter
  else if isEmoji c then .emoji
  else if inRanges [(0x622, 0x623), (0x625, 0x625), (0x627, 0x627), (0x671, 0x673),
      (0x675, 0x675), (0x773, 0x774)] c then .alef
  else if n = 0x5dc then .ligature .lamed false
  else if n = 0x1a10 then .ligature .ya false
  else if inRanges [(0x1780, 0x1782), (0x1784, 0x1787), (0x1789, 0x178c), (0x178e, 0x1793),
      (0x1795, 0x1798), (0x179b, 0x179d), (0x17a0, 0x17a0), (0x17a2, 0x17a2), (0x17a7, 0x17a7),
      (0x17ab, 0x17ac), (0x17af, 0x17af)] c then .ligature .coengLetter false
  else if (0x2d31 ≤ n ∧ n ≤ 0x2d65) ∨ n = 0x2d6f then .ligature .tifinagh false
  else if n = 0xa4fc ∨ n = 0xa4fd then .ligature .toneLetter false
  else if n = 0x10c03 then .ligature .orkhon false
  else if n = 0x16d67 then .vowel
  else if n = 0x16d68 then .vowels
  else .plain

/-- Marks without a shape that may stand inside a ligature. -/
def isTransparent (c : Char) : Bool :=
  inRanges [(0x34f, 0x34f), (0x17b4, 0x17b5), (0x180b, 0x180d), (0x180f, 0x180f),
    (0xfe00, 0xfe0f), (0xe0100, 0xe01ef)] c

/-- The ranges of characters that take no cell and yet do not join what stands on their sides,
vowels and finals of Hangul apart. -/
def separatingRanges : List (Nat × Nat) :=
  [(0x605, 0x605), (0x890, 0x891), (0x8e2, 0x8e2), (0x9be, 0x9be), (0x9d7, 0x9d7), (0xb3e, 0xb3e),
   (0xb57, 0xb57), (0xbbe, 0xbbe), (0xbd7, 0xbd7), (0xcc0, 0xcc0), (0xcc2, 0xcc2), (0xcc7, 0xcc8),
   (0xcca, 0xccb), (0xcd5, 0xcd6), (0xd3e, 0xd3e), (0xd4e, 0xd4e), (0xd57, 0xd57), (0xdcf, 0xdcf),
   (0xddf, 0xddf), (0x1715, 0x1715), (0x1734, 0x1734), (0x180e, 0x180e), (0x1b35, 0x1b35),
   (0x1b3b, 0x1b3b), (0x1b3d, 0x1b3d), (0x1b43, 0x1b44), (0x1baa, 0x1baa), (0x1bf2, 0x1bf3),
   (0x200c, 0x200d), (0x2065, 0x2069), (0x302e, 0x302f), (0x3164, 0x3164), (0xa8fa, 0xa8fa),
   (0xa953, 0xa953), (0xa9c0, 0xa9c0), (0xffa0, 0xffa0), (0xfff0, 0xfff8), (0x111c0, 0x111c0),
   (0x111c2, 0x111c3), (0x11235, 0x11235), (0x1133e, 0x1133e), (0x1134d, 0x1134d),
   (0x11357, 0x11357), (0x113b8, 0x113b8), (0x113c2, 0x113c2), (0x113c5, 0x113c5),
   (0x113c7, 0x113c9), (0x113cf, 0x113cf), (0x113d1, 0x113d1), (0x114b0, 0x114b0),
   (0x114bd, 0x114bd), (0x115af, 0x115af), (0x116b6, 0x116b6), (0x11930, 0x11930),
   (0x1193d, 0x1193d), (0x1193f, 0x1193f), (0x11941, 0x11941), (0x11a84, 0x11a89),
   (0x11d46, 0x11d46), (0x11f02, 0x11f02), (0x11f41, 0x11f41), (0x16ff0, 0x16ff1),
   (0x1d165, 0x1d166), (0x1d16d, 0x1d172), (0xe0000, 0xe0000), (0xe0002, 0xe001f),
   (0xe0080, 0xe00ff), (0xe01f0, 0xe0fff)]

/-- Marks that may stand between a lam and an alef. -/
def isArabicTransparent (c : Char) : Bool :=
  charWidth c = 0 && !isMedialHangul c && !inRanges separatingRanges c

/-! ### Sequences -/

/-- The step of an emoji sequence behind a joiner: the cells that `c` adds to it. -/
def advanceJoined (j : Joined) (c : Char) : Option (Int × Follow) :=
  let n := c.toNat
  let letter := 0xe0061 ≤ n && n ≤ 0xe007a
  let digit := 0xe0030 ≤ n && n ≤ 0xe0039
  let region := 0x1f1e6 ≤ n && n ≤ 0x1f1ff
  match j with
  | .emoji =>
      if n = 0x20e3 then some (0, .joined .keycap)
      else if region then some (1, .joined .region)
      else if 0x1f3fb ≤ n ∧ n ≤ 0x1f3ff then some (0, .modifier)
      else if n = 0xe007f then some (0, .joined .tagEnd)
      else if isEmoji c then some (0, .emoji)
      else none
  | .keycap => none
  | .region => if region then some (-1, .joined .evenRegions) else none
  | .oddRegions =>
      if n = 0x200d then some (0, .joined .emoji)
      else if region then some (-1, .joined .evenRegions)
      else none
  | .evenRegions =>
      if n = 0x200d then some (0, .joined .emoji)
      else if region then some (3, .joined .oddRegions)
      else none
  | .tagEnd =>
      if letter then some (0, .joined (.tagLetters 1))
      else if digit then some (0, .joined (.tagDigits 1))
      else none
  | .tagLetters k =>
      if letter ∧ k < 6 then some (0, .joined (.tagLetters (k + 1)))
      else if digit ∧ k < 5 then some (0, .joined (.tagDigits 1))
      else if n = 0x1f3f4 ∧ 3 ≤ k then some (0, .emoji)
      else none
  | .tagDigits k =>
      if digit ∧ k < 3 then some (0, .joined (.tagDigits (k + 1)))
      else if n = 0x1f3f4 ∧ k = 3 then some (0, .emoji)
      else none

/-- The step of a ligature: the cells that `c` adds before its second half. -/
def advanceLigature (l : Ligature) (joiner : Bool) (c : Char) : Option (Int × Follow) :=
  let n := c.toNat
  let tifinagh := (0x2d31 ≤ n && n ≤ 0x2d65) || n == 0x2d6f
  if n = 0x200d then some (0, .ligature l true)
  else if isTransparent c then some (0, .ligature l joiner)
  else match l with
    | .lamed => if n = 0x5d0 ∧ joiner then some (0, .plain) else none
    | .ya => if n = 0x1a17 ∧ joiner then some (0, .ligature .vowelYa false) else none
    | .vowelYa => if n = 0x1a15 then some (0, .plain) else none
    | .coengLetter => if n = 0x17d2 then some (-1, .plain) else none
    | .tifinagh =>
        if n = 0x2d7f then some (1, .ligature .joinedTifinagh false)
        else if tifinagh ∧ joiner then some (0, .plain)
        else none
    | .joinedTifinagh => if tifinagh then some (-1, .plain) else none
    | .toneLetter => if 0xa4f8 ≤ n ∧ n ≤ 0xa4fb then some (0, .plain) else none
    | .orkhon => if n = 0x10c32 ∧ joiner then some (0, .plain) else none

/-- The step of any sequence: the cells that `c` adds to it, if it enters one. -/
def advanceSequence (f : Follow) (c : Char) : Option (Int × Follow) :=
  let n := c.toNat
  match f with
  | .plain | .lineFeed => none
  | .alef =>
      if inRanges [(0x644, 0x644), (0x6b5, 0x6b8), (0x76a, 0x76a), (0x8a6, 0x8a6),
          (0x8c7, 0x8c7)] c then some (0, .plain)
      else if isArabicTransparent c then some (0, .alef)
      else none
  | .emoji => if n = 0x200d then some (0, .joined .emoji) else none
  | .modifier =>
      if isModifierBase c then some (0, .emoji)
      else if n = 0x200d then some (0, .joined .emoji)
      else none
  | .flagLetter => if 0x1f1e6 ≤ n ∧ n ≤ 0x1f1ff then some (1, .flagLetters) else none
  | .flagLetters =>
      if 0x1f1e6 ≤ n ∧ n ≤ 0x1f1ff then some (1, .flagLetters)
      else if n = 0x200d then some (0, .joined .emoji)
      else none
  | .joined j => advanceJoined j c
  | .ligature l joiner => advanceLigature l joiner c
  | .vowel =>
      if n = 0x16d63 ∨ n = 0x16d69 then some (0, .plain)
      else if n = 0x16d67 then some (0, .vowels)
      else if n = 0x16d68 then some (1, .vowel)
      else none
  | .vowels => if n = 0x16d63 then some (0, .plain) else none

/-! ### Selectors -/

/-- What stands after a character: what it sees, and the selectors that stand between. -/
structure Ahead where
  /-- What it sees, selectors apart. -/
  follow : Follow := .plain
  /-- Whether U+FE0F asks for an emoji. -/
  emoji : Bool := false
  /-- Whether U+FE0E asks for text. -/
  text : Bool := false
  /-- Whether U+FE01 asks for a full-width form. -/
  full : Bool := false
deriving DecidableEq, Repr

/-- Whether selectors may stand before it without hiding it. -/
def Follow.lasts : Follow → Bool
  | .alef | .ligature _ _ => true
  | _ => false

namespace Ahead

/-- What stands after the emoji selector `a`; an emoji behind a joiner is still seen. -/
def selectEmoji (a : Ahead) : Ahead :=
  if a.follow.lasts then { a with emoji := true }
  else match a.follow with
    | .joined .emoji | .joined .keycap => { follow := a.follow, emoji := true }
    | _ => { emoji := true }

/-- The same with the text selector before it. -/
def selectText (a : Ahead) : Ahead :=
  if a.follow.lasts then { a with text := true } else { text := true }

/-- The same with the selector of full-width forms before it. -/
def selectFull (a : Ahead) : Ahead :=
  if a.follow.lasts then { a with full := true } else { full := true }

/-- The same when the emoji selector had nothing to select. -/
def dropEmoji (a : Ahead) : Ahead :=
  if !a.emoji then a
  else if a.follow.lasts then { a with emoji := false }
  else {}

/-- Whether an emoji behind a joiner is seen. -/
def isJoined (a : Ahead) : Bool :=
  match a.follow with
  | .joined _ => true
  | _ => false

end Ahead

/-- Whether a character is one of the quotation marks that have a full-width form. -/
def isCurlyQuote (c : Char) : Bool :=
  c = '\u2018' || c = '\u2019' || c = '\u201c' || c = '\u201d'

/-- The cells that a character adds and what the one before it sees, the emoji selector apart. -/
def advanceDrawn (a : Ahead) (c : Char) : Int × Ahead :=
  if c.toNat ≤ 0xa0 then
    if c = '\n' then (1, { follow := .lineFeed })
    else if c = '\r' ∧ a.follow = .lineFeed then (0, {})
    else (1, {})
  else if c = '\ufe0f' then (0, a.selectEmoji)
  else if c = '\ufe0e' then (0, a.selectText)
  else if c = '\ufe01' then (0, a.selectFull)
  else if a.text ∧ takesTextSelector c then (1, {})
  else if a.full ∧ isCurlyQuote c then (2, {})
  else match advanceSequence a.follow c with
    | some (w, f) => (w, { follow := f })
    | none => (charWidth c, { follow := follow c })

/-- The cells that a character adds, and what the one before it sees. -/
def advance (a : Ahead) (c : Char) : Int × Ahead :=
  if a.emoji ∧ takesEmojiSelector c then (if a.isJoined then 0 else 2, { follow := .emoji })
  else advanceDrawn a.dropEmoji c

/-- The cells that some characters take, and what stands before them sees. -/
def measure : List Char → Int × Ahead
  | [] => (0, {})
  | c :: cs =>
      let (n, a) := measure cs
      let (w, b) := advance a c
      (n + w, b)

/-- The number of cells that some characters take. -/
def width (cs : List Char) : Nat :=
  (measure cs).1.toNat

end RecordGrid.Text
