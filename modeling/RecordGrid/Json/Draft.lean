/-
**Reading JSON text.**

Text becomes tokens, and tokens become a draft: a value whose objects still list their members as
written, repeated keys included, and in which unreadable parts are marked instead of refused.
Unreadable are numbers too large for a float, strings with half a surrogate pair, and containers
nested more than 127 deep.  Whoever decodes a draft may ignore a member, and then what is
unreadable inside it does no harm; `Draft.json?` asks for the whole value.

Main definitions:

* `RecordGrid.Json.Token`, `RecordGrid.Json.tokens?` — the tokens of a text;
* `RecordGrid.Json.Draft`, `RecordGrid.Json.draft?` — the draft of a text;
* `RecordGrid.Json.Draft.json?` — the value of a draft; of a repeated key the last value counts;
* `RecordGrid.Json.parse?` — the value of a text.
-/

import RecordGrid.Json.Lexeme

set_option relaxedAutoImplicit false
set_option autoImplicit false

namespace RecordGrid.Json

/-! ### Tokens -/

/-- A token of JSON text.  A number or string that cannot be read has no value. -/
inductive Token where
  | leftBracket
  | rightBracket
  | leftBrace
  | rightBrace
  | comma
  | colon
  | null
  | bool (b : Bool)
  | number (n : Option Number)
  | string (s : Option String)

/-- Whether a character may stand between tokens. -/
def isBlank (c : Char) : Bool :=
  c == ' ' || c == '\n' || c == '\t' || c == '\r'

/-- The tokens of some characters.  Each step consumes a character, so fuel above their number
suffices. -/
def scan : Nat → List Char → Option (List Token)
  | 0, _ => none
  | _ + 1, [] => some []
  | fuel + 1, c :: cs =>
      if isBlank c then scan fuel cs
      else if c = '[' then (scan fuel cs).map (.leftBracket :: ·)
      else if c = ']' then (scan fuel cs).map (.rightBracket :: ·)
      else if c = '\x7b' then (scan fuel cs).map (.leftBrace :: ·)
      else if c = '\x7d' then (scan fuel cs).map (.rightBrace :: ·)
      else if c = ',' then (scan fuel cs).map (.comma :: ·)
      else if c = ':' then (scan fuel cs).map (.colon :: ·)
      else if c = '"' then do
        let (s, rest) ← takeString? cs
        (scan fuel rest).map (.string s :: ·)
      else match c, cs with
        | 'n', 'u' :: 'l' :: 'l' :: rest => (scan fuel rest).map (.null :: ·)
        | 't', 'r' :: 'u' :: 'e' :: rest => (scan fuel rest).map (.bool true :: ·)
        | 'f', 'a' :: 'l' :: 's' :: 'e' :: rest => (scan fuel rest).map (.bool false :: ·)
        | c, cs => do
            let (l, rest) ← takeNumber? (c :: cs)
            (scan fuel rest).map (.number l.number? :: ·)

/-- The tokens of a text. -/
def tokens? (s : String) : Option (List Token) :=
  let cs := s.toList
  scan (cs.length + 1) cs

/-! ### Drafts -/

/-- A value as it was written. -/
inductive Draft where
  /-- A part whose value is known. -/
  | value (j : Json)
  /-- A part that cannot be read. -/
  | broken
  /-- A list of drafts. -/
  | array (items : List Draft)
  /-- Members in written order; an unreadable key has no text. -/
  | object (members : List (Option String × Draft))

instance : Inhabited Draft := ⟨.broken⟩

/-- Containers nested this deep are not read. -/
def depthLimit : Nat := 128

mutual

/-- The draft at the start of some tokens, inside `depth` containers.  Fuel above the number of
tokens suffices. -/
def read : Nat → Nat → List Token → Option (Draft × List Token)
  | 0, _, _ => none
  | fuel + 1, depth, ts => match ts with
    | .null :: rest => some (.value .null, rest)
    | .bool b :: rest => some (.value (.bool b), rest)
    | .number (some n) :: rest => some (.value (.number n), rest)
    | .string (some s) :: rest => some (.value (.string s), rest)
    | .number none :: rest => some (.broken, rest)
    | .string none :: rest => some (.broken, rest)
    | .leftBracket :: .rightBracket :: rest =>
        some (if depth + 1 < depthLimit then .array [] else .broken, rest)
    | .leftBracket :: rest => do
        let (items, rest) ← readItems fuel (depth + 1) rest
        some (if depth + 1 < depthLimit then .array items else .broken, rest)
    | .leftBrace :: .rightBrace :: rest =>
        some (if depth + 1 < depthLimit then .object [] else .broken, rest)
    | .leftBrace :: rest => do
        let (members, rest) ← readMembers fuel (depth + 1) rest
        some (if depth + 1 < depthLimit then .object members else .broken, rest)
    | _ => none

/-- The items of an array from its first item on, its closing bracket included. -/
def readItems : Nat → Nat → List Token → Option (List Draft × List Token)
  | 0, _, _ => none
  | fuel + 1, depth, ts => do
      let (d, rest) ← read fuel depth ts
      match rest with
      | .rightBracket :: rest => some ([d], rest)
      | .comma :: rest => do
          let (ds, rest) ← readItems fuel depth rest
          some (d :: ds, rest)
      | _ => none

/-- The members of an object from its first key on, its closing brace included. -/
def readMembers : Nat → Nat → List Token → Option (List (Option String × Draft) × List Token)
  | 0, _, _ => none
  | fuel + 1, depth, .string k :: .colon :: ts => do
      let (d, rest) ← read fuel depth ts
      match rest with
      | .rightBrace :: rest => some ([(k, d)], rest)
      | .comma :: rest => do
          let (ms, rest) ← readMembers fuel depth rest
          some ((k, d) :: ms, rest)
      | _ => none
  | _ + 1, _, _ => none

end

/-- The draft of a text that holds one value and nothing else. -/
def draft? (s : String) : Option Draft := do
  let ts ← tokens? s
  match ← read (2 * ts.length + 1) 0 ts with
  | (d, []) => some d
  | _ => none

namespace Draft

mutual

/-- The value of a draft, if all of it can be read. -/
def json? : Draft → Option Json
  | .value j => some j
  | .broken => none
  | .array items => (jsonItems? items).map .array
  | .object members => (jsonMembers? members).map fun ms => .ofMap (KeyMap.ofList ms)

/-- The values of a list of drafts. -/
def jsonItems? : List Draft → Option (List Json)
  | [] => some []
  | d :: ds => do
      let j ← json? d
      let js ← jsonItems? ds
      some (j :: js)

/-- The members of an object with their values. -/
def jsonMembers? : List (Option String × Draft) → Option (List (String × Json))
  | [] => some []
  | (k, d) :: ds => do
      let k ← k
      let j ← json? d
      let js ← jsonMembers? ds
      some ((k, j) :: js)

end

end Draft

/-- The value of a text that holds one value and nothing else. -/
def parse? (s : String) : Option Json := do
  (← draft? s).json?

end RecordGrid.Json
