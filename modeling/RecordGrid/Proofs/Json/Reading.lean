/-
**Reading a text that goes on.**

The reader of JSON text takes one token after the other, and how much fuel it has left makes no
difference as long as there is enough.  So two texts that go on in the same way are read in the same
way from there on, and what stands before can be looked at by itself.  This is how an object is read
that begins with members which are known and goes on with any others.

Main definitions:

* `RecordGrid.Json.token?` — one token;
* `RecordGrid.Json.ReadAs` — the text of some members is read as certain drafts;
* `RecordGrid.Json.ReadsBack` — a value is read back from its text.

Main results:

* `RecordGrid.Json.scan_cons` — the scan, one token at a time;
* `RecordGrid.Json.scan_mono`, `RecordGrid.Json.readMembers_mono` — **more fuel changes nothing**;
* `RecordGrid.Json.scan_count` — a count is read back, up to what ends it;
* `RecordGrid.Json.scan_quote` — every text is read back from its quotation;
* `RecordGrid.Json.ReadsBack.draft?_counts` — **two counts before the members of an object that is
  read back**.
-/

import RecordGrid.Json.Draft
import RecordGrid.Json.Writer
import RecordGrid.Proofs.Url.Numeral

set_option relaxedAutoImplicit false
set_option autoImplicit false

namespace RecordGrid.Json

/-! ### One token at a time -/

/-- The token of a word or number, and what follows it. -/
def word? : Char → List Char → Option (Token × List Char)
  | 'n', 'u' :: 'l' :: 'l' :: rest => some (.null, rest)
  | 't', 'r' :: 'u' :: 'e' :: rest => some (.bool true, rest)
  | 'f', 'a' :: 'l' :: 's' :: 'e' :: rest => some (.bool false, rest)
  | c, cs => (takeNumber? (c :: cs)).map fun r => (.number r.1.number?, r.2)

/-- The token at a character, unless that one is blank, and what follows it. -/
def token? (c : Char) (cs : List Char) : Option (Option Token × List Char) :=
  if isBlank c then some (none, cs)
  else if c = '[' then some (some .leftBracket, cs)
  else if c = ']' then some (some .rightBracket, cs)
  else if c = '\x7b' then some (some .leftBrace, cs)
  else if c = '\x7d' then some (some .rightBrace, cs)
  else if c = ',' then some (some .comma, cs)
  else if c = ':' then some (some .colon, cs)
  else if c = '"' then (takeString? cs).map fun r => (some (.string r.1), r.2)
  else (word? c cs).map fun r => (some r.1, r.2)

/-- The scan takes one token, and goes on with what follows it. -/
theorem scan_cons (fuel : Nat) (c : Char) (cs : List Char) :
    scan (fuel + 1) (c :: cs) =
      (token? c cs).bind fun t => (scan fuel t.2).map (t.1.toList ++ ·) := by
  have hite {α β : Type} {p : Prop} [Decidable p] (a b : Option α) (f : α → Option β) :
      (if p then a else b).bind f = if p then a.bind f else b.bind f := by
    split <;> rfl
  have hnone : (scan fuel cs).map (([] : List Token) ++ ·) = scan fuel cs := by simp
  simp only [scan, token?, hite, Option.bind_some, Option.toList, List.singleton_append, hnone]
  congr 8
  · cases takeString? cs <;> rfl
  · split
    · rfl
    · rfl
    · rfl
    · next hnull htrue hfalse =>
        rw [word?.eq_4 c cs hnull htrue hfalse]
        cases takeNumber? (c :: cs) <;> rfl

theorem scan_of_token {c : Char} {cs rest : List Char} {t : Token} {ts : List Token} {fuel : Nat}
    (ht : token? c cs = some (some t, rest)) (h : scan fuel rest = some ts) :
    scan (fuel + 1) (c :: cs) = some (t :: ts) := by
  rw [scan_cons, ht, Option.bind_some, h]
  rfl

/-- What a scan that succeeds begins with. -/
theorem exists_scan_of_token {c : Char} {cs rest : List Char} {t : Token} {ts : List Token}
    {fuel : Nat} (ht : token? c cs = some (some t, rest))
    (h : scan (fuel + 1) (c :: cs) = some ts) : ∃ us, ts = t :: us ∧ scan fuel rest = some us := by
  rw [scan_cons, ht, Option.bind_some] at h
  obtain ⟨us, hus, rfl⟩ := Option.map_eq_some_iff.1 h
  exact ⟨us, rfl, hus⟩

/-! ### Fuel -/

/-- **More fuel changes nothing.** -/
theorem scan_mono {fuel fuel' : Nat} (hle : fuel ≤ fuel') {cs : List Char} {ts : List Token}
    (h : scan fuel cs = some ts) : scan fuel' cs = some ts := by
  induction fuel generalizing fuel' cs ts with
  | zero => cases h
  | succ fuel ih =>
      obtain ⟨fuel', rfl⟩ := Nat.exists_eq_add_one_of_ne_zero (Nat.ne_zero_of_lt hle)
      cases cs with
      | nil => exact h
      | cons c cs =>
          rw [scan_cons] at h ⊢
          obtain ⟨t, ht, h⟩ := Option.bind_eq_some_iff.1 h
          obtain ⟨us, hus, rfl⟩ := Option.map_eq_some_iff.1 h
          rw [ht, Option.bind_some, ih (Nat.le_of_succ_le_succ hle) hus, Option.map_some]

/-- A bind whose parts succeed more often succeeds more often. -/
theorem bind_mono {α β : Type} {x y : Option α} {f g : α → Option β}
    (hx : ∀ a, x = some a → y = some a) (hf : ∀ a b, f a = some b → g a = some b) {b : β}
    (h : x.bind f = some b) : y.bind g = some b := by
  obtain ⟨a, ha, hb⟩ := Option.bind_eq_some_iff.1 h
  rw [hx a ha]
  exact hf a b hb

theorem read_succ (fuel : Nat) :
    (∀ depth ts r, read fuel depth ts = some r → read (fuel + 1) depth ts = some r) ∧
    (∀ depth ts r, readItems fuel depth ts = some r → readItems (fuel + 1) depth ts = some r) ∧
    ∀ depth ts r, readMembers fuel depth ts = some r →
      readMembers (fuel + 1) depth ts = some r := by
  induction fuel with
  | zero =>
      refine ⟨?_, ?_, ?_⟩ <;> intro depth ts r h
      · simp [read] at h
      · simp [readItems] at h
      · simp [readMembers] at h
  | succ fuel ih =>
      obtain ⟨ihread, ihitems, ihmembers⟩ := ih
      refine ⟨?_, ?_, ?_⟩
      · intro depth ts r h
        unfold read at h ⊢
        -- only the two brackets with something between them ask for fuel
        split at h
        case h_8 => exact bind_mono (ihitems _ _) (fun _ _ h => h) h
        case h_10 => exact bind_mono (ihmembers _ _) (fun _ _ h => h) h
        all_goals exact h
      · intro depth ts r h
        unfold readItems at h ⊢
        refine bind_mono (ihread depth ts) ?_ h
        rintro ⟨d, rest⟩ r h
        simp only at h ⊢
        split at h
        · exact h
        · exact bind_mono (ihitems _ _) (fun _ _ h => h) h
        · cases h
      · intro depth ts r h
        unfold readMembers at h ⊢
        split at h
        · cases ‹_ + 1 = 0›
        · next n k us hn =>
            obtain rfl : fuel = n := Nat.succ.inj hn
            refine bind_mono (ihread _ _) ?_ h
            rintro ⟨d, rest⟩ r h
            simp only at h ⊢
            split at h
            · exact h
            · exact bind_mono (ihmembers _ _) (fun _ _ h => h) h
            · cases h
        · cases h

/-- **More fuel changes nothing.** -/
theorem readMembers_mono {fuel fuel' : Nat} (hle : fuel ≤ fuel') {depth : Nat} {ts : List Token}
    {r : List (Option String × Draft) × List Token} (h : readMembers fuel depth ts = some r) :
    readMembers fuel' depth ts = some r := by
  induction hle with
  | refl => exact h
  | step _ ih => exact (read_succ _).2.2 _ _ _ ih

/-! ### Counts -/

theorem foldl_digits_ge (ds : List Char) (n : Nat) :
    n ≤ ds.foldl (fun n c => 10 * n + digitValue c) n := by
  induction ds generalizing n with
  | nil => exact Nat.le_refl n
  | cons d ds ih => exact Nat.le_trans (by omega) (ih (10 * n + digitValue d))

/-- Digits whose number fits 64 bits are all taken. -/
theorem appendDigits_eq {ds : List Char} {n : Nat}
    (h : ds.foldl (fun n c => 10 * n + digitValue c) n < UInt64.size) :
    appendDigits n ds = (ds.foldl (fun n c => 10 * n + digitValue c) n, 0) := by
  induction ds generalizing n with
  | nil => rfl
  | cons d ds ih =>
      have hfits : 10 * n + digitValue d < UInt64.size :=
        Nat.lt_of_le_of_lt (foldl_digits_ge ds _) h
      rw [appendDigits, if_pos hfits]
      exact ih h

/-- The digits of a positive number begin with none that is zero. -/
theorem head?_toDigits_ne {n : Nat} (hn : 0 < n) : (Nat.toDigits 10 n).head? ≠ some '0' := by
  induction n using Nat.strongRecOn with
  | ind n ih =>
      rcases Nat.lt_or_ge n 10 with hlt | hge
      · have hdigit : ∀ m < 10, 0 < m → [Nat.digitChar m].head? ≠ some '0' := by decide
        rw [Nat.toDigits_of_lt_base hlt]
        exact hdigit n hlt hn
      · have hfirst : (Nat.toDigits 10 n).head? = (Nat.toDigits 10 (n / 10)).head? := by
          rw [Nat.toDigits_of_base_le (by decide) hge, List.head?_append,
            Option.or_of_isSome (List.isSome_head?.2 Nat.toDigits_ne_nil)]
        rw [hfirst]
        exact ih (n / 10) (Nat.div_lt_self hn (by decide)) (Nat.div_pos hge (by decide))

/-- A digit begins a number and nothing else. -/
theorem token?_of_isDigit {c : Char} (h : c.isDigit = true) (cs : List Char) :
    token? c cs = (takeNumber? (c :: cs)).map fun r => (some (.number r.1.number?), r.2) := by
  have hne {d : Char} (hd : d.isDigit = false) : c ≠ d := fun e => by
    rw [e, hd] at h
    cases h
  have hblank : isBlank c = false := by
    simp [isBlank, hne (d := ' ') rfl, hne (d := '\n') rfl, hne (d := '\t') rfl,
      hne (d := '\r') rfl]
  rw [token?, if_neg (by simp [hblank]), if_neg (hne rfl), if_neg (hne rfl), if_neg (hne rfl),
    if_neg (hne rfl), if_neg (hne rfl), if_neg (hne rfl), if_neg (hne rfl),
    word?.eq_4 c cs (fun _ e => absurd e (hne rfl)) (fun _ e => absurd e (hne rfl))
      (fun _ e => absurd e (hne rfl)), Option.map_map]
  rfl

/-- What may follow the text of a member. -/
def EndsMember (cs : List Char) : Prop := cs.head? = some ',' ∨ cs.head? = some '\x7d'

/-- The digits of a count are taken, up to what ends the member. -/
theorem takeNumber?_count (n : UInt64) {rest : List Char} (h : EndsMember rest) :
    takeNumber? ((toString n.toNat).toList ++ rest) =
      some (⟨false, (toString n.toNat).toList, none, none⟩, rest) := by
  generalize hds : (toString n.toNat).toList = ds
  have hdigit : ∀ c ∈ ds, c.isDigit = true := fun c hc => isDigit_of_mem_toString (hds ▸ hc)
  have htoDigits : ds = Nat.toDigits 10 n.toNat := by
    rw [← hds, Nat.toString_eq_repr, Nat.toList_repr]
  have hne : ds ≠ [] := htoDigits ▸ Nat.toDigits_ne_nil
  obtain ⟨d, us, rfl⟩ := List.exists_cons_of_ne_nil hne
  obtain ⟨e, vs, rfl, he⟩ : ∃ e vs, rest = e :: vs ∧ (e = ',' ∨ e = '\x7d') := by
    cases rest with
    | nil => simp [EndsMember] at h
    | cons e vs => exact ⟨e, vs, rfl, by simpa [EndsMember] using h⟩
  have hend : e.isDigit = false ∧ e ≠ '.' ∧ e ≠ 'e' ∧ e ≠ 'E' := by
    rcases he with rfl | rfl <;> decide
  have htake : takeDigits (d :: us ++ e :: vs) = (d :: us, e :: vs) := by
    rw [takeDigits, List.takeWhile_append_of_pos hdigit, List.dropWhile_append_of_pos hdigit,
      List.takeWhile_cons_of_neg (by simp [hend.1]), List.dropWhile_cons_of_neg (by simp [hend.1]),
      List.append_nil]
  have hzero : ((d :: us).head? == some '0' && decide (1 < (d :: us).length)) = false := by
    rcases Nat.eq_zero_or_pos n.toNat with h0 | hpos
    · rw [htoDigits, h0, Nat.toDigits_zero]
      rfl
    · rw [htoDigits]
      simp [head?_toDigits_ne hpos]
  have hsign : ∀ ws, d :: us ++ e :: vs ≠ '-' :: ws := by
    intro ws heq
    obtain ⟨rfl, -⟩ := List.cons.inj heq
    exact absurd (hdigit '-' (List.mem_cons_self ..)) (by decide)
  have hfraction : takeFraction? (e :: vs) = some (none, e :: vs) := by
    rw [takeFraction?.eq_2]
    exact fun _ heq => hend.2.1 (List.cons.inj heq).1
  have hexponent : takeExponent? (e :: vs) = some (none, e :: vs) := by
    simp [takeExponent?, hend.2.2]
  rw [takeNumber?.eq_2 _ hsign]
  simp only [htake, hzero, hfraction, Option.bind_eq_bind, Option.bind_some, hexponent]
  rfl

/-- The digits of a count make it up. -/
theorem number?_count (n : UInt64) :
    NumberLexeme.number? ⟨false, (toString n.toNat).toList, none, none⟩ = some (.nat n) := by
  have hvalue : (toString n.toNat).toList.foldl (fun n c => 10 * n + digitValue c) 0 = n.toNat := by
    rw [Nat.toString_eq_repr, Nat.toList_repr]
    exact (Nat.ofDigitChars_eq_foldl ..).symm.trans Nat.ofDigitChars_ten_toDigits
  have hall : appendDigits 0 (toString n.toNat).toList = (n.toNat, 0) := by
    rw [appendDigits_eq (by rw [hvalue]; exact n.toNat_lt), hvalue]
  simp only [NumberLexeme.number?, hall]
  simp

/-- **A count is read back**, up to what ends the member. -/
theorem scan_count (n : UInt64) {rest : List Char} (hrest : EndsMember rest) {fuel : Nat}
    {ts : List Token} (h : scan fuel rest = some ts) :
    scan (fuel + 1) ((toString n.toNat).toList ++ rest) = some (.number (some (.nat n)) :: ts) := by
  have hne : (toString n.toNat).toList ≠ [] := by
    rw [Nat.toString_eq_repr, Nat.toList_repr]
    exact Nat.toDigits_ne_nil
  obtain ⟨d, us, hds⟩ := List.exists_cons_of_ne_nil hne
  have hd : d.isDigit = true := isDigit_of_mem_toString (hds ▸ List.mem_cons_self ..)
  have hnumber : takeNumber? (d :: (us ++ rest)) = some (⟨false, d :: us, none, none⟩, rest) := by
    have h := takeNumber?_count n hrest
    rwa [hds] at h
  rw [hds, List.cons_append]
  refine scan_of_token ?_ h
  rw [token?_of_isDigit hd, hnumber, Option.map_some, ← hds, number?_count]

/-! ### Texts -/

/-- The piece that is written for a character: a control character without a letter of its own is
given by its number. -/
def StringPiece.written (c : Char) : StringPiece :=
  if c.toNat < 0x20 ∧ c ∉ ['\x08', '\t', '\n', '\x0c', '\r'] then .unit c.toNat else .char c

theorem hexValue?_hexDigit (n : Nat) : hexValue? (hexDigit n) = some (n % 16) := by
  have h : ∀ m < 16, hexValue? (Nat.digitChar m) = some m := by decide
  exact h (n % 16) (Nat.mod_lt n (by decide))

theorem takePieces?_escape (acc : List StringPiece) (c : Char) (rest : List Char) :
    takePieces? acc (escape c ++ rest) = takePieces? (.written c :: acc) rest := by
  unfold escape
  -- seven characters have an escape of their own
  iterate 7
    split
    · next h => subst h; rfl
  split
  · next hquote hslash _ _ _ _ _ hcontrol =>
      have hwritten : StringPiece.written c = .unit c.toNat := by
        simp [StringPiece.written, *]
      have hvalue : 4096 * 0 + 256 * 0 + 16 * (c.toNat / 16 % 16) + c.toNat % 16 = c.toNat := by
        omega
      have hzero : hexValue? '0' = some 0 := rfl
      rw [hwritten]
      simp only [List.cons_append, List.nil_append, takePieces?, hexValue?_hexDigit, hzero, hvalue]
  · next hquote hslash _ _ _ _ _ hcontrol =>
      have hwritten : StringPiece.written c = .char c := by
        simp [StringPiece.written, hcontrol]
      rw [hwritten, List.singleton_append, takePieces?.eq_5 _ _ _ hquote
        (fun _ _ _ _ _ h _ => hslash h) (fun _ _ h _ => hslash h),
        if_neg (by simp [hcontrol, hslash])]

theorem takePieces?_flatMap_escape (acc : List StringPiece) (cs rest : List Char) :
    takePieces? acc (cs.flatMap escape ++ '"' :: rest) =
      some (acc.reverse ++ cs.map .written, rest) := by
  induction cs generalizing acc with
  | nil => simp [takePieces?]
  | cons c cs ih =>
      rw [List.flatMap_cons, List.append_assoc, takePieces?_escape, ih]
      simp

theorem spell?_map_written (cs : List Char) :
    StringPiece.spell? (cs.map .written) = some cs := by
  induction cs with
  | nil => rfl
  | cons c cs ih =>
      rw [List.map_cons, StringPiece.written]
      split
      · next h =>
          unfold StringPiece.spell?
          rw [if_pos (Or.inl (by omega)), ih, Option.map_some, Char.ofNat_toNat]
      · rw [StringPiece.spell?, ih]
        rfl

/-- **Every text is read back from its quotation.** -/
theorem scan_quote (s : String) {rest : List Char} {fuel : Nat} {ts : List Token}
    (h : scan fuel rest = some ts) :
    scan (fuel + 1) ((quote s).toList ++ rest) = some (.string (some s) :: ts) := by
  have hquote : (quote s).toList ++ rest = '"' :: (s.toList.flatMap escape ++ '"' :: rest) := by
    simp [quote]
  have htake : takeString? (s.toList.flatMap escape ++ '"' :: rest) = some (some s, rest) := by
    rw [takeString?, takePieces?_flatMap_escape, List.reverse_nil, List.nil_append]
    show some ((StringPiece.spell? (s.toList.map .written)).map String.ofList, rest) = _
    rw [spell?_map_written, Option.map_some, String.ofList_toList]
  rw [hquote]
  refine scan_of_token ?_ h
  show (takeString? _).map _ = _
  rw [htake]
  rfl

/-! ### Objects -/

/-- The text of some members and the brace after them. -/
def membersChars (ms : List (String × Json)) : List Char :=
  (",".intercalate (memberTexts ms)).toList ++ ['\x7d']

theorem toList_text_object (ms : List (String × Json)) :
    (text (.object ms)).toList = '\x7b' :: membersChars ms := by
  rw [text, String.toList_append, String.toList_append, membersChars]
  rfl

theorem membersChars_singleton (k : String) (j : Json) :
    membersChars [(k, j)] = (quote k).toList ++ ':' :: ((text j).toList ++ ['\x7d']) := by
  simp [membersChars, memberTexts]

theorem membersChars_cons_cons (k : String) (j : Json) (m : String × Json)
    (ms : List (String × Json)) :
    membersChars ((k, j) :: m :: ms) =
      (quote k).toList ++ ':' :: ((text j).toList ++ ',' :: membersChars (m :: ms)) := by
  obtain ⟨l, i⟩ := m
  simp [membersChars, memberTexts]

/-- Members begin with a quotation mark. -/
theorem exists_membersChars_cons (m : String × Json) (ms : List (String × Json)) :
    ∃ cs, membersChars (m :: ms) = '"' :: cs := by
  obtain ⟨k, j⟩ := m
  cases ms with
  | nil => exact ⟨_, by rw [membersChars_singleton, quote]; simp; rfl⟩
  | cons m ms => exact ⟨_, by rw [membersChars_cons_cons, quote]; simp; rfl⟩

/-- The text of the members `ms` is read as the members `ds`. -/
def ReadAs (ms : List (String × Json)) (ds : List (Option String × Draft)) : Prop :=
  ∃ ts, scan ((membersChars ms).length + 1) (membersChars ms) = some ts ∧
    readMembers (2 * ts.length + 2) 1 ts = some (ds, [])

namespace ReadAs

variable {m : String × Json} {ms : List (String × Json)} {ds : List (Option String × Draft)}

/-- The tokens of members begin with a text. -/
theorem exists_tokens {fuel : Nat} {ts : List Token}
    (h : scan fuel (membersChars (m :: ms)) = some ts) : ∃ s us, ts = .string s :: us := by
  obtain ⟨cs, hcs⟩ := exists_membersChars_cons m ms
  rw [hcs] at h
  cases fuel with
  | zero => cases h
  | succ fuel =>
      rw [scan_cons] at h
      obtain ⟨t, ht, h⟩ := Option.bind_eq_some_iff.1 h
      obtain ⟨us, -, rfl⟩ := Option.map_eq_some_iff.1 h
      have hstring : (takeString? cs).map (fun r => (some (Token.string r.1), r.2)) = some t := ht
      obtain ⟨r, -, rfl⟩ := Option.map_eq_some_iff.1 hstring
      exact ⟨r.1, us, rfl⟩

/-- The tokens of an object whose members have the tokens `ts`. -/
theorem tokens?_object {ts : List Token}
    (h : scan ((membersChars ms).length + 1) (membersChars ms) = some ts) :
    tokens? (text (.object ms)) = some (.leftBrace :: ts) := by
  rw [tokens?, toList_text_object]
  exact scan_of_token rfl h

/-- An object is read as a whole when its members are. -/
theorem draft? (h : ReadAs (m :: ms) ds) :
    Json.draft? (text (.object (m :: ms))) = some (.object ds) := by
  obtain ⟨ts, hts, hds⟩ := h
  obtain ⟨s, us, rfl⟩ := exists_tokens hts
  have hread : read (2 * (Token.leftBrace :: .string s :: us).length + 1) 0
      (.leftBrace :: .string s :: us) = some (.object ds, []) := by
    show (readMembers (2 * (us.length + 1) + 2) 1 (.string s :: us)).bind _ = _
    rw [List.length_cons] at hds
    rw [hds]
    rfl
  rw [Json.draft?, tokens?_object hts]
  show (read _ 0 _).bind _ = _
  rw [hread]
  rfl

/-- A count is read as a member, up to what ends it. -/
theorem scan_count_member (k : String) (n : UInt64) {rest : List Char} (hrest : EndsMember rest)
    {fuel : Nat} {ts : List Token} (h : scan fuel rest = some ts) :
    scan (fuel + 3) ((quote k).toList ++ ':' :: ((text (.ofCount n)).toList ++ rest)) =
      some (.string (some k) :: .colon :: .number (some (.nat n)) :: ts) :=
  scan_quote k (scan_of_token rfl (scan_count n hrest h))

theorem two_le_length_quote (k : String) : 2 ≤ (quote k).toList.length := by
  simp [quote]

/-- A count before other members. -/
theorem cons_count (k : String) (n : UInt64) (h : ReadAs (m :: ms) ds) :
    ReadAs ((k, .ofCount n) :: m :: ms) ((some k, .value (.ofCount n)) :: ds) := by
  obtain ⟨ts, hts, hds⟩ := h
  refine ⟨.string (some k) :: .colon :: .number (some (.nat n)) :: .comma :: ts, ?_, ?_⟩
  · have hscan := scan_count_member k n (Or.inl rfl) (scan_of_token rfl hts)
    rw [membersChars_cons_cons]
    refine scan_mono ?_ hscan
    have := two_le_length_quote k
    simp only [List.length_append, List.length_cons]
    omega
  · have hlater : readMembers (2 * ts.length + 9) 1 ts = some (ds, []) :=
      readMembers_mono (by omega) hds
    show (readMembers (2 * ts.length + 9) 1 ts).bind _ = _
    rw [hlater]
    rfl

/-- A count alone. -/
theorem singleton_count (k : String) (n : UInt64) :
    ReadAs [(k, .ofCount n)] [(some k, .value (.ofCount n))] := by
  have hend : scan 2 ['\x7d'] = some [.rightBrace] := rfl
  refine ⟨[.string (some k), .colon, .number (some (.nat n)), .rightBrace], ?_, rfl⟩
  rw [membersChars_singleton]
  refine scan_mono ?_ (scan_count_member k n (Or.inr rfl) hend)
  have := two_le_length_quote k
  simp only [List.length_append, List.length_cons]
  omega

end ReadAs

/-- A value is read back from its text. -/
def ReadsBack (j : Json) : Prop := parse? j.text = some j

/-- The members of an object that is read back. -/
theorem ReadsBack.exists_members {m : String × Json} {ms : List (String × Json)}
    (h : ReadsBack (.object (m :: ms))) :
    ∃ ds js, ReadAs (m :: ms) ds ∧ Draft.jsonMembers? ds = some js ∧
      (KeyMap.ofList js).entries = m :: ms := by
  obtain ⟨d, hd, hj⟩ := Option.bind_eq_some_iff.1 h
  obtain ⟨ts, hts, hread⟩ := Option.bind_eq_some_iff.1 hd
  have htext : tokens? (text (.object (m :: ms))) =
      scan ((membersChars (m :: ms)).length + 1 + 1) ('\x7b' :: membersChars (m :: ms)) := by
    rw [tokens?, toList_text_object]
    rfl
  rw [htext] at hts
  obtain ⟨us, rfl, hus⟩ := exists_scan_of_token rfl hts
  obtain ⟨s, vs, rfl⟩ := ReadAs.exists_tokens hus
  obtain ⟨⟨e, rest⟩, he, hread⟩ := Option.bind_eq_some_iff.1 hread
  have hmembers : (readMembers (2 * (vs.length + 1) + 2) 1 (.string s :: vs)).bind
      (fun r => some (Draft.object r.1, r.2)) = some (e, rest) := he
  obtain ⟨⟨ds, rest⟩, hds, heq⟩ := Option.bind_eq_some_iff.1 hmembers
  cases heq
  cases rest with
  | cons t rest => cases hread
  | nil =>
      cases hread
      rw [Draft.json?] at hj
      obtain ⟨js, hjs, hobject⟩ := Option.map_eq_some_iff.1 hj
      exact ⟨ds, js, ⟨_, hus, hds⟩, hjs, Json.object.inj hobject⟩

/-- **Two counts before the members of an object that is read back.** -/
theorem ReadsBack.draft?_counts {ms : List (String × Json)} (h : ReadsBack (.object ms))
    (k l : String) (n o : UInt64) :
    ∃ ds js,
      draft? (text (.object ((k, .ofCount n) :: (l, .ofCount o) :: ms))) =
        some (.object ((some k, .value (.ofCount n)) :: (some l, .value (.ofCount o)) :: ds)) ∧
      Draft.jsonMembers? ds = some js ∧ (KeyMap.ofList js).entries = ms := by
  cases ms with
  | nil =>
      exact ⟨[], [], ((ReadAs.singleton_count l o).cons_count k n).draft?, rfl, rfl⟩
  | cons m ms =>
      obtain ⟨ds, js, hread, hjs, hentries⟩ := h.exists_members
      exact ⟨ds, js, ((hread.cons_count l o).cons_count k n).draft?, hjs, hentries⟩

end RecordGrid.Json
