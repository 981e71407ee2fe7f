/-
**Pairs that were written as a query are read back.**

A query separates its pairs by ampersands and the two halves of a pair by the first equals sign.
Neither of them occurs in the written form of a name or value, nor does the number sign that would
end the query, so that a query falls apart again where its parts were joined.  Within a part every
byte is written in one of three ways, as itself, as a plus sign or by two hexadecimal digits, and
reading tells them apart by the first character alone.

Main results:

* `RecordGrid.Text.FormEncoding.decode_encode` — **a name or value is read back**;
* `RecordGrid.Text.FormEncoding.ne_of_mem_encode` — its written form has no separators;
* `RecordGrid.Text.FormEncoding.read_write` — **a list of pairs is read back**, order, repeated keys
  and empty texts included.
-/

import RecordGrid.Proofs.Text.Utf8
import RecordGrid.Text.FormEncoding

set_option relaxedAutoImplicit false
set_option autoImplicit false

namespace RecordGrid.Text.FormEncoding

/-! ### Bytes -/

theorem forall_byte {P : UInt8 → Prop} (h : ∀ n < 0x100, P (UInt8.ofNat n)) (b : UInt8) : P b := by
  have hb := h b.toNat b.toNat_lt
  rwa [UInt8.ofNat_toNat] at hb

theorem encode_singleton {c : Char} (h : c.toNat < 0x80) :
    Utf8.encode [c] = [UInt8.ofNat c.toNat] := by
  have hc : c.val.toNat ≤ 0x7f := Nat.le_of_lt_succ h
  rw [Utf8.encode_cons, Utf8.encode_nil, String.utf8EncodeChar, if_pos hc]
  rfl

/-- A byte that is written as itself is a character of its own, and is read as itself. -/
theorem isSafe_bounds {b : UInt8} : isSafe b = true →
    b.toNat < 0x80 ∧ b ≠ 0x2b ∧ b ≠ 0x25 ∧ Utf8.encode [Char.ofNat b.toNat] = [b] :=
  forall_byte (P := fun b => isSafe b = true →
    b.toNat < 0x80 ∧ b ≠ 0x2b ∧ b ≠ 0x25 ∧ Utf8.encode [Char.ofNat b.toNat] = [b])
    (by decide +kernel) b

theorem hexDigit_lt : ∀ n < 0x10, (hexDigit n).toNat < 0x80 := by
  decide

theorem hexValue?_hexDigit : ∀ n < 0x10,
    hexValue? (UInt8.ofNat (hexDigit n).toNat) = some (UInt8.ofNat n) := by
  decide

theorem two_digits (b : UInt8) :
    16 * UInt8.ofNat (b.toNat / 16) + UInt8.ofNat (b.toNat % 16) = b :=
  forall_byte (P := fun b => 16 * UInt8.ofNat (b.toNat / 16) + UInt8.ofNat (b.toNat % 16) = b)
    (by decide +kernel) b

theorem decodeBytes_plus (bs : List UInt8) : decodeBytes (0x2b :: bs) = 0x20 :: decodeBytes bs := by
  rw [decodeBytes]

theorem decodeBytes_percent {a b x y : UInt8} (ha : hexValue? a = some x)
    (hb : hexValue? b = some y) (bs : List UInt8) :
    decodeBytes (0x25 :: a :: b :: bs) = (16 * x + y) :: decodeBytes bs := by
  rw [decodeBytes, ha, hb]

theorem decodeBytes_other {b : UInt8} (hplus : b ≠ 0x2b) (hpercent : b ≠ 0x25) (bs : List UInt8) :
    decodeBytes (b :: bs) = b :: decodeBytes bs := by
  rw [decodeBytes]
  · exact hplus
  · intro h
    exact absurd h hpercent
  · intro a h
    exact absurd h hpercent
  · intro a c cs h
    exact absurd h hpercent

/-- **One byte is read back**, whatever follows. -/
theorem decodeBytes_encodeByte (b : UInt8) (bs : List UInt8) :
    decodeBytes (Utf8.encode (encodeByte b) ++ bs) = b :: decodeBytes bs := by
  unfold encodeByte
  split
  · next hsafe =>
      obtain ⟨-, hplus, hpercent, hencode⟩ := isSafe_bounds hsafe
      rw [hencode]
      exact decodeBytes_other hplus hpercent bs
  split
  · next hspace =>
      rw [hspace]
      exact decodeBytes_plus bs
  · have hb := b.toNat_lt
    have hhigh : b.toNat / 16 < 16 := by omega
    have hlow : b.toNat % 16 < 16 := by omega
    have hwritten : Utf8.encode ['%', hexDigit (b.toNat / 16), hexDigit (b.toNat % 16)] =
        [0x25, UInt8.ofNat (hexDigit (b.toNat / 16)).toNat,
          UInt8.ofNat (hexDigit (b.toNat % 16)).toNat] := by
      have happ := Utf8.encode_append ['%', hexDigit (b.toNat / 16)] [hexDigit (b.toNat % 16)]
      have happ' := Utf8.encode_append ['%'] [hexDigit (b.toNat / 16)]
      rw [encode_singleton (hexDigit_lt _ hlow)] at happ
      rw [encode_singleton (hexDigit_lt _ hhigh)] at happ'
      exact happ.trans (congrArg (· ++ _) happ')
    rw [hwritten]
    show decodeBytes (0x25 :: _ :: _ :: bs) = _
    rw [decodeBytes_percent (hexValue?_hexDigit _ hhigh) (hexValue?_hexDigit _ hlow), two_digits]

/-! ### Names and values -/

theorem decodeBytes_encodeBytes (bs : List UInt8) :
    decodeBytes (Utf8.encode (bs.flatMap encodeByte)) = bs := by
  induction bs with
  | nil => rfl
  | cons b bs ih => rw [List.flatMap_cons, Utf8.encode_append, decodeBytes_encodeByte, ih]

/-- **A name or value is read back.** -/
theorem decode_encode (cs : List Char) : decode (encode cs) = cs := by
  rw [decode, encode, decodeBytes_encodeBytes, Utf8.decode_encode]

theorem ne_of_isSafe {b : UInt8} (h : isSafe b = true) :
    Char.ofNat b.toNat ≠ '&' ∧ Char.ofNat b.toNat ≠ '=' ∧ Char.ofNat b.toNat ≠ '#' := by
  -- none of the three is safe
  refine ⟨?_, ?_, ?_⟩ <;> intro hc <;> rw [isSafe, hc] at h <;> revert h <;> decide

theorem hexDigit_ne : ∀ n < 0x10, hexDigit n ≠ '&' ∧ hexDigit n ≠ '=' ∧ hexDigit n ≠ '#' := by
  decide

theorem ne_of_mem_encodeByte {b : UInt8} {c : Char} (h : c ∈ encodeByte b) :
    c ≠ '&' ∧ c ≠ '=' ∧ c ≠ '#' := by
  unfold encodeByte at h
  split at h
  · next hsafe =>
      obtain rfl := List.mem_singleton.1 h
      exact ne_of_isSafe hsafe
  split at h
  · obtain rfl := List.mem_singleton.1 h
    decide
  · have hb := b.toNat_lt
    rcases List.mem_cons.1 h with rfl | h
    · decide
    rcases List.mem_cons.1 h with rfl | h
    · exact hexDigit_ne _ (by omega)
    · obtain rfl := List.mem_singleton.1 h
      exact hexDigit_ne _ (by omega)

/-- The written form of a name or value has no separators. -/
theorem ne_of_mem_encode {c : Char} {cs : List Char} (h : c ∈ encode cs) :
    c ≠ '&' ∧ c ≠ '=' ∧ c ≠ '#' := by
  obtain ⟨b, -, hc⟩ := List.mem_flatMap.1 h
  exact ne_of_mem_encodeByte hc

/-! ### Splitting -/

section Splitting

variable {α : Type} [DecidableEq α] {sep : α}

theorem takeWhile_ne_append {as : List α} (h : sep ∉ as) (bs : List α) :
    (as ++ bs).takeWhile (· ≠ sep) = as ++ bs.takeWhile (· ≠ sep) :=
  List.takeWhile_append_of_pos fun _ ha => decide_eq_true fun heq => h (heq ▸ ha)

theorem takeWhile_ne_of_not_mem {as : List α} (h : sep ∉ as) : as.takeWhile (· ≠ sep) = as := by
  have hall := takeWhile_ne_append h []
  rwa [List.append_nil, List.takeWhile_nil, List.append_nil] at hall

theorem dropWhile_ne_append {as : List α} (h : sep ∉ as) (bs : List α) :
    (as ++ bs).dropWhile (· ≠ sep) = bs.dropWhile (· ≠ sep) :=
  List.dropWhile_append_of_pos fun _ ha => decide_eq_true fun heq => h (heq ▸ ha)

/-- What stands before the first separator is split off. -/
theorem splitFirst_append {as : List α} (h : sep ∉ as) (bs : List α) :
    splitFirst sep (as ++ sep :: bs) = (as, bs) := by
  rw [splitFirst, takeWhile_ne_append h, dropWhile_ne_append h]
  simp

theorem splitFirst_of_not_mem {as : List α} (h : sep ∉ as) : splitFirst sep as = (as, []) := by
  have hdrop := dropWhile_ne_append h []
  rw [List.append_nil, List.dropWhile_nil] at hdrop
  rw [splitFirst, takeWhile_ne_of_not_mem h, hdrop]
  rfl

theorem splitOn_of_not_mem {as : List α} (h : sep ∉ as) : splitOn sep as = [as] := by
  induction as with
  | nil => rfl
  | cons a as ih =>
      have hne : a ≠ sep := fun heq => h (heq ▸ List.mem_cons_self ..)
      rw [splitOn, if_neg hne, ih fun ha => h (List.mem_cons_of_mem _ ha)]

theorem splitOn_append {as : List α} (h : sep ∉ as) (bs : List α) :
    splitOn sep (as ++ sep :: bs) = as :: splitOn sep bs := by
  induction as with
  | nil => rw [List.nil_append, splitOn, if_pos rfl]
  | cons a as ih =>
      have hne : a ≠ sep := fun heq => h (heq ▸ List.mem_cons_self ..)
      rw [List.cons_append, splitOn, if_neg hne, ih fun ha => h (List.mem_cons_of_mem _ ha)]

/-- **Parts that were joined by a separator fall apart again.** -/
theorem splitOn_intercalate {p : List α} {ps : List (List α)} (h : ∀ q ∈ p :: ps, sep ∉ q) :
    splitOn sep ([sep].intercalate (p :: ps)) = p :: ps := by
  induction ps generalizing p with
  | nil =>
      rw [List.intercalate_singleton]
      exact splitOn_of_not_mem (h p (List.mem_cons_self ..))
  | cons q ps ih =>
      have hp : sep ∉ p := h p (List.mem_cons_self ..)
      have hrest : ∀ r ∈ q :: ps, sep ∉ r := fun r hr => h r (List.mem_cons_of_mem _ hr)
      rw [List.intercalate_cons_cons, List.append_assoc, List.singleton_append, splitOn_append hp,
        ih hrest]

theorem splitOn_ne_nil (sep : α) (as : List α) : splitOn sep as ≠ [] := by
  cases as with
  | nil => simp [splitOn]
  | cons a as =>
      rw [splitOn]
      split
      · simp
      · split <;> simp

theorem splitOn_cons_of_ne {a : α} (h : a ≠ sep) (as : List α) :
    ∃ p ps, splitOn sep as = p :: ps ∧ splitOn sep (a :: as) = (a :: p) :: ps := by
  obtain ⟨p, ps, hps⟩ := List.exists_cons_of_ne_nil (splitOn_ne_nil sep as)
  exact ⟨p, ps, hps, by simp [splitOn, h, hps]⟩

/-- **Parts that fell apart are joined again.** -/
theorem intercalate_splitOn (sep : α) (as : List α) : [sep].intercalate (splitOn sep as) = as := by
  induction as with
  | nil => simp [splitOn]
  | cons a as ih =>
      by_cases h : a = sep
      · subst h
        obtain ⟨p, ps, hps⟩ := List.exists_cons_of_ne_nil (splitOn_ne_nil a as)
        have hsplit : splitOn a (a :: as) = [] :: p :: ps := by simp [splitOn, hps]
        rw [hsplit, List.intercalate_cons_cons, ← hps, ih]
        rfl
      · obtain ⟨p, ps, hps, hcons⟩ := splitOn_cons_of_ne h as
        rw [hps] at ih
        rw [hcons]
        cases ps with
        | nil =>
            rw [List.intercalate_singleton] at ih ⊢
            rw [ih]
        | cons q ps =>
            rw [List.intercalate_cons_cons] at ih ⊢
            rw [List.cons_append, List.cons_append, ih]

/-- No part has a separator. -/
theorem sep_notMem_of_mem_splitOn {as p : List α} (h : p ∈ splitOn sep as) : sep ∉ p := by
  induction as generalizing p with
  | nil =>
      rw [splitOn, List.mem_singleton] at h
      simp [h]
  | cons a as ih =>
      by_cases ha : a = sep
      · rw [splitOn, if_pos ha] at h
        rcases List.mem_cons.1 h with rfl | h
        · simp
        · exact ih h
      · obtain ⟨q, qs, hqs, hcons⟩ := splitOn_cons_of_ne ha as
        rw [hcons] at h
        rcases List.mem_cons.1 h with rfl | h
        · have hq : sep ∉ q := ih (hqs ▸ List.mem_cons_self ..)
          simp [hq, Ne.symm ha]
        · exact ih (hqs ▸ List.mem_cons_of_mem _ h)

end Splitting

/-! ### Pairs -/

/-- A pair is read back: its name has no equals sign in its written form. -/
theorem readPair_writePair (p : String × String) : readPair (writePair p) = p := by
  have hname : '=' ∉ encode p.1.toList := fun h => (ne_of_mem_encode h).2.1 rfl
  rw [readPair, writePair, splitFirst_append hname]
  simp only [decode_encode, String.ofList_toList]

theorem ne_of_mem_writePair {c : Char} {p : String × String} (h : c ∈ writePair p) :
    c ≠ '&' ∧ c ≠ '#' := by
  rcases List.mem_append.1 h with hname | hrest
  · exact ⟨(ne_of_mem_encode hname).1, (ne_of_mem_encode hname).2.2⟩
  · rcases List.mem_cons.1 hrest with rfl | hvalue
    · decide
    · exact ⟨(ne_of_mem_encode hvalue).1, (ne_of_mem_encode hvalue).2.2⟩

theorem isEmpty_writePair (p : String × String) : (writePair p).isEmpty = false := by
  rw [List.isEmpty_eq_false_iff]
  intro h
  have hmem : '=' ∈ writePair p := List.mem_append_right _ (List.mem_cons_self ..)
  rw [h] at hmem
  exact List.not_mem_nil hmem

/-- A query has no number sign. -/
theorem ne_of_mem_write {c : Char} {ps : List (String × String)} (h : c ∈ write ps) : c ≠ '#' := by
  induction ps with
  | nil => exact absurd h List.not_mem_nil
  | cons p ps ih =>
      cases ps with
      | nil =>
          rw [write, List.map_singleton, List.intercalate_singleton] at h
          exact (ne_of_mem_writePair h).2
      | cons q ps =>
          have hsplit : write (p :: q :: ps) = writePair p ++ '&' :: write (q :: ps) := by
            rw [write, List.map_cons, List.map_cons, List.intercalate_cons_cons,
              List.append_assoc]
            rfl
          rw [hsplit] at h
          rcases List.mem_append.1 h with hp | hrest
          · exact (ne_of_mem_writePair hp).2
          · rcases List.mem_cons.1 hrest with rfl | hq
            · decide
            · exact ih hq

/-- **A list of pairs is read back.** -/
theorem read_write (ps : List (String × String)) : read (write ps) = ps := by
  cases ps with
  | nil => rfl
  | cons p ps =>
      have hsep : ∀ q ∈ (p :: ps).map writePair, '&' ∉ q := by
        intro q hq hmem
        obtain ⟨r, -, rfl⟩ := List.mem_map.1 hq
        exact (ne_of_mem_writePair hmem).1 rfl
      have hfull : ∀ q ∈ (p :: ps).map writePair, (!q.isEmpty) = true := by
        intro q hq
        obtain ⟨r, -, rfl⟩ := List.mem_map.1 hq
        rw [isEmpty_writePair]
        rfl
      have hsplit : splitOn '&' (write (p :: ps)) = (p :: ps).map writePair :=
        splitOn_intercalate hsep
      rw [read, hsplit, List.filter_eq_self.2 hfull, List.map_map]
      exact List.map_id'' readPair_writePair _

end RecordGrid.Text.FormEncoding
