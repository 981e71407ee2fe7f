/-
**Cutting and padding of printable ASCII.**

Most of what makes the width of a text hard to tell does not occur among the characters that ASCII
prints.  Each of them takes one cell whatever stands beside it, each is a cluster of its own, and a
terminal draws all of them.  The same holds after a cut, for the ellipsis is no part of a sequence
either, so that the cells counted before a cut are those drawn after it and a cell of a table comes
out as wide as it was asked to be.

Main definitions:

* `RecordGrid.Text.Printable` — the characters that ASCII prints;
* `RecordGrid.Text.Shortened` — printable characters, with or without an ellipsis behind them.

Main results:

* `RecordGrid.Text.Printable.width`, `RecordGrid.Text.Printable.clusters` — one cell and one cluster
  for each character;
* `RecordGrid.Text.Printable.truncate` — what a cut leaves;
* `RecordGrid.Text.Shortened.drawnWidth` — a terminal draws one cell for each character;
* `RecordGrid.Text.Printable.length_fit` — **a text that was cut or padded to `n` cells has `n`
  characters**.
-/

import RecordGrid.Proofs.Text.FormEncoding
import RecordGrid.Text.Fit

set_option relaxedAutoImplicit false
set_option autoImplicit false

namespace RecordGrid.Text

/-- All characters are among those that ASCII prints, the blank included. -/
def Printable (cs : List Char) : Prop := ∀ c ∈ cs, 0x20 ≤ c.toNat ∧ c.toNat < 0x7f

-- Named, so that it goes through the list and not through all characters.
instance (cs : List Char) : Decidable (Printable cs) := List.decidableBAll _ cs

/-- Printable characters that may have been cut: there may be an ellipsis behind them. -/
def Shortened (cs : List Char) : Prop :=
  ∃ ds rest, Printable ds ∧ (rest = [] ∨ rest = [ellipsis]) ∧ cs = ds ++ rest

theorem inRanges_of_lt {rs : List (Nat × Nat)} {n : Nat} (h : ∀ r ∈ rs, n ≤ r.1) {c : Char}
    (hc : c.toNat < n) : inRanges rs c = false := by
  rw [Bool.eq_false_iff]
  intro hin
  obtain ⟨r, hr, hle, -⟩ := inRanges_iff.1 hin
  have hn : n ≤ r.1 := h r hr
  omega

/-! ### One character -/

section

variable {c : Char}

theorem advance_printable (h : 0x20 ≤ c.toNat ∧ c.toNat < 0x7f) : advance {} c = (1, {}) := by
  have hdrop : ({} : Ahead).dropEmoji = {} := rfl
  have hlow : c.toNat ≤ 0xa0 := by omega
  have hfeed : c ≠ '\n' := by
    rintro rfl
    exact absurd h (by decide)
  have hreturn : c ≠ '\r' := by
    rintro rfl
    exact absurd h (by decide)
  simp [advance, hdrop, advanceDrawn, hlow, hfeed, hreturn]

theorem breakClass_printable (h : 0x20 ≤ c.toNat ∧ c.toNat < 0x7f) : breakClass c = .other := by
  have hreturn : c.toNat ≠ 0x0d := by omega
  have hfeed : c.toNat ≠ 0x0a := by omega
  have hjoiner : c.toNat ≠ 0x200d := by omega
  simp [breakClass, hreturn, hfeed, hjoiner, h]

theorem boundary_printable (h : 0x20 ≤ c.toNat ∧ c.toNat < 0x7f) {s : ClusterState}
    (hs : s.last = .other) : s.boundary c = true := by
  have hclass : breakClass c = .other := breakClass_printable h
  have hconsonant : isLinkable c = false := inRanges_of_lt (n := 0x7f) (by decide +kernel) h.2
  have hemoji : isPictographic c = false := inRanges_of_lt (n := 0x7f) (by decide +kernel) h.2
  simp [ClusterState.boundary, ClusterState.separates, ClusterState.syllable, hs, hclass,
    hconsonant, hemoji]

theorem isControl_printable (h : 0x20 ≤ c.toNat ∧ c.toNat < 0x7f) :
    Escape.isControl c = false := by
  have hlow : ¬ c.toNat < 0x20 := by omega
  have hhigh : ¬ 0x80 ≤ c.toNat := by omega
  simp [Escape.isControl, hlow, hhigh]

end

/-! ### Printable texts -/

namespace Printable

variable {cs : List Char}

theorem tail {c : Char} (h : Printable (c :: cs)) : Printable cs :=
  fun d hd => h d (List.mem_cons_of_mem c hd)

theorem take (h : Printable cs) (n : Nat) : Printable (cs.take n) :=
  fun c hc => h c (List.mem_of_mem_take hc)

/-- Each character adds a cell to what stands after it, unless that is the second half of a
sequence.  What stands after it is measured first, so the induction is on the characters in front
of a rest that may be the ellipsis. -/
theorem measure_append (h : Printable cs) {rest : List Char} (hrest : (measure rest).2 = {}) :
    measure (cs ++ rest) = ((measure rest).1 + cs.length, {}) := by
  induction cs with
  | nil =>
      rw [List.nil_append, ← hrest]
      exact Prod.ext (Int.add_zero _).symm rfl
  | cons c cs ih =>
      have hc : advance {} c = (1, {}) := advance_printable (h c (List.mem_cons_self ..))
      rw [List.cons_append, measure, ih h.tail]
      simp only [hc, List.length_cons]
      refine Prod.ext ?_ rfl
      show (measure rest).1 + (cs.length : Int) + 1 = _ + ((cs.length + 1 : Nat) : Int)
      omega

theorem width (h : Printable cs) : width cs = cs.length := by
  have hmeasure := h.measure_append (show (measure []).2 = {} from rfl)
  rw [List.append_nil] at hmeasure
  rw [Text.width, hmeasure]
  show (0 + (cs.length : Int)).toNat = cs.length
  omega

theorem clustersFrom (h : Printable cs) {s : ClusterState} (hs : s.last = .other) :
    clustersFrom s cs = ([], cs.map fun c => [c]) := by
  induction cs generalizing s with
  | nil => rfl
  | cons c cs ih =>
      have hc := h c (List.mem_cons_self ..)
      have hnext : (s.next c).last = .other := breakClass_printable hc
      rw [Text.clustersFrom, ih h.tail hnext]
      simp [boundary_printable hc hs]

/-- Each character is a cluster. -/
theorem clusters (h : Printable cs) : clusters cs = cs.map fun c => [c] := by
  cases cs with
  | nil => rfl
  | cons c cs =>
      have hnext : (ClusterState.initial.next c).last = .other :=
        breakClass_printable (h c (List.mem_cons_self ..))
      rw [Text.clusters, h.tail.clustersFrom hnext]
      rfl

theorem takeCells (h : Printable cs) (n : Nat) :
    takeCells n (cs.map fun c => [c]) = cs.take n := by
  induction cs generalizing n with
  | nil => simp [Text.takeCells]
  | cons c cs ih =>
      have hc : Printable [c] := fun d hd => h d (List.mem_of_mem_take (i := 1) hd)
      have hwidth : Text.width [c] = 1 := hc.width
      rw [List.map_cons, Text.takeCells, hwidth]
      cases n with
      | zero => simp
      | succ n =>
          rw [if_pos (by omega), Nat.add_sub_cancel, ih h.tail]
          rfl

/-- **What a cut leaves**: the text, if there is room for it, and else what fits beside the
ellipsis, or nothing where not even that fits. -/
theorem truncate (h : Printable cs) (n : Nat) :
    truncate cs n = if cs.length ≤ n then cs
      else if n = 0 then [] else cs.take (n - 1) ++ [ellipsis] := by
  rw [Text.truncate, h.width, h.clusters, h.takeCells]

theorem shortened_truncate (h : Printable cs) (n : Nat) : Shortened (Text.truncate cs n) := by
  rw [h.truncate]
  split
  · exact ⟨cs, [], h, .inl rfl, (List.append_nil cs).symm⟩
  · split
    · exact ⟨[], [], fun c hc => absurd hc (List.not_mem_nil), .inl rfl, rfl⟩
    · exact ⟨cs.take (n - 1), [ellipsis], h.take (n - 1), .inr rfl, rfl⟩

theorem length_truncate_le (h : Printable cs) (n : Nat) : (Text.truncate cs n).length ≤ n := by
  rw [h.truncate]
  split
  · assumption
  · split
    · exact Nat.zero_le n
    · rw [List.length_append, List.length_take, List.length_singleton]
      omega

end Printable

/-! ### Shortened texts -/

namespace Shortened

variable {cs : List Char}

theorem mem {c : Char} (h : Shortened cs) (hc : c ∈ cs) :
    (0x20 ≤ c.toNat ∧ c.toNat < 0x7f) ∨ c = ellipsis := by
  obtain ⟨ds, rest, hds, hrest, rfl⟩ := h
  rcases List.mem_append.1 hc with hc | hc
  · exact .inl (hds c hc)
  · rcases hrest with rfl | rfl
    · exact absurd hc List.not_mem_nil
    · exact .inr (List.mem_singleton.1 hc)

theorem isControl (h : Shortened cs) {c : Char} (hc : c ∈ cs) : Escape.isControl c = false := by
  rcases h.mem hc with hc | rfl
  · exact isControl_printable hc
  · rfl

theorem width (h : Shortened cs) : width cs = cs.length := by
  obtain ⟨ds, rest, hds, rfl | rfl, rfl⟩ := h
  · rw [List.append_nil, hds.width]
  · have hmark : measure [ellipsis] = (1, {}) := by decide +kernel
    rw [Text.width, hds.measure_append (by rw [hmark]), hmark, List.length_append]
    show (1 + (ds.length : Int)).toNat = ds.length + 1
    omega

/-- **A terminal draws one cell for each character.** -/
theorem drawnWidth (h : Shortened cs) : drawnWidth cs = cs.length := by
  have hline : '\n' ∉ cs := by
    intro hmem
    exact absurd (h.isControl hmem) (by decide)
  have hstrip : Escape.strip cs = cs := Escape.strip_eq_self fun _ hc => h.isControl hc
  rw [Text.drawnWidth, lines, FormEncoding.splitOn_of_not_mem hline, List.map_singleton, hstrip,
    h.width]
  exact Nat.zero_max cs.length

end Shortened

/-! ### Fitting -/

namespace Printable

variable {cs : List Char}

/-- **A text that was cut or padded to `n` cells has `n` characters.** -/
theorem length_fit (h : Printable cs) (n : Nat) : (fit cs n).length = n := by
  have hle : (Text.truncate cs n).length ≤ n := h.length_truncate_le n
  rw [fit, (h.shortened_truncate n).drawnWidth, List.length_append, List.length_replicate]
  omega

/-- Nothing else than printable characters and ellipses comes out. -/
theorem mem_fit (h : Printable cs) {n : Nat} {c : Char} (hc : c ∈ fit cs n) :
    (0x20 ≤ c.toNat ∧ c.toNat < 0x7f) ∨ c = ellipsis := by
  rcases List.mem_append.1 hc with hc | hc
  · exact (h.shortened_truncate n).mem hc
  · rw [List.eq_of_mem_replicate hc]
    exact .inl (by decide)

end Printable

end RecordGrid.Text
