/-
**What paging leaves behind in the history.**

Turning pages rewrites the address bar and adds nothing to the history; navigating adds an entry and
rewrites nothing.  However the two alternate, the entries below the top stay as they were left, and
the top is the address that was pushed last, apart from its pagination.  And since a rewrite drops
the pagination that it finds, what it leaves in the address bar depends on that address and on the
new page and page size only, and not on what has stood there in between.

Main definitions:

* `RecordGrid.UrlPagingConfig.SamePlace` — two addresses that differ in their pagination only;
* `RecordGrid.UrlPaging.turn` — a change of page or page size, or none;
* `RecordGrid.UrlPaging.LeadsTo` — what pushes and turns can lead to.

Main results:

* `RecordGrid.UrlPagingConfig.SamePlace.writeAddress_eq` — **what is written depends on the place
  only**;
* `RecordGrid.UrlPaging.LeadsTo.trans`, `turn`, `push` — what it takes to follow a run;
* `RecordGrid.UrlPaging.LeadsTo.current_paginate` — **the address bar after a turn**.
-/

import RecordGrid.Proofs.Url.ReadBack

set_option relaxedAutoImplicit false
set_option autoImplicit false

namespace RecordGrid

/-! ### Places -/

/-- Two addresses differ in their pagination only: they agree in everything but the query, and in
the order of the pairs that have nothing to do with pagination. -/
structure UrlPagingConfig.SamePlace (c : UrlPagingConfig) (a b : Address) : Prop where
  rest : b = { a with query := b.query }
  others : c.others b.query = c.others a.query

namespace UrlPagingConfig.SamePlace

variable {c : UrlPagingConfig} {a b d : Address}

theorem refl (c : UrlPagingConfig) (a : Address) : c.SamePlace a a := ⟨rfl, rfl⟩

theorem trans (h : c.SamePlace a b) (h' : c.SamePlace b d) : c.SamePlace a d := by
  constructor
  · have hb := h.rest
    have hd := h'.rest
    rw [hb] at hd
    exact hd
  · exact h'.others.trans h.others

theorem writeAddress (c : UrlPagingConfig) (a : Address) (page size : Option Count) :
    c.SamePlace a (UrlPaging.writeAddress c a page size) :=
  ⟨UrlPaging.writeAddress_eq c a page size, UrlPaging.others_writeAddress c a page size⟩

/-- **What is written depends on the place only.** -/
theorem writeAddress_eq (h : c.SamePlace a b) (page size : Option Count) :
    UrlPaging.writeAddress c b page size =
      { a with
        query :=
          c.others a.query ++ UrlPaging.pagePairs c page ++ UrlPaging.sizePairs c size } := by
  have hquery := UrlPaging.query_writeAddress c b page size
  rw [h.others, ← List.append_assoc] at hquery
  rw [UrlPaging.writeAddress_eq, hquery, h.rest]

end UrlPagingConfig.SamePlace

namespace UrlPaging

/-! ### Turns -/

/-- A page and a page size to change to, as far as they are named. -/
abbrev Turn := Option Count × Option Count

/-- The pagination after a turn, if there is one. -/
def turn (u : UrlPaging) : Option Turn → UrlPaging
  | some t => u.paginate t.1 t.2
  | none => u

@[simp] theorem turn_none (u : UrlPaging) : u.turn none = u := rfl

@[simp] theorem turn_some (u : UrlPaging) (t : Turn) : u.turn (some t) = u.paginate t.1 t.2 := rfl

/-- A turn rewrites the current address, which stays where it is, and leaves the others alone. -/
theorem history_paginate (u : UrlPaging) (page size : Option Count) :
    (u.paginate page size).history =
      { u.history with
        current :=
          writeAddress u.config u.history.current (some (u.paginate page size).page)
            (some (u.paginate page size).size) } := rfl

/-! ### What pushes and turns lead to -/

/-- What becomes of `u` when the addresses `pushed` are pushed, earliest first, with turns before,
between and after them. -/
structure LeadsTo (u : UrlPaging) (pushed : List Address) (v : UrlPaging) : Prop where
  config : v.config = u.config
  /-- Nothing below the top changes. -/
  earlier : u.history.earlier <:+ v.history.earlier
  /-- Only pushes add entries. -/
  length : v.history.length = u.history.length + pushed.length
  /-- The top is the address that was pushed last, apart from its pagination. -/
  place : u.config.SamePlace (pushed.getLast?.getD u.history.current) v.history.current

namespace LeadsTo

variable {u v w : UrlPaging} {as bs : List Address}

theorem refl (u : UrlPaging) : u.LeadsTo [] u where
  config := rfl
  earlier := List.suffix_refl _
  length := rfl
  place := .refl _ _

theorem trans (h : u.LeadsTo as v) (h' : v.LeadsTo bs w) : u.LeadsTo (as ++ bs) w := by
  have hplace := h'.place
  rw [h.config] at hplace
  constructor
  · rw [h'.config, h.config]
  · exact h.earlier.trans h'.earlier
  · rw [h'.length, h.length, List.length_append, Nat.add_assoc]
  · -- the later pushes decide where the top is, unless there are none
    cases hbs : bs.getLast? with
    | none =>
        rw [hbs, Option.getD_none] at hplace
        rw [List.getLast?_append, hbs, Option.none_or]
        exact h.place.trans hplace
    | some b =>
        rw [hbs, Option.getD_some] at hplace
        rw [List.getLast?_append, hbs, Option.some_or, Option.getD_some]
        exact hplace

theorem turn (u : UrlPaging) (t : Option Turn) : u.LeadsTo [] (u.turn t) := by
  cases t with
  | none => exact refl u
  | some t =>
      have hcurrent := congrArg History.current (u.history_paginate t.1 t.2)
      constructor
      · exact config_paginate u t.1 t.2
      · exact List.suffix_refl u.history.earlier
      · rfl
      · rw [turn_some, hcurrent]
        exact .writeAddress u.config u.history.current _ _

theorem push (u : UrlPaging) (a : Address) : u.LeadsTo [a] (u.push a) where
  config := rfl
  earlier := List.suffix_cons _ _
  length := rfl
  place := .refl _ _

/-- **The address bar after a turn**: the address that was pushed last, with the pairs that have
nothing to do with pagination in front, and the new page and page size behind them unless they hold
their defaults. -/
theorem current_paginate (h : u.LeadsTo as v) (page size : Option Count) :
    (v.paginate page size).history.current =
      { as.getLast?.getD u.history.current with
        query :=
          u.config.others (as.getLast?.getD u.history.current).query ++
              pagePairs u.config (some (v.paginate page size).page) ++
            sizePairs u.config (some (v.paginate page size).size) } := by
  rw [history_paginate, h.config]
  exact h.place.writeAddress_eq _ _

end LeadsTo

end UrlPaging

end RecordGrid
