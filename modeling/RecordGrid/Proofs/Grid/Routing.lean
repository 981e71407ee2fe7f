/-
**Grids on one message loop.**

A grid takes an arrival through its coordinator and then looks after its cursor.  Neither is done
for the arrival of another grid, so grids are parties in the sense of `RecordGrid.Party`, with all
that belongs to them: cursor, selection, filter form, and what the host and the user were told.

Main definitions:

* `RecordGrid.Grid.party` — grids as parties.

Main results:

* `RecordGrid.message_loops_keep_apart` — **coordinators and grids on one loop go their own ways**.
-/

import RecordGrid.Proofs.Fetch.Routing
import RecordGrid.Proofs.Grid.Operations

set_option relaxedAutoImplicit false
set_option autoImplicit false

namespace RecordGrid

/-- Grids, with what they have sent and told, as parties. -/
def Grid.party : Party GridSession Grid.Operation where
  id s := s.grid.coordinator.id
  sent s := s.sent
  act s o := s.operate o
  take s a := s.take a
  consumes s a := (s.grid.coordinator.receive a).consumed
  id_act := GridSession.id_operate
  id_take := GridSession.id_take
  sent_act := GridSession.sent_operate
  sent_take := GridSession.sent_take
  consumes_iff _ _ := Coordinator.consumed_receive_iff
  take_of_ne _ _ h := GridSession.take_of_ne h

/-- Grids with different numbers that have sent nothing yet are distinct parties. -/
theorem Grid.party_distinct {ι : Type} {g : ι → Grid}
    (h : Function.Injective fun i => (g i).coordinator.id) :
    Grid.party.Distinct fun i => GridSession.ofGrid (g i) :=
  ⟨h, fun _ _ hf => nomatch hf⟩

/-- **Coordinators and grids on one loop go their own ways.**  Let any number of coordinators, or of
grids, have different numbers, and let the arrivals of all be delivered to all: late, several times,
and in any order, while they load and change.  At every point of every such run an arrival is
reported as consumed by the one that sent the fetch and by no other; and all of them, with what they
have sent and told, are where they would be if no message of another had been delivered to anybody,
and each is where it would be if the others had done nothing at all. -/
theorem message_loops_keep_apart {ι : Type} [DecidableEq ι] :
    (∀ c : ι → Coordinator, Function.Injective (fun i => (c i).id) → ∀ es,
      Coordinator.party.IsRun (fun i => .ofCoordinator (c i)) es →
        Coordinator.party.Apart (fun i => .ofCoordinator (c i)) es) ∧
    ∀ g : ι → Grid, Function.Injective (fun i => (g i).coordinator.id) → ∀ es,
      Grid.party.IsRun (fun i => .ofGrid (g i)) es →
        Grid.party.Apart (fun i => .ofGrid (g i)) es :=
  ⟨fun _ h _ hes => (Coordinator.party_distinct h).apart hes,
    fun _ h _ hes => (Grid.party_distinct h).apart hes⟩

/-! ### Two grids -/

/-- The first fetch of a grid that loads its first page; every grid numbers it one. -/
def firstFetch (owner : Nat) : Fetch :=
  { owner, seq := 1, request := .ofPage 1 20, finish := .ok }

/-- Two grids that have something to fetch with. -/
def twoGrids (second : Bool) : Grid :=
  let g := Grid.ofSchema (if second then 2 else 1) {} []
  { g with coordinator := { g.coordinator with canFetch := true } }

/-- The answer for the second grid comes first, and both answers are handed to both. -/
def crossed {α : Type} (load : α) : List (Party.Event Bool α) :=
  let early : Outcome := .ok { total := some 70 }
  let late : Outcome := .error (.request "gone")
  [.act false load, .act true load,
    .deliver false true (firstFetch 2) early, .deliver true true (firstFetch 2) early,
    .deliver true false (firstFetch 1) late, .deliver false false (firstFetch 1) late]

/-- The first grid is told of its failure and has no total, the second one has its rows. -/
theorem message_loops_keep_apart_crossed :
    Coordinator.party.Apart (fun i => .ofCoordinator (twoGrids i).coordinator)
        (crossed .reload) ∧
      Grid.party.Apart (fun i => .ofGrid (twoGrids i)) (crossed .start) ∧
      (Grid.party.run (fun i => .ofGrid (twoGrids i)) (crossed .start) false).notices =
        ["Failed to load data: gone"] ∧
      (Grid.party.run (fun i => .ofGrid (twoGrids i)) (crossed .start) false).grid.pager.total = 0 ∧
      (Grid.party.run (fun i => .ofGrid (twoGrids i)) (crossed .start) true).grid.pager.total =
        70 := by
  have hids : Function.Injective fun i => (twoGrids i).coordinator.id := by
    unfold Function.Injective
    decide
  have hc : Coordinator.party.IsRun
      (fun i => .ofCoordinator (twoGrids i).coordinator) (crossed .reload) :=
    ⟨trivial, trivial, List.mem_singleton.2 rfl, List.mem_singleton.2 rfl,
      List.mem_singleton.2 rfl, List.mem_singleton.2 rfl, trivial⟩
  have hg : Grid.party.IsRun (fun i => .ofGrid (twoGrids i)) (crossed .start) :=
    ⟨trivial, trivial, List.mem_singleton.2 rfl, List.mem_singleton.2 rfl,
      List.mem_singleton.2 rfl, List.mem_singleton.2 rfl, trivial⟩
  obtain ⟨hcoordinators, hgrids⟩ := @message_loops_keep_apart Bool _
  exact ⟨hcoordinators _ hids _ hc, hgrids _ hids _ hg, by decide +kernel, by decide +kernel,
    by decide +kernel⟩

end RecordGrid
