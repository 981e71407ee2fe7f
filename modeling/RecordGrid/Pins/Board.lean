/-
**The board of pins.**

A board shows the pins that a storage holds.  Reading and writing the storage may fail.  The board
is read when it is first needed, and again at each use until that succeeds.  It is changed only
once the storage has accepted the change, and never written before it was read, since that would
wipe what is stored.

Main definitions:

* `RecordGrid.PinStorage` — what is stored, whether reading and writing fail, and how often either
  was tried;
* `RecordGrid.PinBoard` — the pins shown, and their storage;
* `RecordGrid.PinBoard.pin`, `unpin`, `mark`, `reload`, `items`, `isPinned` — its operations;
* `RecordGrid.PinRegistry` — the one board that all parts of a program share.
-/

import RecordGrid.Pins.Pin

set_option relaxedAutoImplicit false
set_option autoImplicit false

namespace RecordGrid

/-! ### Storage -/

/-- Why a storage could not be used. -/
inductive StorageError where
  /-- It could not be read. -/
  | load (message : String)
  /-- It could not be written. -/
  | save (message : String)
deriving DecidableEq, Repr

/-- The message that explains an error. -/
def StorageError.message : StorageError → String
  | .load message => "failed to load pinned items: " ++ message
  | .save message => "failed to save pinned items: " ++ message

/-- A place where pins are stored. -/
structure PinStorage where
  /-- The pins that are stored. -/
  pins : List Pin := []
  /-- The message with which reading fails, if it does. -/
  loadFailure : Option String := none
  /-- The message with which writing fails, if it does. -/
  saveFailure : Option String := none
  /-- How often reading was tried. -/
  loads : Nat := 0
  /-- How often writing was tried. -/
  saves : Nat := 0
deriving DecidableEq, Repr

namespace PinStorage

/-- Reads the stored pins. -/
def load (s : PinStorage) : PinStorage × Except StorageError (List Pin) :=
  ({ s with loads := s.loads + 1 },
    match s.loadFailure with
    | some message => .error (.load message)
    | none => .ok s.pins)

/-- Writes pins; a failure leaves what is stored as it is. -/
def save (s : PinStorage) (pins : List Pin) : PinStorage × Except StorageError Unit :=
  match s.saveFailure with
  | some message => ({ s with saves := s.saves + 1 }, .error (.save message))
  | none => ({ s with saves := s.saves + 1, pins }, .ok ())

end PinStorage

/-! ### Board -/

/-- The pins that are shown, and their storage. -/
structure PinBoard where
  /-- The storage. -/
  storage : PinStorage
  /-- Whether the storage was read. -/
  loaded : Bool := false
  /-- The pins, in the natural order of their names. -/
  pins : List Pin := []
deriving DecidableEq, Repr

namespace PinBoard

/-- A board over a storage that was not read yet. -/
def ofStorage (storage : PinStorage) : PinBoard := { storage }

/-- Reads the storage.  A failure empties the board. -/
def fill (b : PinBoard) : PinBoard × Except StorageError Unit :=
  match b.storage.load with
  | (storage, .ok pins) =>
      ({ storage, loaded := true, pins := Pin.sort (pins.map Pin.normalized) }, .ok ())
  | (storage, .error e) => ({ storage, loaded := false, pins := [] }, .error e)

/-- Reads the storage unless that was done. -/
def ensure (b : PinBoard) : PinBoard × Except StorageError Unit :=
  if b.loaded then (b, .ok ()) else b.fill

/-- Reads the storage again. -/
def reload (b : PinBoard) : PinBoard := b.fill.1

/-- The pins, as far as the storage could be read. -/
def items (b : PinBoard) : PinBoard × List Pin :=
  (b.ensure.1, b.ensure.1.pins)

/-- Whether some pin shown has a path in normal form. -/
def hasPath (b : PinBoard) (path : String) : Bool := b.pins.any (·.path = path)

/-- Whether a path is pinned, as far as the storage could be read. -/
def isPinned (b : PinBoard) (path : String) : PinBoard × Bool :=
  (b.ensure.1, b.ensure.1.hasPath (normalPath path))

/-- Writes pins, and shows them once they are written. -/
def commit (b : PinBoard) (pins : List Pin) : PinBoard × Except StorageError Unit :=
  match b.storage.save pins with
  | (storage, .ok _) => ({ b with storage, pins }, .ok ())
  | (storage, .error e) => ({ b with storage }, .error e)

/-- Changes the pins after the storage was read.  `change` gives the pins to write, or nothing when
all is as it should be. -/
def update (b : PinBoard) (change : PinBoard → Option (List Pin)) :
    PinBoard × Except StorageError Unit :=
  match b.ensure with
  | (b, .error e) => (b, .error e)
  | (b, .ok _) => match change b with
    | none => (b, .ok ())
    | some pins => b.commit pins

/-- Pins a path.  A path that is pinned already stays as it is. -/
def pin (b : PinBoard) (path : String) (name : Option String) (now : Count) :
    PinBoard × Except StorageError Unit :=
  let new := Pin.ofPath path name now
  b.update fun b => if b.hasPath new.path then none else some (Pin.sort (b.pins ++ [new]))

/-- Unpins a path.  A path that is not pinned is ignored. -/
def unpin (b : PinBoard) (path : String) : PinBoard × Except StorageError Unit :=
  let path := normalPath path
  b.update fun b => if b.hasPath path then some (b.pins.filter (·.path ≠ path)) else none

/-- Notes whether a path is there on the first pin that has the path and says otherwise. -/
def markFirst (path : String) (present : Bool) (now : Count) : List Pin → List Pin
  | [] => []
  | p :: ps =>
      if p.path = path ∧ p.present ≠ present then { p with present, lastSeen := some now } :: ps
      else p :: markFirst path present now ps

/-- Notes whether a pinned path is there.  The note is not stored. -/
def mark (b : PinBoard) (path : String) (present : Bool) (now : Count) : PinBoard :=
  let b := b.ensure.1
  { b with pins := markFirst (normalPath path) present now b.pins }

end PinBoard

/-! ### The shared board -/

/-- The place of the one board that all parts of a program share. -/
structure PinRegistry where
  /-- The board, once there is one. -/
  board : Option PinBoard := none
deriving DecidableEq, Repr

namespace PinRegistry

/-- Installs a board unless there is one.  Returns whether the board was installed. -/
def install (r : PinRegistry) (b : PinBoard) : PinRegistry × Bool :=
  match r.board with
  | some _ => (r, false)
  | none => ({ board := some b }, true)

/-- The shared board; one over an empty storage is installed if there is none. -/
def get (r : PinRegistry) : PinBoard := r.board.getD (.ofStorage {})

/-- Puts the board back after it was used. -/
def put (b : PinBoard) : PinRegistry := { board := some b }

end PinRegistry

end RecordGrid
