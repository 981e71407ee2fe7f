/-
**Two readers of a patch.**

An object becomes a patch in two ways.  The strict reader takes the wire form: it refuses a number
of pagination that is neither a count nor `null`.  The lenient one inserts the members of a map one
after the other, and passes over a number of pagination that is no count.  Each is a function of its
own, but where the strict reader accepts, both come to the same patch, and so they do on all that is
written.

Main definitions:

* `RecordGrid.CountOrNull` — a number of pagination that the strict reader accepts;
* `RecordGrid.Json.Draft.mentions` — how often an object names a key.

Main results:

* `RecordGrid.Patch.insertMany_of_sorted`, `RecordGrid.Patch.ofMap_eq` — **what the lenient reader
  makes of a map**;
* `RecordGrid.Patch.decode?_eq_some_iff` — **what the strict reader makes of an object**, given by
  what the lenient one makes of it;
* `RecordGrid.Patch.readers_agree` — both together, on objects and on what is written.
-/

import RecordGrid.Proofs.Json.Formats

set_option relaxedAutoImplicit false
set_option autoImplicit false

namespace RecordGrid

open Json (Draft)

/-! ### The lenient reader -/

namespace Patch

/-- The members of an object that are parameters. -/
def paramsOf (es : List (String × Json)) : List (String × Json) :=
  es.filter fun e => decide (e.1 ∉ paginationKeys)

/-- What inserting entries with different keys comes to: of the numbers of pagination those that are
counts, and all other entries as parameters. -/
theorem insertMany_of_sorted {es : List (String × Json)} (h : Entries.Sorted es) (p : Patch) :
    p.insertMany es =
      { page := ((Entries.lookup pageKey es).bind Json.count?).or p.page
        size := ((Entries.lookup sizeKey es).bind Json.count?).or p.size
        params := p.params.insertMany (paramsOf es) } := by
  induction es generalizing p with
  | nil => rfl
  | cons e es ih =>
      obtain ⟨k, v⟩ := e
      -- a key stands once among sorted entries, so what it set is not set again
      have hrest : Entries.lookup k es = none :=
        Entries.lookup_eq_none_of_lt fun e he => List.rel_of_pairwise_cons h he
      have hstep : p.insertMany ((k, v) :: es) = (p.insert k v).insertMany es := rfl
      rw [hstep, ih (List.Pairwise.of_cons h)]
      by_cases hpage : k = pageKey
      · have hsize : pageKey ≠ sizeKey := by decide
        subst hpage
        simp [insert, hrest, hsize, Entries.lookup, paramsOf, paginationKeys]
      · by_cases hsize : k = sizeKey
        · subst hsize
          simp [insert, hrest, hpage, Entries.lookup, paramsOf, paginationKeys]
        · simp [insert, hpage, hsize, Entries.lookup, paramsOf, paginationKeys]

/-- **What the lenient reader makes of a map.** -/
theorem ofMap_eq (m : KeyMap Json) :
    ofMap m =
      { page := (m.get? pageKey).bind Json.count?
        size := (m.get? sizeKey).bind Json.count?
        params := .ofList (paramsOf m.entries) } := by
  rw [ofMap, ofPairs, insertMany_of_sorted m.sorted]
  simp only [empty, Option.or_none, KeyMap.get?, KeyMap.ofList]

end Patch

/-! ### The members of an object -/

namespace Json.Draft

/-- How often an object names a key. -/
def mentions (key : String) (d : Draft) : Nat := ((d.members?.getD []).map (·.1)).count (some key)

section Members

variable {ds : List (Option String × Draft)} {js : List (String × Json)}

/-- An object that has a map has a value in every member. -/
theorem exists_members_of_map? {d : Draft} {m : KeyMap Json} (h : d.map? = some m) :
    ∃ ds js, d.members? = some ds ∧ jsonMembers? ds = some js ∧ m = .ofList js := by
  cases d with
  | value j =>
      cases j with
      | object js => exact ⟨_, js, rfl, jsonMembers?_ofMembers js, (Option.some.inj h).symm⟩
      | _ => cases h
  | object ds =>
      obtain ⟨js, hjs, rfl⟩ := Option.map_eq_some_iff.1 h
      exact ⟨ds, js, rfl, hjs, rfl⟩
  | _ => cases h

/-- Some of the members have the values that they had among all of them. -/
theorem jsonMembers?_filter (h : jsonMembers? ds = some js) (p : Option String → Bool) :
    jsonMembers? (ds.filter (p ·.1)) = some (js.filter fun e => p (some e.1)) := by
  induction ds generalizing js with
  | nil =>
      cases h
      rfl
  | cons d ds ih =>
      obtain ⟨k, d⟩ := d
      simp only [jsonMembers?, Option.bind_eq_bind, Option.bind_eq_some_iff] at h
      obtain ⟨k, rfl, j, hj, js, hjs, h⟩ := h
      cases h
      rw [List.filter_cons, List.filter_cons]
      split
      · simp only [jsonMembers?, hj, ih hjs, Option.bind_eq_bind, Option.bind_some]
      · exact ih hjs

/-- What is given for a number of pagination stands under its name. -/
theorem given_numberOf? {name : String} (hname : name ∈ paginationKeys)
    (ds : List (Option String × Draft)) :
    given numberOf? name ds = (ds.filter (·.1 == some name)).map (·.2) := by
  rw [given]
  congr 1
  refine List.filter_congr fun d _ => Bool.eq_iff_iff.2 ?_
  rw [bind_numberOf?_iff hname, beq_iff_eq]

theorem length_given {name : String} (hname : name ∈ paginationKeys)
    (ds : List (Option String × Draft)) :
    (given numberOf? name ds).length = (ds.map (·.1)).count (some name) := by
  rw [given_numberOf? hname, List.length_map, ← List.countP_eq_length_filter, List.count,
    List.countP_map]
  rfl

/-- What is given only once has the value that is found under the name. -/
theorem get?_of_given {name : String} (hname : name ∈ paginationKeys)
    (h : jsonMembers? ds = some js) {v : Draft} (hv : given numberOf? name ds = [v]) :
    ∃ j, v.json? = some j ∧ (KeyMap.ofList js).get? name = some j := by
  rw [given_numberOf? hname] at hv
  obtain ⟨⟨k, v⟩, hfilter, rfl⟩ := List.map_eq_singleton_iff.1 hv
  have hmember : (k, v) ∈ ds.filter (·.1 == some name) := by simp [hfilter]
  obtain rfl : k = some name := beq_iff_eq.1 (List.mem_filter.1 hmember).2
  have hjs := jsonMembers?_filter h (· == some name)
  rw [hfilter] at hjs
  simp only [jsonMembers?, Option.bind_eq_bind, Option.bind_some, Option.bind_eq_some_iff] at hjs
  obtain ⟨j, hj, hjs⟩ := hjs
  refine ⟨j, hj, ?_⟩
  rw [← KeyMap.get?_ofList_filter js (p := fun k => some k == some name) (beq_self_eq_true _),
    ← Option.some.inj hjs]
  exact KeyMap.get?_insert_self .empty name j

/-- A draft is `null`, or a count, exactly when its value is. -/
theorem number_of_json? {d : Draft} {j : Json} (h : d.json? = some j) :
    d.isNull = j.isNull ∧ d.count? = j.count? := by
  cases d with
  | value j' =>
      obtain rfl := Option.some.inj h
      cases j' <;> exact ⟨rfl, rfl⟩
  | broken => cases h
  | array ds =>
      obtain ⟨js, -, rfl⟩ := Option.map_eq_some_iff.1 h
      exact ⟨rfl, rfl⟩
  | object ds =>
      obtain ⟨js, -, rfl⟩ := Option.map_eq_some_iff.1 h
      exact ⟨rfl, rfl⟩

end Members

end Json.Draft

/-! ### The strict reader -/

theorem pageKey_mem : Patch.pageKey ∈ paginationKeys := List.mem_cons_self ..

theorem sizeKey_mem : Patch.sizeKey ∈ paginationKeys :=
  List.mem_cons_of_mem _ (List.mem_cons_self ..)

theorem forall_mem_paginationKeys {P : String → Prop} :
    (∀ key ∈ paginationKeys, P key) ↔ P Patch.pageKey ∧ P Patch.sizeKey := by
  simp [paginationKeys]

/-- A number of pagination is missing, or `null`, or a count. -/
def CountOrNull (o : Option Json) : Prop := o = none ∨ o = some .null ∨ ∃ n, o = some (.ofCount n)

theorem countOrNull_iff {o : Option Json} :
    CountOrNull o ↔ o.all (fun j => j.isNull || j.count?.isSome) = true := by
  cases o with
  | none => simp [CountOrNull]
  | some j =>
      cases j with
      | number n =>
          cases n <;>
            simp [CountOrNull, Json.ofCount, Json.isNull, Json.count?, Json.Number.toCount?]
      | _ => simp [CountOrNull, Json.ofCount, Json.isNull, Json.count?]

instance : DecidablePred CountOrNull := fun _ => decidable_of_iff _ countOrNull_iff.symm

namespace Patch

variable {ds : List (Option String × Draft)} {js : List (String × Json)}

/-- A number of pagination from what is given for it. -/
def number? (vs : List Draft) : Option (Option Count) :=
  (once? vs).bind (Json.defaulted none (·.nullable? Draft.count?))

theorem nullable?_count?_eq_some_iff {v : Draft} {j : Json} (hj : v.json? = some j)
    {r : Option Count} :
    v.nullable? Draft.count? = some r ↔ CountOrNull (some j) ∧ r = j.count? := by
  obtain ⟨hnull, hcount⟩ := Draft.number_of_json? hj
  rw [Draft.nullable?, hnull, hcount, countOrNull_iff]
  cases j with
  | null => simp [Json.isNull, Json.count?, eq_comm]
  | number n => cases n <;> simp [Json.isNull, Json.count?, Json.Number.toCount?, eq_comm]
  | _ => simp [Json.isNull, Json.count?]

/-- **A number of pagination is read** when it is given once at most, and is a count or `null`. -/
theorem number?_given {name : String} (hname : name ∈ paginationKeys)
    (h : Draft.jsonMembers? ds = some js) {r : Option Count} :
    number? (Draft.given numberOf? name ds) = some r ↔
      (ds.map (·.1)).count (some name) ≤ 1 ∧ CountOrNull ((KeyMap.ofList js).get? name) ∧
        r = ((KeyMap.ofList js).get? name).bind Json.count? := by
  rw [← Draft.length_given hname]
  cases hgiven : Draft.given numberOf? name ds with
  | nil =>
      have hnone := KeyMap.get?_ofList_eq_none_iff.2 ((given_eq_nil_iff h hname).1 hgiven)
      rw [hnone]
      simp [number?, once?, Json.defaulted, CountOrNull, eq_comm]
  | cons v vs =>
      cases vs with
      | nil =>
          obtain ⟨j, hj, hget⟩ := Draft.get?_of_given hname h hgiven
          rw [hget]
          simpa [number?, once?, Json.defaulted] using nullable?_count?_eq_some_iff hj
      | cons w vs => simp [number?, once?]

/-- The strict reader takes the two numbers of pagination and the parameters. -/
theorem decode?_of_members? {d : Draft} (hd : d.members? = some ds)
    (h : Draft.jsonMembers? ds = some js) :
    decode? d =
      (number? (Draft.given numberOf? pageKey ds)).bind fun page =>
        (number? (Draft.given numberOf? sizeKey ds)).bind fun size =>
          some { page, size, params := .ofList (paramsOf js) } := by
  have hparams : flatParams? ds = some (.ofList (paramsOf js)) := by
    rw [flatParams?, Draft.jsonMembers?_filter h fun k => k.all (· ∉ paginationKeys)]
    rfl
  have hflat : flat? d =
      (once? (Draft.given numberOf? pageKey ds)).bind fun page =>
        (once? (Draft.given numberOf? sizeKey ds)).bind fun size =>
          some (page, size, .ofList (paramsOf js)) := by
    simp only [flat?, hd, fields?_of_members? hd (any_isNone_of_jsonMembers? h), hparams,
      Option.bind_eq_bind, Option.bind_some, Option.bind_assoc]
  rw [decode?, hflat]
  simp only [Option.bind_eq_bind, Option.bind_some, Option.bind_assoc, number?]
  -- both numbers are looked up before either is read, which makes no difference to the result
  cases once? (Draft.given numberOf? pageKey ds) with
  | none => rfl
  | some page =>
      cases once? (Draft.given numberOf? sizeKey ds) with
      | none => simp
      | some size => rfl

/-- **What the strict reader makes of an object**: nothing when a number of pagination is given
twice, or is neither a count nor `null`, and else what the lenient reader makes of its map. -/
theorem decode?_eq_some_iff {d : Draft} {m : KeyMap Json} (hd : d.map? = some m) {p : Patch} :
    decode? d = some p ↔
      (∀ key ∈ paginationKeys, d.mentions key ≤ 1 ∧ CountOrNull (m.get? key)) ∧ p = ofMap m := by
  obtain ⟨ds, js, hds, hjs, rfl⟩ := Draft.exists_members_of_map? hd
  have hmentions (key : String) : d.mentions key = (ds.map (·.1)).count (some key) := by
    rw [Draft.mentions, hds, Option.getD_some]
  have hparams : KeyMap.ofList (paramsOf (KeyMap.ofList js).entries) = .ofList (paramsOf js) :=
    KeyMap.ofList_filter_congr (KeyMap.ofList_entries _) fun k => decide (k ∉ paginationKeys)
  rw [decode?_of_members? hds hjs, ofMap_eq, hparams, forall_mem_paginationKeys, hmentions,
    hmentions]
  simp only [Option.bind_eq_some_iff]
  constructor
  · rintro ⟨page, hpage, size, hsize, h⟩
    obtain ⟨hpageOnce, hpageOk, rfl⟩ := (number?_given pageKey_mem hjs).1 hpage
    obtain ⟨hsizeOnce, hsizeOk, rfl⟩ := (number?_given sizeKey_mem hjs).1 hsize
    exact ⟨⟨⟨hpageOnce, hpageOk⟩, hsizeOnce, hsizeOk⟩, (Option.some.inj h).symm⟩
  · rintro ⟨⟨⟨hpageOnce, hpageOk⟩, hsizeOnce, hsizeOk⟩, rfl⟩
    exact ⟨_, (number?_given pageKey_mem hjs).2 ⟨hpageOnce, hpageOk, rfl⟩, _,
      (number?_given sizeKey_mem hjs).2 ⟨hsizeOnce, hsizeOk, rfl⟩, rfl⟩

/-- The object of a map names every key once at most. -/
theorem mentions_ofMap_le (m : KeyMap Json) (key : String) :
    (Draft.value (.ofMap m)).mentions key ≤ 1 := by
  have hkeys : ((Draft.value (.ofMap m)).members?.getD []).map (·.1) =
      m.entries.map fun e => some e.1 := List.map_map
  rw [Draft.mentions, hkeys]
  refine List.nodup_iff_count.1 (List.Pairwise.map _ (fun a b hlt heq => ?_) m.sorted) _
  exact String.ne_of_lt hlt (Option.some.inj heq)

/-- **The strict reader accepts the object of a map exactly when both numbers of pagination are
counts, `null` or missing**, and then makes the same of it as the lenient one. -/
theorem decode?_ofMap_eq_some_iff (m : KeyMap Json) (p : Patch) :
    decode? (.value (.ofMap m)) = some p ↔
      (∀ key ∈ paginationKeys, CountOrNull (m.get? key)) ∧ p = ofMap m := by
  have hmap : (Draft.value (.ofMap m)).map? = some m := congrArg some (KeyMap.ofList_entries m)
  rw [decode?_eq_some_iff hmap]
  simp only [mentions_ofMap_le, true_and]

/-! ### What is written -/

/-- Both readers give a patch back from its object, and so they do from the map of the object. -/
theorem read_back {p : Patch} (h : p.Made) :
    decode? (.value p.toJson) = some p ∧
      ∃ m, (Draft.value p.toJson).map? = some m ∧ decode? (.value (.ofMap m)) = some p ∧
        ofMap m = p := by
  have hback : decode? (.value p.toJson) = some p := faithful.back p h
  obtain ⟨m, hm⟩ : ∃ m, (Draft.value p.toJson).map? = some m := ⟨_, rfl⟩
  obtain ⟨hcounts, hp⟩ := (decode?_eq_some_iff hm).1 hback
  exact ⟨hback, m, hm, (decode?_ofMap_eq_some_iff m p).2 ⟨fun key hk => (hcounts key hk).2, hp⟩,
    hp.symm⟩

/-- **Two readers of a patch.**

* Of an object the strict reader makes a patch exactly when it gives each number of pagination as a
  count or `null`, or not at all; and then the lenient reader makes the same patch of it.
* So it is with an object as it was written, except that the strict reader refuses one that names
  a number of pagination twice.
* However a patch was made, it has no parameter with a name of pagination, and both readers give it
  back from its object. -/
theorem readers_agree :
    (∀ (m : KeyMap Json) (p : Patch), decode? (.value (.ofMap m)) = some p ↔
      (∀ key ∈ paginationKeys, CountOrNull (m.get? key)) ∧ p = ofMap m) ∧
    (∀ (d : Draft) (m : KeyMap Json) (p : Patch), d.map? = some m →
      (decode? d = some p ↔
        (∀ key ∈ paginationKeys, d.mentions key ≤ 1 ∧ CountOrNull (m.get? key)) ∧ p = ofMap m)) ∧
    ∀ p : Patch, p.Made →
      (∀ key ∈ paginationKeys, p.get? key = none) ∧ decode? (.value p.toJson) = some p ∧
        ∃ m, (Draft.value p.toJson).map? = some m ∧ decode? (.value (.ofMap m)) = some p ∧
          ofMap m = p :=
  ⟨decode?_ofMap_eq_some_iff, fun _ _ _ hd => decode?_eq_some_iff hd,
    fun _ h => ⟨forall_mem_paginationKeys.2 h.unreserved, read_back h⟩⟩

/-- A page that is `null`, beside a page size and a parameter. -/
def nullPage : KeyMap Json :=
  .ofList [("kind", .string "tcp"), (pageKey, .null), (sizeKey, .ofCount 25)]

/-- What both readers make of it. -/
def sizeAndKind : Patch := { size := some 25, params := .ofList [("kind", .string "tcp")] }

/-- Numbers that are no counts: negative, not whole, and too large. -/
def noCounts : List Json :=
  [.number (.negSucc ⟨0, by decide⟩), .number (.float (.ofScientific 15 true 1)),
    .number (.float (.ofNat 18446744073709551616))]

/-- An object that names the page twice. -/
def twoPages : Draft :=
  .object [(some pageKey, .value (.ofCount 1)), (some pageKey, .value (.ofCount 2))]

/-- `null` changes nothing, a number that is no count is refused, and so is a page that is named
twice. -/
theorem readers_agree_odd_pages :
    decode? (.value (.ofMap nullPage)) = some sizeAndKind ∧ ofMap nullPage = sizeAndKind ∧
      (∀ j ∈ noCounts, decode? (.value (.ofMap (.ofList [(pageKey, j)]))) = none) ∧
      decode? twoPages = none ∧
      decode? (.value ((search "disk").withPage 3).toJson) = some ((search "disk").withPage 3) := by
  obtain ⟨hmap, hdraft, hmade⟩ := readers_agree
  have hnull : sizeAndKind = ofMap nullPage := by decide +kernel
  have hpages : twoPages.map? = some (.ofList [(pageKey, .ofCount 1), (pageKey, .ofCount 2)]) := rfl
  refine ⟨(hmap nullPage sizeAndKind).2 ⟨by decide +kernel, hnull⟩, hnull.symm, ?_, ?_,
    (hmade _ ((Made.search "disk").withPage 3)).2.1⟩
  · intro j hj
    have hno : ∀ j ∈ noCounts, ¬CountOrNull (some j) := by decide
    refine Option.eq_none_iff_forall_ne_some.2 fun p hp => hno j hj ?_
    have hpage := ((hmap _ p).1 hp).1 pageKey pageKey_mem
    rwa [KeyMap.ofList, KeyMap.insertMany_cons, KeyMap.insertMany_nil, KeyMap.get?_insert_self]
      at hpage
  · refine Option.eq_none_iff_forall_ne_some.2 fun p hp => ?_
    have htwice := (((hdraft _ _ p hpages).1 hp).1 pageKey pageKey_mem).1
    exact absurd htwice (by decide)

end Patch

end RecordGrid
