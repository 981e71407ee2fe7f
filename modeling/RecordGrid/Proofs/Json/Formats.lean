/-
**Every format reads back what it writes.**

Hosts keep configurations, pins, columns, filters and patches in files, and servers send listings.
For each of these the writer and the reader are faithful to each other, with two things to mind.  A
bound that is not a finite number is written as `null`, so a numeric kind needs finite bounds.  And
a range whose side is the value `null` is written like one whose side is open, so it is read back
as open on that side.  No reader ever makes either of these, and therefore everything that was
accepted, however it was written, is the same again after it is written and read once more.

Main definitions:

* `RecordGrid.FilterKind.Bounded` — the bounds of a kind are finite;
* `RecordGrid.FilterValue.HoldsNull`, `RecordGrid.FilterValue.opened` — a range with `null` for a
  side, and the value that has the side open instead.

Main results:

* `RecordGrid.GridConfig.faithful`, and the same for every other format;
* `RecordGrid.FilterValue.not_holdsNull_of_decode?` — a range that was read has no `null` in it;
* `RecordGrid.wire_formats_read_back` — all of this together.
-/

import RecordGrid.Filter.Wire
import RecordGrid.Grid.Config
import RecordGrid.Pins.Pin
import RecordGrid.Proofs.Json.Records
import RecordGrid.Proofs.Request.Wire

set_option relaxedAutoImplicit false
set_option autoImplicit false

namespace RecordGrid

open Json (Draft Faithful FaithfulOn Lossless)

/-! ### Settings, columns and pins -/

theorem UrlPagingConfig.faithful : Lossless toJson decode? :=
  .of fun _ => rfl

theorem Column.faithful : Lossless toJson decode? := by
  refine .of fun c => ?_
  obtain ⟨key, title, width⟩ := c
  cases width <;> rfl

theorem ColumnState.faithful : Lossless toJson decode? :=
  .of fun _ => rfl

theorem GridConfig.faithful : Lossless toJson decode? := by
  refine .of fun c => ?_
  obtain ⟨rowKey, defaultSize, urlPaging, ordering, summaryLabel, density, autoLoad⟩ := c
  cases urlPaging <;> cases ordering <;> cases density <;> rfl

theorem Pin.faithful : Lossless toJson decode? := by
  refine .of fun p => ?_
  obtain ⟨id, path, name, lastSeen, present⟩ := p
  cases id <;> cases lastSeen <;> rfl

/-! ### Listings -/

theorem Row.decode?_toJson (r : Row) : Row.decode? (.value r.toJson) = some r :=
  congrArg some (KeyMap.ofList_entries r)

namespace Listing

/-- The members that are left out are read as missing, the others are given to their fields. -/
theorem fieldsBy?_toJson (l : Listing) :
    (Draft.value l.toJson).fieldsBy? field fieldNames =
      some [some (.value (.array (l.rows.map Row.toJson))),
        l.total.map fun n => .value (.ofCount n), l.page.map fun n => .value (.ofCount n),
        l.size.map fun n => .value (.ofCount n), l.summary.map fun r => .value r.toJson] := by
  obtain ⟨rows, total, page, size, summary⟩ := l
  cases total <;> cases page <;> cases size <;> cases summary <;> rfl

theorem faithful : Lossless toJson decode? := by
  refine .of fun l => ?_
  have hcount (o : Option Count) := Draft.defaulted_nullable? (f := Draft.count?) (g := .ofCount)
    (fun _ => rfl) (fun _ h => by cases h) o
  have hrow := Draft.defaulted_nullable? Row.decode?_toJson (fun _ h => by cases h) l.summary
  have hrows : Json.defaulted [] (·.list? Row.decode?)
      (some (.value (.array (l.rows.map Row.toJson)))) = some l.rows :=
    Draft.list?_array Row.decode?_toJson l.rows
  simp only [decode?, fieldsBy?_toJson, Option.bind_eq_bind, Option.bind_some, hrows, hcount, hrow]

end Listing

/-! ### Filter kinds -/

namespace FilterKind

/-- The bound, if there is one, is a finite number. -/
def FiniteBound (bound : Option Float) : Prop := ∀ x, bound = some x → Json.Number.isFinite x = true

/-- The bounds of a kind are finite. -/
def Bounded : FilterKind → Prop
  | .numeric min max => FiniteBound min ∧ FiniteBound max
  | _ => True

theorem decodeBound?_boundJson {bound : Option Float} (h : FiniteBound bound) :
    decodeBound? (some (.value (boundJson bound))) = some bound := by
  cases bound with
  | none => rfl
  | some x =>
      have hx : boundJson (some x) = .number (.float x) := by
        simp [boundJson, Json.ofFloat, Json.Number.ofFloat?, h x rfl]
      rw [hx]
      rfl

theorem decode?_toJson_numeric {min max : Option Float} (hmin : FiniteBound min)
    (hmax : FiniteBound max) :
    decode? (.value (toJson (.numeric min max))) = some (.numeric min max) := by
  show (decodeBound? (some (.value (boundJson min)))).bind (fun min =>
    (decodeBound? (some (.value (boundJson max)))).bind fun max => some (numeric min max)) = _
  rw [decodeBound?_boundJson hmin, decodeBound?_boundJson hmax]
  rfl

theorem decode?_toJson_select (options : List String) (multiple : Bool) :
    decode? (.value (toJson (.select options multiple))) = some (.select options multiple) := by
  show (Draft.list? Draft.string? (.value (.ofStrings options))).bind
    (fun options => some (select options multiple)) = _
  rw [Json.ofStrings, Draft.list?_array fun _ => rfl]
  rfl

/-- A bound that is read is finite. -/
theorem finiteBound_of_decodeBound? {d : Option Draft} (hd : ∀ e, d = some e → e.Finite)
    {bound : Option Float} (h : decodeBound? d = some bound) : FiniteBound bound := by
  intro x hx
  subst hx
  cases d with
  | none => cases h
  | some e =>
      by_cases hnull : e.isNull = true
      · simp [decodeBound?, Json.defaulted, Draft.nullable?, hnull] at h
      · simp only [decodeBound?, Json.defaulted, Draft.nullable?, hnull] at h
        exact (hd e rfl).float? (by simpa using h)

/-- What is read from what stands beside a name is bounded. -/
theorem bounded_of_decodeNamed? {name : String} {d : Draft} (hd : d.Finite) {k : FilterKind}
    (h : decodeNamed? name d = some k) : k.Bounded := by
  cases k with
  | numeric min max =>
      -- the name tells the kind that is read, so all names but one are out
      simp only [decodeNamed?, Option.bind_eq_bind] at h
      split at h
      · split at h <;> cases h
      · split at h <;> cases h
      · split at h <;> cases h
      · obtain ⟨fs, hfs, h⟩ := Option.bind_eq_some_iff.1 h
        split at h
        · next dmin dmax =>
            have hfinite := hd.fieldsBy? hfs
            simp only [Option.bind_eq_some_iff] at h
            obtain ⟨min, hmin, max, hmax, h⟩ := h
            cases h
            exact ⟨finiteBound_of_decodeBound? (fun e he => hfinite e (by simp [he])) hmin,
              finiteBound_of_decodeBound? (fun e he => hfinite e (by simp [he])) hmax⟩
        · cases h
      · obtain ⟨fs, -, h⟩ := Option.bind_eq_some_iff.1 h
        split at h
        · simp only [Option.bind_eq_some_iff] at h
          obtain ⟨options, -, multiple, -, h⟩ := h
          cases h
        · cases h
      · cases h
  | _ => trivial

/-- A kind that is read is bounded. -/
theorem bounded_of_decode? {d : Draft} (hd : d.Finite) {k : FilterKind}
    (h : decode? d = some k) : k.Bounded := by
  simp only [decode?, Option.bind_eq_bind] at h
  split at h
  · next ms _ hms =>
      split at h
      · simp only [Option.bind_eq_some_iff] at h
        obtain ⟨name, -, _, -, h⟩ := h
        refine bounded_of_decodeNamed? (Draft.Finite.object fun m hm => ?_) h
        exact hd.of_members? hms m (List.mem_filter.1 hm).1
      · cases h
  · next tag rest _ hds =>
      simp only [Option.bind_eq_some_iff] at h
      obtain ⟨name, -, _, -, h⟩ := h
      refine bounded_of_decodeNamed? (Draft.Finite.array fun e he => ?_) h
      exact hd.of_items? hds e (List.mem_cons_of_mem tag he)
  · cases h

theorem faithful : FaithfulOn Draft.Finite toJson decode? Bounded id := by
  refine .of (fun k hk => ?_) fun d k hd h => ⟨bounded_of_decode? hd h, rfl⟩
  cases k with
  | numeric min max => exact decode?_toJson_numeric hk.1 hk.2
  | select options multiple => exact decode?_toJson_select options multiple
  | input => rfl
  | range => rfl
  | custom => rfl

end FilterKind

/-! ### Filter values -/

namespace FilterValue

/-- A side of a range, open if it holds `null`. -/
def openSide : Option Json → Option Json
  | some .null => none
  | side => side

/-- The value with every side open that holds `null`. -/
def opened : FilterValue → FilterValue
  | .range start stop => .range (openSide start) (openSide stop)
  | v => v

/-- The value is a range, and `null` stands on one of its sides. -/
def HoldsNull : FilterValue → Prop
  | .range start stop => start = some .null ∨ stop = some .null
  | _ => False

theorem openSide_eq_self_iff {side : Option Json} : openSide side = side ↔ side ≠ some .null := by
  unfold openSide
  split
  · simp
  · next h => simpa using h

/-- Opening changes exactly the ranges with `null` in them. -/
theorem opened_eq_self_iff {v : FilterValue} : v.opened = v ↔ ¬ v.HoldsNull := by
  cases v with
  | range start stop =>
      simp [opened, HoldsNull, openSide_eq_self_iff]
  | _ => simp [opened, HoldsNull]

theorem decodeSide?_ofOption (side : Option Json) :
    decodeSide? (.value (.ofOption side)) = some (openSide side) := by
  cases side with
  | none => rfl
  | some j => cases j <;> rfl

/-- A side that is read does not hold `null`. -/
theorem ne_null_of_decodeSide? {d : Draft} {side : Option Json} (h : decodeSide? d = some side) :
    side ≠ some .null := by
  rintro rfl
  by_cases hnull : d.isNull = true
  · simp [decodeSide?, Draft.nullable?, hnull] at h
  · exact hnull (Draft.isNull_of_json? (by simpa [decodeSide?, Draft.nullable?, hnull] using h))

theorem decode?_toJson_choice (options : List String) :
    decode? (.value (toJson (.choice options))) = some (.choice options) := by
  show ((Draft.value (.ofStrings options)).list? Draft.string?).map choice = _
  rw [Json.ofStrings, Draft.list?_array fun _ => rfl]
  rfl

theorem decode?_toJson_range (start stop : Option Json) :
    decode? (.value (toJson (.range start stop))) =
      some (.range (openSide start) (openSide stop)) := by
  show (decodeSide? (.value (.ofOption start))).bind (fun start =>
    (decodeSide? (.value (.ofOption stop))).bind fun stop => some (range start stop)) = _
  rw [decodeSide?_ofOption, decodeSide?_ofOption]
  rfl

theorem not_holdsNull_of_decodeNamed? {name : String} {d : Draft} {v : FilterValue}
    (h : decodeNamed? name d = some v) : ¬ v.HoldsNull := by
  cases v with
  | range start stop =>
      simp only [decodeNamed?, Option.bind_eq_bind] at h
      split at h
      case h_5 =>
          obtain ⟨ds, -, h⟩ := Option.bind_eq_some_iff.1 h
          split at h
          · simp only [Option.bind_eq_some_iff] at h
            obtain ⟨start, hstart, stop, hstop, h⟩ := h
            cases h
            exact not_or.2 ⟨ne_null_of_decodeSide? hstart, ne_null_of_decodeSide? hstop⟩
          · cases h
      all_goals simp at h
  | _ => exact not_false

/-- **A range that was read has no `null` in it.** -/
theorem not_holdsNull_of_decode? {d : Draft} {v : FilterValue} (h : decode? d = some v) :
    ¬ v.HoldsNull := by
  simp only [decode?, Option.bind_eq_bind] at h
  obtain ⟨fs, -, h⟩ := Option.bind_eq_some_iff.1 h
  split at h
  · obtain ⟨name, -, h⟩ := Option.bind_eq_some_iff.1 h
    exact not_holdsNull_of_decodeNamed? h
  · obtain ⟨-, h⟩ := Option.ite_none_right_eq_some.1 h
    cases h
    exact not_false
  · cases h

theorem faithful : Faithful toJson decode? (fun _ => True) opened := by
  refine .of (fun v _ => ?_) fun d v _ h =>
    ⟨trivial, opened_eq_self_iff.2 (not_holdsNull_of_decode? h)⟩
  cases v with
  | choice options => exact decode?_toJson_choice options
  | range start stop => exact decode?_toJson_range start stop
  | empty => rfl
  | text s => rfl
  | number n => rfl
  | custom value => rfl

end FilterValue

/-! ### Patches -/

namespace Patch

/-- The members for the numbers of pagination that a patch names. -/
def numbers (p : Patch) : List (String × Json) :=
  countMember pageKey p.page ++ countMember sizeKey p.size

theorem fields?_toJson {p : Patch} (h : Unreserved (.ofList p.params.entries)) :
    (Draft.value p.toJson).fields? paginationKeys =
      some [p.page.map fun n => .value (.ofCount n), p.size.map fun n => .value (.ofCount n)] := by
  have hunknown : ∀ m ∈ Draft.ofMembers p.params.entries,
      ∃ k, m.1 = some k ∧ numberOf? k = none := by
    intro m hm
    obtain ⟨e, he, rfl⟩ := List.mem_map.1 hm
    exact ⟨e.1, rfl, if_neg (Unreserved.ofList_iff.1 h e he)⟩
  calc (Draft.value p.toJson).fields? paginationKeys
      = (Draft.object (Draft.ofMembers (numbers p) ++
          Draft.ofMembers p.params.entries)).fieldsBy? numberOf? paginationKeys := by
        rw [← Draft.ofMembers_append]
        rfl
    _ = (Draft.object (Draft.ofMembers (numbers p))).fieldsBy? numberOf? paginationKeys :=
        Draft.fieldsBy?_append hunknown paginationKeys
    _ = _ := by
        obtain ⟨page, size, params⟩ := p
        cases page <;> cases size <;> rfl

theorem flatParams?_toJson {p : Patch} (h : Unreserved (.ofList p.params.entries)) :
    flatParams? (Draft.ofMembers (numbers p) ++ Draft.ofMembers p.params.entries) =
      some p.params := by
  have hentries := Draft.jsonMembers?_ofMembers p.params.entries
  have hnumbers : (Draft.ofMembers (numbers p)).filter
      (fun m => m.1.all (· ∉ paginationKeys)) = [] := by
    obtain ⟨page, size, params⟩ := p
    cases page <;> cases size <;> rfl
  rw [flatParams?, List.filter_append, hnumbers, filter_params hentries h, List.nil_append,
    hentries, Option.map_some, KeyMap.ofList_entries]

/-- A patch whose parameters have names of their own is read back from its flat object. -/
theorem flat?_toJson {p : Patch} (h : Unreserved p.params) :
    flat? (.value p.toJson) = some (p.page.map fun n => .value (.ofCount n),
      p.size.map fun n => .value (.ofCount n), p.params) := by
  have hfree : Unreserved (.ofList p.params.entries) := by rwa [KeyMap.ofList_entries]
  have hmembers : (Draft.value p.toJson).members? =
      some (Draft.ofMembers (numbers p) ++ Draft.ofMembers p.params.entries) := by
    rw [← Draft.ofMembers_append]
    rfl
  simp only [flat?, hmembers, fields?_toJson hfree, flatParams?_toJson hfree, Option.bind_eq_bind,
    Option.bind_some]

theorem faithful : Faithful toJson decode? Made id := by
  refine .of (fun p hp => ?_) fun d p _ h => ⟨.decoded h, rfl⟩
  have hcount (o : Option Count) := Draft.defaulted_nullable? (f := Draft.count?) (g := .ofCount)
    (fun _ => rfl) (fun _ h => by cases h) o
  simp only [decode?, flat?_toJson hp.unreserved, Option.bind_eq_bind, Option.bind_some, hcount, id]

end Patch

/-! ### All formats -/

/-- **Every format reads back what it writes.**

* Configurations, columns and their states, pins and listings are read back as they were written.
* So are patches, in whatever way they were made, and kinds with finite bounds.
* A value is read back with every side of a range open that holds `null`.  This changes the value
  exactly when there is such a side, and no value that was read has one.
* Whatever was accepted in any of these formats, with members missing, `null`, unknown or called by
  their other name, is read back as the same after it is written.  Of what is read as a kind this
  takes that its numbers are finite, as they are in every JSON value. -/
theorem wire_formats_read_back :
    Lossless GridConfig.toJson GridConfig.decode? ∧
      Lossless UrlPagingConfig.toJson UrlPagingConfig.decode? ∧
      Lossless Column.toJson Column.decode? ∧
      Lossless ColumnState.toJson ColumnState.decode? ∧
      Lossless Pin.toJson Pin.decode? ∧
      Lossless Listing.toJson Listing.decode? ∧
      FaithfulOn Draft.Finite FilterKind.toJson FilterKind.decode? FilterKind.Bounded id ∧
      Faithful Patch.toJson Patch.decode? Patch.Made id ∧
      Faithful FilterValue.toJson FilterValue.decode? (fun _ => True) FilterValue.opened ∧
      (∀ v : FilterValue, v.opened = v ↔ ¬ v.HoldsNull) ∧
      ∀ (d : Draft) (v : FilterValue), FilterValue.decode? d = some v → ¬ v.HoldsNull :=
  ⟨GridConfig.faithful, UrlPagingConfig.faithful, Column.faithful, ColumnState.faithful,
    Pin.faithful, Listing.faithful, FilterKind.faithful, Patch.faithful, FilterValue.faithful,
    fun _ => FilterValue.opened_eq_self_iff, fun _ _ => FilterValue.not_holdsNull_of_decode?⟩

/-- A kind with a whole number for a bound, and a member that means nothing. -/
def boundDraft : Draft :=
  .value (.object [("type", .string "numeric"), ("min", .number (.nat 1)), ("step", .null)])

/-- The kind that is read. -/
def fromOne : FilterKind := .numeric (some (Json.Number.nat 1).toFloat) none

/-- A listing without rows whose summary is called an amount. -/
def amountDraft : Draft :=
  .value (.object [("amount", .object [("sum", .number (.nat 7))]), ("total", .null)])

/-- The listing that is read. -/
def summedUp : Listing := { summary := some (.ofList [("sum", .number (.nat 7))]) }

theorem finite_boundDraft : boundDraft.Finite := by
  intro n hn
  obtain rfl : n = .nat 1 := by simpa [boundDraft] using hn
  trivial

/-- A whole bound is kept as a float, a range with `null` is read back as open, an amount is read
back as the summary that it is, and a patch is read back. -/
theorem wire_formats_read_back_samples :
    fromOne.Bounded ∧ FilterKind.decode? (.value fromOne.toJson) = some fromOne ∧
      FilterValue.decode? (.value (FilterValue.range (some .null) (some (.bool true))).toJson) =
        some (.range none (some (.bool true))) ∧
      Listing.decode? (.value summedUp.toJson) = some summedUp ∧
      Patch.decode? (.value (Patch.search "disk").toJson) = some (.search "disk") := by
  obtain ⟨-, -, -, -, -, hlisting, hkind, hpatch, hvalue, -, -⟩ := wire_formats_read_back
  have hbound : FilterKind.decode? boundDraft = some fromOne := rfl
  have hsummed : Listing.decode? amountDraft = some summedUp := rfl
  exact ⟨hkind.accepted _ _ finite_boundDraft hbound, hkind.again _ _ finite_boundDraft hbound,
    hvalue.back _ trivial, hlisting.again _ _ trivial hsummed,
    hpatch.back _ (.search "disk")⟩

end RecordGrid
