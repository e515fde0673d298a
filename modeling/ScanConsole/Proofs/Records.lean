import Mathlib.Data.List.Nodup
import ScanConsole.Json.Decoder

/-!
# The fields of a record

A record is read off an object by one pass through its fields, which puts each
known field in its place and gives up at one that is there already.
`fields_eq_some_iff` says what this comes to, and the same for arrays: the
document can be read as a record with the known fields (`Document.IsRecord`),
and the place of each field has what the document has for it (`Document.part?`).
It is for records whose fields have one name each.

The induction is over the fields, with those that were passed (`before`) beside
those to come. What the pass has found so far is then a function of `before`
(`table`), and it gives up at a field exactly if `before` has it already, which
is where the record is no record.

In an array nothing can stand twice; what is missing at its end is absent.
-/

namespace ScanConsole.Json

namespace Document

/-- What stands behind a name among the fields of an object. -/
def behind (name : String) (fs : List (Option String × Document)) : List Document :=
  fs.filterMap fun f => if f.1 = some name then some f.2 else none

/-- The document can be read as a record with these fields: it is an object in which all names are well formed
and none of the fields stands twice, or an array with at most as many items. -/
def IsRecord (names : List String) : Document → Prop
  | .object fs => (∀ f ∈ fs, f.1 ≠ none) ∧ ∀ name ∈ names, (behind name fs).length ≤ 1
  | .array items => items.length ≤ names.length
  | _ => False

/-- What the document has for a field: in an object what stands behind its name, in an array the item in its
place. -/
def part? (names : List String) (name : String) : Document → Option Document
  | .object fs => (behind name fs).head?
  | .array items => items[names.idxOf name]?
  | _ => none

theorem behind_append (name : String) (fs fs' : List (Option String × Document)) :
    behind name (fs ++ fs') = behind name fs ++ behind name fs' := List.filterMap_append

theorem behind_self (name : String) (d : Document) : behind name [(some name, d)] = [d] := by
  simp [behind]

theorem behind_of_ne {name other : String} (h : other ≠ name) (d : Document) :
    behind name [(some other, d)] = [] := by
  simp [behind, h]

end Document

namespace Decoder

open Document (behind behind_append behind_self behind_of_ne)

section
variable {names : List String} {name : String}

theorem place?_eq_none : place? (names.map fun n => [n]) name = none ↔ name ∉ names := by
  rw [place?, List.findIdx?_eq_none_iff]
  constructor
  · intro h hmem
    have := h [name] (List.mem_map_of_mem hmem)
    simp at this
  · intro h n hn
    obtain ⟨m, hm, rfl⟩ := List.mem_map.mp hn
    have hne : name ≠ m := fun heq => h (heq ▸ hm)
    simpa using hne

theorem getElem_of_place? {i : Nat} (h : place? (names.map fun n => [n]) name = some i) :
    ∃ hi : i < names.length, names[i] = name := by
  obtain ⟨hi, hcontains, -⟩ := List.findIdx?_eq_some_iff_getElem.mp h
  rw [List.length_map] at hi
  refine ⟨hi, ?_⟩
  rw [List.getElem_map] at hcontains
  simpa [eq_comm] using hcontains

/-- What some fields of an object put in the places of the known ones. -/
def table (names : List String) (fs : List (Option String × Document)) : List (Option Document) :=
  names.map fun name => (behind name fs).head?

theorem table_of_unknown (hname : name ∉ names) (fs : List (Option String × Document)) (d : Document) :
    table names (fs ++ [(some name, d)]) = table names fs := by
  refine List.map_congr_left fun n hn => ?_
  have hne : name ≠ n := fun heq => hname (heq ▸ hn)
  rw [behind_append, behind_of_ne hne, List.append_nil]

theorem table_of_known (hnames : names.Nodup) {fs : List (Option String × Document)} {i : Nat}
    (hi : i < names.length) (hnone : behind names[i] fs = []) (d : Document) :
    table names (fs ++ [(some names[i], d)]) = (table names fs).set i (some d) := by
  refine List.ext_getElem (by simp [table]) fun j hj hj' => ?_
  have hjn : j < names.length := by simpa [table] using hj
  rw [List.getElem_set]
  simp only [table, List.getElem_map, behind_append]
  split
  · next hij =>
    subst hij
    rw [hnone, behind_self]
    rfl
  · next hij =>
    have hne : names[i] ≠ names[j] := fun heq => hij (hnames.getElem_inj_iff.mp heq)
    rw [behind_of_ne hne, List.append_nil]

theorem isRecord_append {fs fs' : List (Option String × Document)}
    (h : Document.IsRecord names (.object (fs ++ fs'))) : Document.IsRecord names (.object fs) := by
  obtain ⟨hproper, hsingle⟩ := h
  refine ⟨fun f hf => hproper f (List.mem_append_left _ hf), fun n hn => ?_⟩
  have := hsingle n hn
  rw [behind_append, List.length_append] at this
  omega

/-- The pass goes through if the fields make a record with those before them, and leaves what these put in the
places of the known ones. -/
theorem gather_eq_some_iff (hnames : names.Nodup) {before fs : List (Option String × Document)}
    (hbefore : Document.IsRecord names (.object before)) {found : List (Option Document)} :
    gather (names.map fun n => [n]) (table names before) fs = some found ↔
      Document.IsRecord names (.object (before ++ fs)) ∧ found = table names (before ++ fs) := by
  induction fs generalizing before with
  | nil => simp [gather, hbefore, eq_comm]
  | cons f fs ih =>
    obtain ⟨_ | name, d⟩ := f
    · refine ⟨(by intro h; cases h), fun h => ?_⟩
      exact absurd rfl (h.1.1 (none, d) (by simp))
    · have hproper : ∀ f ∈ before ++ [(some name, d)], f.1 ≠ none := by
        rw [List.forall_mem_append, List.forall_mem_singleton]
        exact ⟨hbefore.1, Option.some_ne_none name⟩
      rw [List.append_cons before (some name, d) fs]
      simp only [gather]
      cases hplace : place? (names.map fun n => [n]) name with
      | none =>
        have hname := place?_eq_none.mp hplace
        rw [← table_of_unknown hname before d]
        refine ih ⟨hproper, fun n hn => ?_⟩
        have hne : name ≠ n := fun heq => hname (heq ▸ hn)
        rw [behind_append, behind_of_ne hne, List.append_nil]
        exact hbefore.2 n hn
      | some i =>
        obtain ⟨hi, rfl⟩ := getElem_of_place? hplace
        have hfound : (table names before)[i]? = some (behind names[i] before).head? := by
          simp [table, hi]
        dsimp only
        rw [hfound]
        cases hbehind : behind names[i] before with
        | nil =>
          dsimp only [List.head?_nil]
          rw [← table_of_known hnames hi hbehind d]
          refine ih ⟨hproper, fun n hn => ?_⟩
          rw [behind_append]
          by_cases heq : names[i] = n
          · rw [← heq, hbehind, behind_self]
            exact Nat.le_refl 1
          · rw [behind_of_ne heq, List.append_nil]
            exact hbefore.2 n hn
        | cons d' ds =>
          refine ⟨(by intro h; cases h), fun h => ?_⟩
          have htwice := (isRecord_append h.1).2 names[i] (List.getElem_mem hi)
          rw [behind_append, hbehind, behind_self] at htwice
          simp at htwice

theorem items_by_name (hnames : names.Nodup) {items : List Document} (hle : items.length ≤ names.length) :
    items.map some ++ List.replicate (names.length - items.length) none =
      names.map fun name => items[names.idxOf name]? := by
  refine List.ext_getElem (by simp; omega) fun j _ hj => ?_
  have hjn : j < names.length := by simpa using hj
  rw [List.getElem_map, hnames.idxOf_getElem j hjn]
  by_cases hji : j < items.length
  · rw [List.getElem_append_left (by simpa using hji), List.getElem_map, List.getElem?_eq_getElem hji]
  · rw [List.getElem_append_right (by simpa using hji), List.getElem_replicate,
      List.getElem?_eq_none (Nat.not_lt.mp hji)]

/-- The fields of a record, each in its place. -/
theorem fields_eq_some_iff (hnames : names.Nodup) {room left : Nat} {d : Document}
    {found : List (Option Document)} :
    fields (names.map fun n => [n]) (room + 1) d = some (left, found) ↔
      d.IsRecord names ∧ left = room ∧ found = names.map fun name => d.part? names name := by
  cases d with
  | object fs =>
    have hempty : ((names.map fun n => [n]).map fun _ => (none : Option Document)) = table names [] := by
      rw [List.map_map]
      rfl
    have hgather : gather (names.map fun n => [n]) (table names []) fs = some found ↔
        Document.IsRecord names (.object fs) ∧ found = table names fs :=
      gather_eq_some_iff hnames ⟨List.forall_mem_nil _, fun n _ => Nat.zero_le 1⟩
    show (gather _ _ fs).map _ = _ ↔ _
    rw [hempty, Option.map_eq_some_iff]
    constructor
    · rintro ⟨found', h, heq⟩
      obtain ⟨rfl, rfl⟩ := Prod.mk.inj heq
      exact ⟨(hgather.mp h).1, rfl, (hgather.mp h).2⟩
    · rintro ⟨hrecord, rfl, hfound⟩
      exact ⟨found, hgather.mpr ⟨hrecord, hfound⟩, rfl⟩
  | array items =>
    show (if items.length ≤ (names.map fun n => [n]).length then _ else none) = _ ↔ _
    rw [List.length_map]
    split
    · next hle =>
      rw [items_by_name hnames hle, Option.some.injEq, Prod.mk.injEq]
      exact ⟨fun h => ⟨hle, h.1.symm, h.2.symm⟩, fun h => ⟨h.2.1.symm, h.2.2.symm⟩⟩
    · next hlong =>
      exact ⟨nofun, fun h => (hlong h.1).elim⟩
  | null => exact ⟨nofun, fun h => h.1.elim⟩
  | boolean b => exact ⟨nofun, fun h => h.1.elim⟩
  | number n => exact ⟨nofun, fun h => h.1.elim⟩
  | string s => exact ⟨nofun, fun h => h.1.elim⟩

end

end Decoder

end ScanConsole.Json
