import EventLoop.Toml.Document
import Mathlib.Data.List.Nodup

/-!
# No table has a key twice

A document that defines a key twice is none. So in what a document describes every table, however deep inside, has
each of its keys once.

* `Node.Keyed`, `Value.Keyed` — no table has a key twice, while the document is read and in the value.
* `Table.Keyed.alter`, `Table.Keyed.insert`, `Table.Keyed.openTable`, `Table.Keyed.openElement` — this is kept by all
  that is done to the tree.
* `keyed_of_value?` — the values that are read have it, and so has the document (`keyed_of_parse`).
-/

namespace EventLoop.Toml

/-! ## Trees and values -/

/-- No table in the value has a key twice. -/
inductive Value.Keyed : Value → Prop where
  | string (text : String) : Keyed (.string text)
  | integer (i : Int64) : Keyed (.integer i)
  | float (x : Double) : Keyed (.float x)
  | boolean (b : Bool) : Keyed (.boolean b)
  | dateTime (d : DateTime) : Keyed (.dateTime d)
  | array {items : List Value} (values : ∀ v ∈ items, v.Keyed) : Keyed (.array items)
  | table {entries : List (String × Value)} (nodup : (entries.map Prod.fst).Nodup)
      (values : ∀ e ∈ entries, e.2.Keyed) : Keyed (.table entries)

/-- No table in the tree has a key twice. -/
inductive Node.Keyed : Node → Prop where
  | value {v : Value} (keyed : v.Keyed) : Keyed (.value v)
  | table {t : Table Node} (nodup : (t.entries.map Prod.fst).Nodup) (nodes : ∀ e ∈ t.entries, Keyed e.2) :
      Keyed (.table t)
  | tables {elements : List (Table Node)} (nodes : ∀ t ∈ elements, Keyed (.table t)) : Keyed (.tables elements)

theorem entryValues_eq (entries : List (String × Node)) :
    entryValues entries = entries.map fun e => (e.1, e.2.toValue) := by
  induction entries with
  | nil => rfl
  | cons e rest ih => rw [List.map_cons, ← ih, entryValues]

theorem tableValues_eq (elements : List (Table Node)) :
    tableValues elements = elements.map fun t => (Node.table t).toValue := by
  induction elements with
  | nil => rfl
  | cons t rest ih => rw [List.map_cons, ← ih, tableValues, Node.toValue]

/-- The induction is on the tree. -/
theorem Node.Keyed.toValue {n : Node} (h : n.Keyed) : n.toValue.Keyed := by
  induction h with
  | value keyed =>
    rw [Node.toValue]
    exact keyed
  | @table t nodup _ ih =>
    rw [Node.toValue, entryValues_eq]
    refine .table ?_ fun e he => ?_
    · rw [List.map_map]
      exact nodup
    · obtain ⟨e', he', rfl⟩ := List.mem_map.mp he
      exact ih e' he'
  | tables _ ih =>
    rw [Node.toValue, tableValues_eq]
    refine .array fun v hv => ?_
    obtain ⟨t, ht, rfl⟩ := List.mem_map.mp hv
    exact ih t ht

/-! ## Changing a tree -/

namespace Table

/-- No table in the table, itself included, has a key twice. -/
def Keyed (t : Table Node) : Prop := (Node.table t).Keyed

variable {t t' : Table Node} {key : String} {n : Node} {v : Value}

theorem Keyed.nodup (h : t.Keyed) : (t.entries.map Prod.fst).Nodup := by
  cases h with
  | table nodup _ => exact nodup

theorem Keyed.nodes (h : t.Keyed) {e : String × Node} (he : e ∈ t.entries) : e.2.Keyed := by
  cases h with
  | table _ nodes => exact nodes e he

theorem Keyed.congr (h : t.Keyed) (hentries : t'.entries = t.entries) : t'.Keyed :=
  .table (hentries ▸ h.nodup) fun _ he => h.nodes (hentries ▸ he)

theorem keyed_of_nil (hentries : t.entries = []) : t.Keyed := by
  refine .table ?_ fun e he => ?_
  · rw [hentries]
    exact List.nodup_nil
  · rw [hentries] at he
    cases he

theorem Keyed.get? (h : t.Keyed) (hget : t.get? key = some n) : n.Keyed := by
  obtain ⟨e, he, rfl⟩ := Option.map_eq_some_iff.mp hget
  exact h.nodes (List.mem_of_find?_eq_some he)

theorem not_mem_of_get? (hget : ¬(t.get? key).isSome = true) : key ∉ t.entries.map Prod.fst := by
  intro hmem
  obtain ⟨e, he, rfl⟩ := List.mem_map.mp hmem
  refine hget ?_
  rw [get?, Option.isSome_map, List.find?_isSome]
  exact ⟨e, he, by simp⟩

theorem nodup_concat {entries : List (String × Node)} (hnodup : (entries.map Prod.fst).Nodup)
    (hnew : key ∉ entries.map Prod.fst) : ((entries ++ [(key, n)]).map Prod.fst).Nodup := by
  rw [List.map_append, List.nodup_append]
  refine ⟨hnodup, List.nodup_singleton _, ?_⟩
  rintro a ha b hb rfl
  rw [List.mem_singleton.mp hb] at ha
  exact hnew ha

theorem Keyed.put (h : t.Keyed) (hn : n.Keyed) : (t.put key n).Keyed := by
  unfold Table.put
  split
  · refine .table ?_ fun e he => ?_
    · -- the keys are the same, in the same order
      have hkeys : (t.entries.map fun e => if e.1 = key then (key, n) else e).map Prod.fst =
          t.entries.map Prod.fst := by
        rw [List.map_map]
        refine List.map_congr_left fun e _ => ?_
        rw [Function.comp_apply]
        split
        · next hkey => exact hkey.symm
        · rfl
      dsimp only
      rw [hkeys]
      exact h.nodup
    · obtain ⟨e', he', rfl⟩ := List.mem_map.mp he
      split
      · exact hn
      · exact h.nodes he'
  · next hget =>
    refine .table (nodup_concat h.nodup (not_mem_of_get? hget)) fun e he => ?_
    rcases List.mem_append.mp he with he | he
    · exact h.nodes he
    · rw [List.mem_singleton.mp he]
      exact hn

theorem Keyed.putLast (h : t.Keyed) (hn : n.Keyed) : (t.putLast key n).Keyed := by
  refine .table (nodup_concat ?_ ?_) fun e he => ?_
  · exact h.nodup.sublist (List.filter_sublist.map _)
  · intro hmem
    obtain ⟨e, he, hkey⟩ := List.mem_map.mp hmem
    simpa [hkey] using (List.mem_filter.mp he).2
  · rcases List.mem_append.mp he with he | he
    · exact h.nodes (List.mem_filter.mp he).1
    · rw [List.mem_singleton.mp he]
      exact hn

/-- **What keeps it at the end of a path keeps it in the whole table.** The induction is on the path. -/
theorem Keyed.alter {dotted : Bool} {path : List String} {change : Table Node → Option (Table Node)}
    (hchange : ∀ u u', u.Keyed → change u = some u' → u'.Keyed) (h : t.Keyed)
    (halter : t.alter dotted path change = some t') : t'.Keyed := by
  induction path generalizing t t' with
  | nil => exact hchange t t' h halter
  | cons key path ih =>
    unfold Table.alter at halter
    split at halter
    · obtain ⟨u', hu', rfl⟩ := Option.map_eq_some_iff.mp halter
      exact h.put (ih (keyed_of_nil rfl) hu')
    · cases halter
    · next u hget =>
      split at halter
      · cases halter
      · obtain ⟨u', hu', rfl⟩ := Option.map_eq_some_iff.mp halter
        exact h.put (ih (h.get? hget) hu')
    · next elements hget =>
      have helements : ∀ u ∈ elements, Keyed u := by
        cases h.get? hget with
        | tables helements => exact helements
      split at halter
      · cases halter
      · next u hlast =>
        obtain ⟨u', hu', rfl⟩ := Option.map_eq_some_iff.mp halter
        have hkeyed : u'.Keyed := ih (helements u (List.mem_of_getLast? hlast)) hu'
        refine h.put (.tables fun w hw => ?_)
        rcases List.mem_append.mp hw with hw | hw
        · exact helements w ((List.dropLast_sublist elements).subset hw)
        · rw [List.mem_singleton.mp hw]
          exact hkeyed

theorem Keyed.addValue {plain : Bool} (h : t.Keyed) (hv : v.Keyed) (hadd : t.addValue plain key v = some t') :
    t'.Keyed := by
  unfold Table.addValue at hadd
  split at hadd
  · cases hadd
  · cases hadd
    exact h.put (.value hv)

/-- A value that is added under a new key leaves the other keys alone. -/
theorem Keyed.insert {path : List String} (h : t.Keyed) (hv : v.Keyed) (hinsert : t.insert path v = some t') :
    t'.Keyed := by
  unfold Table.insert at hinsert
  split at hinsert
  · cases hinsert
  · exact Keyed.alter (fun _ _ hu hadd => hu.addValue hv hadd) h hinsert

theorem Keyed.openChild (h : t.Keyed) (hopen : t.openChild key = some t') : t'.Keyed := by
  unfold Table.openChild at hopen
  split at hopen
  · cases hopen
    exact h.put (keyed_of_nil rfl)
  · next u hget =>
    split at hopen
    · cases hopen
      have hu : Keyed u := h.get? hget
      exact h.putLast (hu.congr rfl)
    · cases hopen
  · cases hopen

theorem Keyed.openLast (h : t.Keyed) (hopen : t.openLast key = some t') : t'.Keyed := by
  unfold Table.openLast at hopen
  have hopened : Keyed opened := keyed_of_nil rfl
  split at hopen
  · cases hopen
    refine h.put (.tables fun u hu => ?_)
    rw [List.mem_singleton.mp hu]
    exact hopened
  · next elements hget =>
    cases hopen
    refine h.put (.tables fun u hu => ?_)
    rcases List.mem_append.mp hu with hu | hu
    · cases h.get? hget with
      | tables helements => exact helements u hu
    · rw [List.mem_singleton.mp hu]
      exact hopened
  · cases hopen

theorem Keyed.openTable {path : List String} (h : t.Keyed) (hopen : t.openTable path = some t') : t'.Keyed := by
  obtain ⟨key, -, halter⟩ := Option.bind_eq_some_iff.mp hopen
  exact Keyed.alter (fun _ _ hu hchild => hu.openChild hchild) h halter

theorem Keyed.openElement {path : List String} (h : t.Keyed) (hopen : t.openElement path = some t') : t'.Keyed := by
  obtain ⟨key, -, halter⟩ := Option.bind_eq_some_iff.mp hopen
  exact Keyed.alter (fun _ _ hu hlast => hu.openLast hlast) h halter

end Table

/-! ## Reading values -/

/-- Whatever is read, no table in it has a key twice. -/
def Reader.Keyed (read : Reader Value) : Prop := ∀ s v rest, read s = some (v, rest) → v.Keyed

variable {item : Reader Value} {s rest : List Char} {v : Value}

theorem keyed_of_integerValue? {negative : Bool} {n : Nat} (h : integerValue? negative n = some v) : v.Keyed := by
  obtain ⟨-, h⟩ := Option.ite_none_right_eq_some.mp h
  cases h
  exact .integer _

theorem keyed_of_floatValue? {negative : Bool} {digits : List Char} {scale : Int}
    (h : floatValue? negative digits scale = some v) : v.Keyed := by
  unfold floatValue? at h
  obtain ⟨n, -, h⟩ := Option.bind_eq_some_iff.mp h
  obtain ⟨-, h⟩ := Option.ite_none_left_eq_some.mp h
  cases h
  exact .float _

theorem keyed_of_basedInteger? {base : Nat} (h : basedInteger? base s = some (v, rest)) : v.Keyed := by
  unfold basedInteger? at h
  obtain ⟨⟨ds, rest'⟩, -, h⟩ := Option.bind_eq_some_iff.mp h
  obtain ⟨n, -, h⟩ := Option.bind_eq_some_iff.mp h
  obtain ⟨w, hw, h⟩ := Option.map_eq_some_iff.mp h
  cases h
  exact keyed_of_integerValue? hw

theorem keyed_of_afterWhole? {negative : Bool} {whole : List Char}
    (h : afterWhole? negative whole s = some (v, rest)) : v.Keyed := by
  unfold afterWhole? at h
  split at h
  · obtain ⟨⟨part, s'⟩, -, h⟩ := Option.bind_eq_some_iff.mp h
    obtain ⟨⟨exponent, rest'⟩, -, h⟩ := Option.bind_eq_some_iff.mp h
    obtain ⟨w, hw, h⟩ := Option.map_eq_some_iff.mp h
    cases h
    exact keyed_of_floatValue? hw
  · split at h
    · obtain ⟨⟨exponent, rest'⟩, -, h⟩ := Option.bind_eq_some_iff.mp h
      obtain ⟨w, hw, h⟩ := Option.map_eq_some_iff.mp h
      cases h
      exact keyed_of_floatValue? hw
    · obtain ⟨n, -, h⟩ := Option.bind_eq_some_iff.mp h
      obtain ⟨w, hw, h⟩ := Option.map_eq_some_iff.mp h
      cases h
      exact keyed_of_integerValue? hw

theorem keyed_number? : Reader.Keyed number? := by
  intro s v rest h
  unfold number? at h
  split at h
  · exact keyed_of_basedInteger? h
  · exact keyed_of_basedInteger? h
  · exact keyed_of_basedInteger? h
  · split at h
    · cases h
      exact .float _
    · cases h
      exact .float _
    · obtain ⟨⟨whole, s'⟩, -, h⟩ := Option.bind_eq_some_iff.mp h
      exact keyed_of_afterWhole? h

theorem keyed_scalar? : Reader.Keyed scalar? := by
  intro s v rest h
  unfold scalar? at h
  split at h
  · cases h
    exact .boolean _
  · cases h
    exact .boolean _
  · split at h
    · cases h
      exact .string _
    · split at h
      · cases h
        exact .dateTime _
      · exact keyed_number? _ _ _ h

/-- The induction is on the text. -/
theorem keyed_of_items? (hitem : item.Keyed) {vs : List Value} (h : items? item s = some (vs, rest)) :
    ∀ v ∈ vs, v.Keyed := by
  fun_induction items? item s generalizing vs rest with
  | case1 s rest' hend =>
    cases h
    exact fun _ hv => absurd hv List.not_mem_nil
  | case2 s hmore hnone => cases h
  | case3 s v rest' rest'' hend hmore hv =>
    cases h
    intro w hw
    rw [List.mem_singleton.mp hw]
    exact hitem _ _ _ hv
  | case4 s v rest' rest'' hcomma hlt hmore hv ih =>
    obtain ⟨⟨ws, rest''⟩, hws, he⟩ := Option.map_eq_some_iff.mp h
    cases he
    intro w hw
    rcases List.mem_cons.mp hw with rfl | hw
    · exact hitem _ _ _ hv
    · exact ih hws w hw
  | case5 => cases h
  | case6 => cases h

theorem keyed_of_pair? (hitem : item.Keyed) {p : List String × Value} (h : pair? item s = some (p, rest)) :
    p.2.Keyed := by
  unfold pair? at h
  obtain ⟨⟨path, s₁⟩, -, h⟩ := Option.bind_eq_some_iff.mp h
  obtain ⟨s₂, -, h⟩ := Option.bind_eq_some_iff.mp h
  obtain ⟨⟨v, s₃⟩, hv, h⟩ := Option.bind_eq_some_iff.mp h
  cases h
  exact hitem _ _ _ hv

/-- The induction is on the text. -/
theorem keyed_of_pairs? (hitem : item.Keyed) {ps : List (List String × Value)}
    (h : pairs? item s = some (ps, rest)) : ∀ p ∈ ps, p.2.Keyed := by
  fun_induction pairs? item s generalizing ps rest with
  | case1 s hnone => cases h
  | case2 s p rest' hp rest'' hend =>
    cases h
    intro q hq
    rw [List.mem_singleton.mp hq]
    exact keyed_of_pair? hitem hp
  | case3 s p rest' hp rest'' hcomma hlt ih =>
    obtain ⟨⟨qs, rest''⟩, hqs, he⟩ := Option.map_eq_some_iff.mp h
    cases he
    intro q hq
    rcases List.mem_cons.mp hq with rfl | hq
    · exact keyed_of_pair? hitem hp
    · exact ih hqs q hq
  | case4 => cases h
  | case5 => cases h

/-- The induction is on the pairs. -/
theorem keyed_of_foldlM {pairs : List (List String × Value)} (hpairs : ∀ p ∈ pairs, p.2.Keyed) {t t' : Table Node}
    (ht : t.Keyed)
    (h : pairs.foldlM (fun t (p : List String × Value) => Table.insert p.1 p.2 t) t = some t') : t'.Keyed := by
  induction pairs generalizing t with
  | nil =>
    cases h
    exact ht
  | cons p rest ih =>
    rw [List.foldlM_cons] at h
    obtain ⟨u, hu, h⟩ := Option.bind_eq_some_iff.mp h
    exact ih (fun q hq => hpairs q (List.mem_cons_of_mem p hq)) (ht.insert (hpairs p List.mem_cons_self) hu) h

theorem keyed_braces? (hitem : item.Keyed) : Reader.Keyed (braces? item) := by
  intro s v rest h
  unfold braces? at h
  split at h
  · cases h
    exact .table List.nodup_nil fun _ he => absurd he List.not_mem_nil
  · obtain ⟨⟨pairs, rest'⟩, hpairs, h⟩ := Option.bind_eq_some_iff.mp h
    obtain ⟨w, hw, he⟩ := Option.map_eq_some_iff.mp h
    cases he
    obtain ⟨t, ht, rfl⟩ := Option.map_eq_some_iff.mp hw
    exact Node.Keyed.toValue (keyed_of_foldlM (keyed_of_pairs? hitem hpairs) (Table.keyed_of_nil rfl) ht)

/-- **No table in a value that is read has a key twice.** The induction is on how deep the value may nest. -/
theorem keyed_value? (depth : Nat) : Reader.Keyed (value? depth) := by
  induction depth with
  | zero => exact keyed_scalar?
  | succ depth ih =>
    intro s v rest h
    unfold value? at h
    split at h
    · obtain ⟨⟨vs, rest'⟩, hvs, he⟩ := Option.map_eq_some_iff.mp h
      cases he
      exact .array (keyed_of_items? ih hvs)
    · exact keyed_braces? ih _ _ _ h
    · exact keyed_scalar? _ _ _ h

/-! ## Reading a document -/

namespace Document

variable {d d' : Document}

theorem keyed_of_statement? (hd : d.root.Keyed) (h : d.statement? s = some (d', rest)) : d'.root.Keyed := by
  unfold statement? at h
  split at h
  · obtain ⟨⟨path, s₁⟩, -, h⟩ := Option.bind_eq_some_iff.mp h
    obtain ⟨s₂, -, h⟩ := Option.bind_eq_some_iff.mp h
    obtain ⟨s₃, -, h⟩ := Option.bind_eq_some_iff.mp h
    obtain ⟨s₄, -, h⟩ := Option.bind_eq_some_iff.mp h
    obtain ⟨e, hopen, he⟩ := Option.map_eq_some_iff.mp h
    cases he
    obtain ⟨root, hroot, rfl⟩ := Option.map_eq_some_iff.mp hopen
    exact hd.openElement hroot
  · obtain ⟨⟨path, s₁⟩, -, h⟩ := Option.bind_eq_some_iff.mp h
    obtain ⟨s₂, -, h⟩ := Option.bind_eq_some_iff.mp h
    obtain ⟨s₃, -, h⟩ := Option.bind_eq_some_iff.mp h
    obtain ⟨e, hopen, he⟩ := Option.map_eq_some_iff.mp h
    cases he
    obtain ⟨root, hroot, rfl⟩ := Option.map_eq_some_iff.mp hopen
    exact hd.openTable hroot
  · obtain ⟨⟨⟨path, v⟩, s₁⟩, hpair, h⟩ := Option.bind_eq_some_iff.mp h
    obtain ⟨s₂, -, h⟩ := Option.bind_eq_some_iff.mp h
    obtain ⟨e, hadd, he⟩ := Option.map_eq_some_iff.mp h
    cases he
    obtain ⟨root, hroot, rfl⟩ := Option.map_eq_some_iff.mp hadd
    have hv : v.Keyed := keyed_of_pair? (keyed_value? maxDepth) hpair
    exact Table.Keyed.alter (fun _ _ hu hinsert => hu.insert hv hinsert) hd hroot

/-- The induction is on the text. -/
theorem keyed_of_statements? (hd : d.root.Keyed) (h : d.statements? s = some d') : d'.root.Keyed := by
  fun_induction statements? d s with
  | case1 d s hend =>
    cases h
    exact hd
  | case2 => cases h
  | case3 d s d₁ rest hlt hmore hstatement ih => exact ih (keyed_of_statement? hd hstatement) h
  | case4 => cases h

/-- **No table that a text describes has a key twice, however deep inside.** -/
theorem keyed_of_parse {text : String} {entries : List (String × Value)} (h : parse text = some entries) :
    (Value.table entries).Keyed := by
  obtain ⟨d, hd, rfl⟩ := Option.map_eq_some_iff.mp h
  have hroot : d.root.Keyed := keyed_of_statements? (Table.keyed_of_nil rfl) hd
  have hvalue : (Node.table d.root).toValue = .table (entryValues d.root.entries) := by rw [Node.toValue]
  rw [← hvalue]
  exact Node.Keyed.toValue hroot

end Document

end EventLoop.Toml
