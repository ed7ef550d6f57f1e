import AssetBroker.Toml.Reader
import Mathlib.Data.List.Nodup

/-! No table of a document that is read holds a key twice, however deep it lies in the document
and however it came about: by headers, dotted keys, inline or as an element of an array of
tables. -/
namespace AssetBroker.Toml

/-- No table in the node holds a key twice. -/
inductive Node.Distinct : Node → Prop
  | text (s : String) : Distinct (.text s)
  | integer (n : Int64) : Distinct (.integer n)
  | float (x : Binary64) : Distinct (.float x)
  | boolean (b : Bool) : Distinct (.boolean b)
  | moment (normalised : String) : Distinct (.moment normalised)
  | array {items : List Node} (each : ∀ item ∈ items, item.Distinct) : Distinct (.array items)
  | table {entries : Table} (keys : (entries.map Prod.fst).Nodup)
      (each : ∀ entry ∈ entries, entry.2.Distinct) : Distinct (.table entries)

namespace Draft

/-- No table in the draft holds a key twice. -/
inductive Distinct : Draft → Prop
  | node {value : Node} (distinct : value.Distinct) : Distinct (.node value)
  | table {unnamed dotted : Bool} {entries : Entries} (keys : (entries.map Prod.fst).Nodup)
      (each : ∀ entry ∈ entries, entry.2.Distinct) : Distinct (.table unnamed dotted entries)
  | tables {elements : List Entries}
      (keys : ∀ element ∈ elements, (element.map Prod.fst).Nodup)
      (each : ∀ element ∈ elements, ∀ entry ∈ element, entry.2.Distinct) :
      Distinct (.tables elements)

structure Entries.Distinct (entries : Entries) : Prop where
  keys : (entries.map Prod.fst).Nodup
  each : ∀ entry ∈ entries, entry.2.Distinct

theorem Entries.distinct_nil : Entries.Distinct [] := ⟨.nil, by simp⟩

theorem distinct_tables_iff {elements : List Entries} :
    (Draft.tables elements).Distinct ↔ ∀ element ∈ elements, element.Distinct := by
  constructor
  · rintro (_ | _ | ⟨keys, each⟩) element member
    exact ⟨keys element member, each element member⟩
  · intro each
    exact .tables (fun element member => (each element member).keys)
      fun element member => (each element member).each

theorem distinct_table_iff {unnamed dotted : Bool} {entries : Entries} :
    (Draft.table unnamed dotted entries).Distinct ↔ entries.Distinct := by
  constructor
  · rintro (_ | ⟨keys, each⟩)
    exact ⟨keys, each⟩
  · intro distinct
    exact .table distinct.keys distinct.each

theorem Entries.Distinct.of_lookup {entries : Entries} (distinct : entries.Distinct)
    {key : String} {draft : Draft} (found : entries.lookup key = some draft) :
    draft.Distinct := by
  obtain ⟨before, after, rfl, _⟩ := List.lookup_eq_some_iff.mp found
  exact distinct.each (key, draft) (by simp)

/-! ### Finishing -/

theorem finishEntries_eq_map (entries : Entries) :
    finishEntries entries = entries.map fun entry => (entry.1, entry.2.finish) := by
  induction entries with
  | nil => rfl
  | cons entry rest ih =>
    obtain ⟨key, draft⟩ := entry
    rw [finishEntries, ih, List.map_cons]

theorem finishElements_eq_map (elements : List Entries) :
    finishElements elements = elements.map fun element => .table (finishEntries element) := by
  induction elements with
  | nil => rfl
  | cons element rest ih => rw [finishElements, ih, List.map_cons]

theorem distinct_finishEntries {entries : Entries} (keys : (entries.map Prod.fst).Nodup)
    (each : ∀ entry ∈ entries, entry.2.finish.Distinct) :
    (Node.table (finishEntries entries)).Distinct := by
  rw [finishEntries_eq_map]
  refine .table ?_ ?_
  · rwa [List.map_map]
  · intro entry member
    obtain ⟨drafted, held, rfl⟩ := List.mem_map.mp member
    exact each drafted held

theorem Distinct.finish {draft : Draft} (distinct : draft.Distinct) : draft.finish.Distinct := by
  induction distinct with
  | node distinct => rwa [Draft.finish]
  | table keys _ ih =>
    rw [Draft.finish]
    exact distinct_finishEntries keys ih
  | tables keys _ ih =>
    rw [Draft.finish, finishElements_eq_map]
    refine .array ?_
    intro item member
    obtain ⟨element, held, rfl⟩ := List.mem_map.mp member
    exact distinct_finishEntries (keys element held) (ih element held)

theorem Entries.Distinct.finish {entries : Entries} (distinct : entries.Distinct) :
    (Node.table (finishEntries entries)).Distinct :=
  distinct_finishEntries distinct.keys fun entry member => (distinct.each entry member).finish

/-! ### Changes to tables under construction -/

theorem mem_keys_put {key name : String} {draft : Draft} {entries : Entries} :
    name ∈ (put key draft entries).map Prod.fst ↔ name = key ∨ name ∈ entries.map Prod.fst := by
  induction entries with
  | nil => simp [put]
  | cons entry rest ih =>
    rw [put]
    split
    · rename_i same
      simp [same]
    · rw [List.map_cons, List.mem_cons, ih, List.map_cons, List.mem_cons]
      exact or_left_comm

theorem Entries.Distinct.put {entries : Entries} (distinct : entries.Distinct) (key : String)
    {draft : Draft} (sound : draft.Distinct) : (Draft.put key draft entries).Distinct := by
  induction entries with
  | nil => exact ⟨by simp [Draft.put], by simpa [Draft.put] using sound⟩
  | cons entry rest ih =>
    obtain ⟨fresh, keys⟩ := List.nodup_cons.mp distinct.keys
    obtain ⟨first, each⟩ := List.forall_mem_cons.mp distinct.each
    rw [Draft.put]
    split
    · rename_i same
      exact ⟨List.nodup_cons.mpr ⟨same ▸ fresh, keys⟩, List.forall_mem_cons.mpr ⟨sound, each⟩⟩
    · rename_i other
      obtain ⟨laterKeys, laterEach⟩ := ih ⟨keys, each⟩
      refine ⟨List.nodup_cons.mpr ⟨?_, laterKeys⟩, List.forall_mem_cons.mpr ⟨first, laterEach⟩⟩
      rw [mem_keys_put]
      rintro (same | later)
      · exact other same
      · exact fresh later

theorem Entries.Distinct.filter {entries : Entries} (distinct : entries.Distinct)
    (test : String × Draft → Bool) : Entries.Distinct (entries.filter test) :=
  ⟨distinct.keys.sublist (List.filter_sublist.map Prod.fst),
    fun entry member => distinct.each entry (List.mem_filter.mp member).1⟩

/-- A change that keeps distinct what it is made to, and whose results have some property. -/
def Keeps {α : Type} (change : Bool → Entries → Option (Entries × α)) (good : α → Prop) : Prop :=
  ∀ madeByDots entries next result, entries.Distinct →
    change madeByDots entries = some (next, result) → next.Distinct ∧ good result

theorem Keeps.within {α : Type} {change : Bool → Entries → Option (Entries × α)}
    {good : α → Prop} (keeps : Keeps change good) (dotted : Bool) (path : List String) :
    Keeps (Draft.within dotted change path) good := by
  induction path with
  | nil =>
    intro madeByDots entries next result distinct changed
    exact keeps madeByDots entries next result distinct changed
  | cons key path ih =>
    intro madeByDots entries next result distinct changed
    rw [Draft.within] at changed
    split at changed
    · obtain ⟨⟨child, found⟩, inner, same⟩ := Option.bind_eq_some_iff.mp changed
      cases same
      obtain ⟨childDistinct, good⟩ := ih _ _ _ _ Entries.distinct_nil inner
      exact ⟨distinct.put key (distinct_table_iff.mpr childDistinct), good⟩
    · cases changed
    · rename_i unnamed made child found
      have held : Entries.Distinct child := distinct_table_iff.mp (distinct.of_lookup found)
      split at changed
      · cases changed
      · obtain ⟨⟨child, found⟩, inner, same⟩ := Option.bind_eq_some_iff.mp changed
        cases same
        obtain ⟨childDistinct, good⟩ := ih _ _ _ _ held inner
        exact ⟨distinct.put key (distinct_table_iff.mpr childDistinct), good⟩
    · rename_i elements found
      have held := distinct_tables_iff.mp (distinct.of_lookup found)
      obtain ⟨last, isLast, changed⟩ := Option.bind_eq_some_iff.mp changed
      obtain ⟨⟨child, found⟩, inner, same⟩ := Option.bind_eq_some_iff.mp changed
      cases same
      have lastHeld := held last (List.mem_of_getLast? isLast)
      obtain ⟨childDistinct, good⟩ := ih _ _ _ _ lastHeld inner
      refine ⟨distinct.put key (distinct_tables_iff.mpr ?_), good⟩
      intro element member
      rcases List.mem_append.mp member with before | final
      · exact held element (List.dropLast_subset elements before)
      · exact List.mem_singleton.mp final ▸ childDistinct

theorem Entries.Distinct.of_within {α : Type} {change : Bool → Entries → Option (Entries × α)}
    {dotted madeByDots : Bool} {path : List String} {entries next : Entries} {result : α}
    (distinct : entries.Distinct)
    (changed : Draft.within dotted change path madeByDots entries = some (next, result))
    (keeps : Keeps change fun _ => True) : next.Distinct :=
  (keeps.within dotted path madeByDots entries next result distinct changed).1

theorem Entries.Distinct.define {entries next : Entries} (distinct : entries.Distinct)
    {path : List String} {key : String} {value : Node} (sound : value.Distinct)
    (defined : Draft.define path key value entries = some next) : next.Distinct := by
  obtain ⟨⟨_, _⟩, changed, rfl⟩ := Option.map_eq_some_iff.mp defined
  refine distinct.of_within changed ?_
  intro madeByDots entries next result distinct changed
  dsimp only at changed
  split at changed
  · cases changed
  · cases changed
    exact ⟨distinct.put key (.node sound), trivial⟩

end Draft

/-! ### Values -/

/-- A reader all of whose nodes are distinct. -/
def ReadsDistinct (read? : List Char → Option (Node × List Char)) : Prop :=
  ∀ s node rest, read? s = some (node, rest) → node.Distinct

theorem distinct_of_map {α : Type} {found : Option α} {make : α → Node × List Char}
    {node : Node} {rest : List Char} (made : found.map make = some (node, rest))
    (sound : ∀ a, (make a).1.Distinct) : node.Distinct := by
  obtain ⟨a, _, same⟩ := Option.map_eq_some_iff.mp made
  have distinct := sound a
  rwa [same] at distinct

theorem distinct_of_ofInt? {n : Int} {node : Node} (made : ofInt? n = some node) :
    node.Distinct := by
  rw [ofInt?] at made
  split at made
  · cases made
    exact .integer _
  · cases made

theorem readsDistinct_readInteger? : ReadsDistinct readInteger? := by
  intro s node rest read
  simp only [readInteger?, Option.bind_eq_bind, Option.pure_def] at read
  split at read
  all_goals
    obtain ⟨_, _, read⟩ := Option.bind_eq_some_iff.mp read
    obtain ⟨_, made, same⟩ := Option.bind_eq_some_iff.mp read
    cases same
    exact distinct_of_ofInt? made

theorem readsDistinct_readFloat? : ReadsDistinct readFloat? := by
  intro s node rest read
  simp only [readFloat?, Option.bind_eq_bind, Option.pure_def, Option.bind_eq_some_iff,
    Option.some.injEq, Prod.mk.injEq] at read
  obtain ⟨_, _, _, _, _, made, rfl, _⟩ := read
  rw [ofDecimal?] at made
  split at made
  · cases made
    exact .float _
  · split at made
    · cases made
      exact .float _
    · cases made

theorem readsDistinct_readSpecial? : ReadsDistinct readSpecial? := by
  intro s node rest read
  simp only [readSpecial?] at read
  split at read
  · cases read
    exact .float _
  · exact distinct_of_map read fun _ => .float _

theorem readsDistinct_readMoment? : ReadsDistinct readMoment? := by
  intro s node rest read
  rw [readMoment?] at read
  cases date : readDate? s with
  | some found =>
    simp only [date] at read
    split at read
    · cases read
      exact .moment _
    · cases read
      exact .moment _
  | none =>
    simp only [date] at read
    exact distinct_of_map read fun _ => .moment _

theorem readsDistinct_readNumeral? : ReadsDistinct readNumeral? := by
  intro s node rest read
  simp only [readNumeral?, Option.orElse_eq_orElse, Option.orElse_eq_or, Option.or_eq_some_iff]
    at read
  rcases read with read | ⟨_, read | ⟨_, read | ⟨_, read⟩⟩⟩
  · exact readsDistinct_readMoment? s node rest read
  · exact readsDistinct_readFloat? s node rest read
  · exact readsDistinct_readSpecial? s node rest read
  · exact readsDistinct_readInteger? s node rest read

theorem distinct_of_readDefinition? {readValue? : List Char → Option (Node × List Char)}
    (sound : ReadsDistinct readValue?) {s rest : List Char} {path : List String} {value : Node}
    (read : readDefinition? readValue? s = some (path, value, rest)) : value.Distinct := by
  simp only [readDefinition?, Option.bind_eq_bind, Option.pure_def] at read
  obtain ⟨_, _, read⟩ := Option.bind_eq_some_iff.mp read
  split at read
  · obtain ⟨_, found, same⟩ := Option.bind_eq_some_iff.mp read
    cases same
    exact sound _ _ _ found
  · cases read

theorem distinct_of_readItems? {readValue? : List Char → Option (Node × List Char)}
    (sound : ReadsDistinct readValue?) {fuel : Nat} {s rest : List Char} {items : List Node}
    (read : readItems? readValue? fuel s = some (items, rest)) :
    ∀ item ∈ items, item.Distinct := by
  induction fuel generalizing s rest items with
  | zero => cases read
  | succ fuel ih =>
    rw [readItems?] at read
    split at read
    · cases read
      simp
    · simp only [Option.bind_eq_bind, Option.pure_def] at read
      obtain ⟨_, found, read⟩ := Option.bind_eq_some_iff.mp read
      have first := sound _ _ _ found
      split at read
      · obtain ⟨_, later, same⟩ := Option.bind_eq_some_iff.mp read
        cases same
        exact List.forall_mem_cons.mpr ⟨first, ih later⟩
      · cases read
        exact List.forall_mem_cons.mpr ⟨first, by simp⟩
      · cases read

theorem distinct_of_readInline? {readValue? : List Char → Option (Node × List Char)}
    (sound : ReadsDistinct readValue?) {fuel : Nat} {s rest : List Char}
    {entries next : Draft.Entries} (distinct : entries.Distinct)
    (read : readInline? readValue? fuel entries s = some (next, rest)) : next.Distinct := by
  induction fuel generalizing s rest entries with
  | zero => cases read
  | succ fuel ih =>
    simp only [readInline?, Option.bind_eq_bind, Option.pure_def] at read
    obtain ⟨_, found, read⟩ := Option.bind_eq_some_iff.mp read
    obtain ⟨_, _, read⟩ := Option.bind_eq_some_iff.mp read
    obtain ⟨_, defined, read⟩ := Option.bind_eq_some_iff.mp read
    have kept := distinct.define (distinct_of_readDefinition? sound found) defined
    split at read
    · exact ih kept read
    · cases read
      exact kept
    · cases read

/-- Values are distinct by induction on how deep they may be nested. -/
theorem readsDistinct_readValue? (depth : Nat) : ReadsDistinct (readValue? depth) := by
  induction depth using Nat.strongRecOn with
  | ind depth ih =>
    intro s node rest read
    unfold readValue? at read
    split at read
    case h_1 | h_2 => exact distinct_of_map read fun _ => .text _
    case h_3 | h_4 => exact distinct_of_map read fun _ => .boolean _
    case h_5 =>
      split at read
      · cases read
      · obtain ⟨_, items, same⟩ := Option.map_eq_some_iff.mp read
        cases same
        exact .array (distinct_of_readItems? (ih _ (Nat.lt_succ_self _)) items)
    case h_6 =>
      split at read
      · cases read
      · cases read
        exact .table .nil (by simp)
      · obtain ⟨_, entries, same⟩ := Option.map_eq_some_iff.mp read
        cases same
        exact (distinct_of_readInline? (ih _ (Nat.lt_succ_self _)) Draft.Entries.distinct_nil
          entries).finish
    case h_7 => exact readsDistinct_readNumeral? s node rest read

/-! ### Lines -/

structure Progress.Distinct (p : Progress) : Prop where
  root : p.root.Distinct
  current : p.current.Distinct

namespace Progress

variable {p next : Progress} {path : List String}

theorem distinct_start : start.Distinct := ⟨Draft.Entries.distinct_nil, Draft.Entries.distinct_nil⟩

theorem Distinct.close (distinct : p.Distinct) {entries : Draft.Entries}
    (closed : p.close = some entries) : entries.Distinct := by
  rw [Progress.close] at closed
  split at closed
  · cases closed
    exact distinct.current
  · rename_i key _
    obtain ⟨⟨_, _⟩, changed, rfl⟩ := Option.map_eq_some_iff.mp closed
    refine distinct.root.of_within changed ?_
    intro madeByDots entries next result held changed
    dsimp only at changed
    split at changed
    · cases changed
      refine ⟨held.put key (Draft.distinct_tables_iff.mpr ?_), trivial⟩
      simpa using distinct.current
    · rename_i elements _ found _
      cases changed
      have before := Draft.distinct_tables_iff.mp (held.of_lookup found)
      refine ⟨held.put key (Draft.distinct_tables_iff.mpr ?_), trivial⟩
      intro element member
      rcases List.mem_append.mp member with old | new
      · exact before element old
      · exact List.mem_singleton.mp new ▸ distinct.current
    · cases changed
      exact ⟨held.put key (Draft.distinct_table_iff.mpr distinct.current), trivial⟩
    · cases changed
      exact ⟨held.put key (Draft.distinct_table_iff.mpr distinct.current), trivial⟩
    · cases changed

theorem Distinct.openTable (distinct : p.Distinct) (opened : p.openTable path = some next) :
    next.Distinct := by
  simp only [Progress.openTable, Option.bind_eq_bind, Option.pure_def] at opened
  obtain ⟨root, closed, opened⟩ := Option.bind_eq_some_iff.mp opened
  obtain ⟨key, _, opened⟩ := Option.bind_eq_some_iff.mp opened
  obtain ⟨⟨grown, current⟩, changed, same⟩ := Option.bind_eq_some_iff.mp opened
  cases same
  suffices kept : Draft.Entries.Distinct grown ∧ Draft.Entries.Distinct current from
    ⟨kept.1, kept.2⟩
  refine Draft.Keeps.within ?_ _ _ _ _ _ _ (distinct.close closed) changed
  intro madeByDots entries next result held changed
  dsimp only at changed
  split at changed
  · cases changed
    exact ⟨held, Draft.Entries.distinct_nil⟩
  · rename_i child found
    cases changed
    exact ⟨held.filter _, Draft.distinct_table_iff.mp (held.of_lookup found)⟩
  · cases changed

theorem Distinct.openElement (distinct : p.Distinct) (opened : p.openElement path = some next) :
    next.Distinct := by
  simp only [Progress.openElement, Option.bind_eq_bind, Option.pure_def] at opened
  obtain ⟨root, closed, opened⟩ := Option.bind_eq_some_iff.mp opened
  obtain ⟨key, _, opened⟩ := Option.bind_eq_some_iff.mp opened
  obtain ⟨⟨_, _⟩, changed, same⟩ := Option.bind_eq_some_iff.mp opened
  cases same
  refine ⟨?_, Draft.Entries.distinct_nil⟩
  refine (distinct.close closed).of_within changed ?_
  intro madeByDots entries next result held changed
  dsimp only at changed
  split at changed
  · cases changed
    exact ⟨held, trivial⟩
  · cases changed
    exact ⟨held, trivial⟩
  · cases changed

theorem Distinct.define (distinct : p.Distinct) {value : Node} (sound : value.Distinct)
    (defined : p.define path value = some next) : next.Distinct := by
  simp only [Progress.define, Option.bind_eq_bind, Option.pure_def] at defined
  obtain ⟨key, _, defined⟩ := Option.bind_eq_some_iff.mp defined
  obtain ⟨current, changed, same⟩ := Option.bind_eq_some_iff.mp defined
  cases same
  exact ⟨distinct.root, distinct.current.define sound changed⟩

end Progress

theorem distinct_of_readLines? {fuel : Nat} {p next : Progress} {s : List Char}
    (distinct : p.Distinct) (read : readLines? fuel p s = some next) : next.Distinct := by
  induction fuel generalizing p s with
  | zero => cases read
  | succ fuel ih =>
    rw [readLines?] at read
    split at read
    · cases read
      exact distinct
    · exact ih distinct read
    · exact ih distinct read
    · obtain ⟨_, _, read⟩ := Option.bind_eq_some_iff.mp read
      exact ih distinct read
    · obtain ⟨_, _, read⟩ := Option.bind_eq_some_iff.mp read
      obtain ⟨_, opened, read⟩ := Option.bind_eq_some_iff.mp read
      exact ih (distinct.openElement opened) read
    · obtain ⟨_, _, read⟩ := Option.bind_eq_some_iff.mp read
      obtain ⟨_, opened, read⟩ := Option.bind_eq_some_iff.mp read
      exact ih (distinct.openTable opened) read
    · obtain ⟨_, found, read⟩ := Option.bind_eq_some_iff.mp read
      obtain ⟨_, defined, read⟩ := Option.bind_eq_some_iff.mp read
      obtain ⟨_, _, read⟩ := Option.bind_eq_some_iff.mp read
      have sound := distinct_of_readDefinition? (readsDistinct_readValue? 79) found
      exact ih (distinct.define sound defined) read

/-- A document that is read holds no key twice in any of its tables. -/
theorem distinct_of_read? {text : String} {document : Table}
    (read : read? text = some document) : (Node.table document).Distinct := by
  simp only [read?, Option.bind_eq_bind, Option.pure_def] at read
  obtain ⟨p, lines, read⟩ := Option.bind_eq_some_iff.mp read
  obtain ⟨entries, closed, same⟩ := Option.bind_eq_some_iff.mp read
  cases same
  exact ((distinct_of_readLines? Progress.distinct_start lines).close closed).finish

end AssetBroker.Toml
