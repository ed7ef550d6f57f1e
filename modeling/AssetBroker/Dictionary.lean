/-! String-keyed dictionaries and sets of names, each kept in strictly ascending
code-point order. The order is part of the type, so two dictionaries with the
same lookups are equal whatever history built them. -/
namespace AssetBroker

theorem text_eq_of_neither_lt {a b : String} (below : ¬a < b) (above : ¬b < a) : a = b :=
  String.le_antisymm (String.not_lt.mp above) (String.not_lt.mp below)

/-- A finite map from names to values, listed in ascending order of the names. -/
structure Dictionary (α : Type) where
  entries : List (String × α)
  ascending : entries.Pairwise fun a b => a.1 < b.1
deriving DecidableEq

namespace Dictionary

variable {α β : Type}

def empty : Dictionary α := ⟨[], .nil⟩

instance : EmptyCollection (Dictionary α) := ⟨empty⟩

instance : Inhabited (Dictionary α) := ⟨empty⟩

/-- Dictionaries agree when they list the same names with agreeing values. -/
instance [BEq α] : BEq (Dictionary α) := ⟨fun a b => a.entries == b.entries⟩

/-- Puts one entry into ascending entries, in place of an entry of that name. -/
def insertEntry (key : String) (value : α) : List (String × α) → List (String × α)
  | [] => [(key, value)]
  | entry :: rest =>
    if key < entry.1 then (key, value) :: entry :: rest
    else if entry.1 < key then entry :: insertEntry key value rest
    else (key, value) :: rest

theorem mem_insertEntry {key : String} {value : α} {entry : String × α}
    {entries : List (String × α)} (member : entry ∈ insertEntry key value entries) :
    entry = (key, value) ∨ entry ∈ entries := by
  induction entries with
  | nil => simpa [insertEntry] using member
  | cons first rest ih =>
    rw [insertEntry] at member
    split at member
    · simpa using member
    · split at member
      · rcases List.mem_cons.mp member with same | later
        · simp [same]
        · rcases ih later with same | older
          · exact .inl same
          · simp [older]
      · rcases List.mem_cons.mp member with same | later
        · exact .inl same
        · simp [later]

theorem insertEntry_ascending (key : String) (value : α) {entries : List (String × α)}
    (ascending : entries.Pairwise fun a b => a.1 < b.1) :
    (insertEntry key value entries).Pairwise fun a b => a.1 < b.1 := by
  induction entries with
  | nil => simp [insertEntry]
  | cons first rest ih =>
    obtain ⟨head, tail⟩ := List.pairwise_cons.mp ascending
    rw [insertEntry]
    split
    · rename_i before
      refine List.pairwise_cons.mpr ⟨fun entry member => ?_, ascending⟩
      rcases List.mem_cons.mp member with same | later
      · exact same ▸ before
      · exact String.lt_trans before (head entry later)
    · split
      · rename_i after
        refine List.pairwise_cons.mpr ⟨fun entry member => ?_, ih tail⟩
        rcases mem_insertEntry member with same | older
        · exact same ▸ after
        · exact head entry older
      · rename_i notBefore notAfter
        have same : first.1 = key := text_eq_of_neither_lt notAfter notBefore
        exact List.pairwise_cons.mpr ⟨fun entry member => same ▸ head entry member, tail⟩

def insert (d : Dictionary α) (key : String) (value : α) : Dictionary α :=
  ⟨insertEntry key value d.entries, insertEntry_ascending key value d.ascending⟩

def erase (d : Dictionary α) (key : String) : Dictionary α :=
  ⟨d.entries.filter fun entry => entry.1 != key, d.ascending.filter _⟩

/-- Later entries of the list replace earlier ones of the same name. -/
def ofList (entries : List (String × α)) : Dictionary α :=
  entries.foldl (fun d entry => d.insert entry.1 entry.2) empty

/-- All entries of `upper`, and those of `d` whose names `upper` does not hold. -/
def override (d upper : Dictionary α) : Dictionary α :=
  upper.entries.foldl (fun d entry => d.insert entry.1 entry.2) d

def get? (d : Dictionary α) (key : String) : Option α := d.entries.lookup key

def contains (d : Dictionary α) (key : String) : Bool := (d.get? key).isSome

def keys (d : Dictionary α) : List String := d.entries.map Prod.fst

def size (d : Dictionary α) : Nat := d.entries.length

def isEmpty (d : Dictionary α) : Bool := d.entries.isEmpty

theorem keys_ascending (d : Dictionary α) : d.keys.Pairwise (· < ·) :=
  List.pairwise_map.mpr d.ascending

def map (f : α → β) (d : Dictionary α) : Dictionary β :=
  ⟨d.entries.map fun entry => (entry.1, f entry.2), List.pairwise_map.mpr d.ascending⟩

@[simp] theorem get?_empty (key : String) : (empty : Dictionary α).get? key = none := rfl

theorem lookup_cons_eq_ite {κ : Type} [BEq κ] [LawfulBEq κ] [DecidableEq κ] (name key : κ)
    (value : α) (rest : List (κ × α)) :
    ((key, value) :: rest).lookup name = if name = key then some value else rest.lookup name := by
  by_cases same : name = key
  · simp [same]
  · simp [List.lookup_cons, beq_false_of_ne same, same]

theorem lookup_insertEntry (key : String) (value : α) (entries : List (String × α))
    (name : String) :
    (insertEntry key value entries).lookup name =
      if name = key then some value else entries.lookup name := by
  induction entries with
  | nil => simp [insertEntry, lookup_cons_eq_ite]
  | cons first rest ih =>
    obtain ⟨held, old⟩ := first
    rw [insertEntry]
    split
    · rw [lookup_cons_eq_ite]
    · split
      · rename_i after
        have other : held ≠ key := fun eq => String.lt_irrefl key (eq ▸ after)
        rw [lookup_cons_eq_ite, lookup_cons_eq_ite, ih]
        by_cases same : name = held
        · simp [same, other]
        · simp [same]
      · rename_i notBefore notAfter
        have eq : held = key := text_eq_of_neither_lt notAfter notBefore
        rw [lookup_cons_eq_ite, lookup_cons_eq_ite, eq]
        by_cases same : name = key <;> simp [same]

/-- A stored entry is found again, and no other lookup changes. -/
theorem get?_insert (d : Dictionary α) (key name : String) (value : α) :
    (d.insert key value).get? name = if name = key then some value else d.get? name :=
  lookup_insertEntry key value d.entries name

theorem lookup_erased {κ : Type} [BEq κ] [LawfulBEq κ] [DecidableEq κ] (key : κ)
    (entries : List (κ × α)) (name : κ) :
    (entries.filter fun entry => entry.1 != key).lookup name =
      if name = key then none else entries.lookup name := by
  induction entries with
  | nil => simp
  | cons first rest ih =>
    obtain ⟨held, value⟩ := first
    rw [lookup_cons_eq_ite, List.filter_cons]
    by_cases erased : held = key
    · simp only [erased, bne_self_eq_false, Bool.false_eq_true, ↓reduceIte, ih]
      by_cases same : name = key <;> simp [same]
    · rw [if_pos (by simpa using erased), lookup_cons_eq_ite, ih]
      by_cases same : name = held
      · simp [same, erased]
      · simp [same]

/-- An erased name is no longer found, and no other lookup changes. -/
theorem get?_erase (d : Dictionary α) (key name : String) :
    (d.erase key).get? name = if name = key then none else d.get? name :=
  lookup_erased key d.entries name

end Dictionary

/-- A finite set of names, listed in ascending order. -/
structure NameSet where
  names : List String
  ascending : names.Pairwise (· < ·)
deriving DecidableEq

namespace NameSet

def empty : NameSet := ⟨[], .nil⟩

instance : EmptyCollection NameSet := ⟨empty⟩

instance : Inhabited NameSet := ⟨empty⟩

instance : Membership String NameSet := ⟨fun s name => name ∈ s.names⟩

def isEmpty (s : NameSet) : Bool := s.names.isEmpty

end NameSet

/-- The names that a dictionary holds. -/
def Dictionary.nameSet {α : Type} (d : Dictionary α) : NameSet := ⟨d.keys, d.keys_ascending⟩

/-- A list of names in any order, repeats allowed, as a set. -/
def NameSet.ofList (names : List String) : NameSet :=
  (Dictionary.ofList (names.map fun name => (name, ()))).nameSet

end AssetBroker
