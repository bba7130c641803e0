/-!
# Maps that keep the order of insertion

A catalog file lists cores, signals and unknown keys in an order that is kept from load to save.
`Entries` holds the operations on plain lists of pairs; `OrderedMap` is such a list whose keys are
pairwise distinct. Putting in a key that is there replaces its value where it stands, a new key goes
to the end, and erasing keeps the order of all others.
-/

namespace SignalCatalog

universe u v

namespace Entries

variable {α : Type u} {β : Type v}

def keys (entries : List (String × α)) : List String := entries.map Prod.fst

def get? (key : String) : List (String × α) → Option α
  | [] => none
  | (k, value) :: rest => if k = key then some value else get? key rest

def insert (key : String) (value : α) : List (String × α) → List (String × α)
  | [] => [(key, value)]
  | (k, old) :: rest => if k = key then (k, value) :: rest else (k, old) :: insert key value rest

def erase (key : String) : List (String × α) → List (String × α)
  | [] => []
  | (k, value) :: rest => if k = key then rest else (k, value) :: erase key rest

/-- The entries in order; of a repeated key the first place and the last value count. -/
def ofPairs (pairs : List (String × α)) : List (String × α) :=
  pairs.foldl (fun entries pair => insert pair.1 pair.2 entries) []

/-- Gives the entry of one key a new key and a new value, and leaves it where it is. -/
def rekey (key newKey : String) (change : α → α) : List (String × α) → List (String × α)
  | [] => []
  | (k, value) :: rest =>
    if k = key then (newKey, change value) :: rest else (k, value) :: rekey key newKey change rest

theorem keys_map (f : String → α → β) (entries : List (String × α)) :
    keys (entries.map fun entry => (entry.1, f entry.1 entry.2)) = keys entries := by
  simp [keys, Function.comp_def]

theorem mem_keys_insert {key k : String} {value : α} {entries : List (String × α)} :
    k ∈ keys (insert key value entries) ↔ k = key ∨ k ∈ keys entries := by
  induction entries with
  | nil => simp [insert, keys]
  | cons entry rest ih =>
    obtain ⟨k', old⟩ := entry
    by_cases h : k' = key
    · subst h
      simp [insert, keys]
    · have ih' : k ∈ List.map Prod.fst (insert key value rest) ↔
          k = key ∨ k ∈ List.map Prod.fst rest := ih
      simp only [insert, if_neg h, keys, List.map_cons, List.mem_cons, ih']
      constructor
      · rintro (h | h | h) <;> simp [h]
      · rintro (h | h | h) <;> simp [h]

theorem nodup_keys_insert {key : String} {value : α} {entries : List (String × α)}
    (h : (keys entries).Nodup) : (keys (insert key value entries)).Nodup := by
  induction entries with
  | nil => simp [insert, keys]
  | cons entry rest ih =>
    obtain ⟨k, old⟩ := entry
    have h' : k ∉ keys rest ∧ (keys rest).Nodup := by simpa [keys] using h
    by_cases hk : k = key
    · simpa [insert, hk, keys] using h
    · have : k ∉ keys (insert key value rest) := fun hmem =>
        (mem_keys_insert.1 hmem).elim hk h'.1
      simp only [insert, if_neg hk]
      exact List.nodup_cons.2 ⟨this, ih h'.2⟩

theorem keys_erase_sublist (key : String) (entries : List (String × α)) :
    (keys (erase key entries)).Sublist (keys entries) := by
  induction entries with
  | nil => simp [erase, keys]
  | cons entry rest ih =>
    obtain ⟨k, value⟩ := entry
    by_cases hk : k = key
    · simp [erase, hk, keys]
    · simpa [erase, hk, keys] using ih

theorem nodup_keys_ofPairs (pairs : List (String × α)) : (keys (ofPairs pairs)).Nodup := by
  have step : ∀ (pairs entries : List (String × α)), (keys entries).Nodup →
      (keys (pairs.foldl (fun entries pair => insert pair.1 pair.2 entries) entries)).Nodup := by
    intro pairs
    induction pairs with
    | nil => exact fun _ h => h
    | cons pair rest ih => exact fun _ h => ih _ (nodup_keys_insert h)
  exact step pairs [] (by simp [keys])

theorem mem_keys_rekey {key newKey k : String} {change : α → α} {entries : List (String × α)}
    (h : k ∈ keys (rekey key newKey change entries)) : k = newKey ∨ k ∈ keys entries := by
  induction entries with
  | nil => simp [rekey, keys] at h
  | cons entry rest ih =>
    obtain ⟨k', value⟩ := entry
    by_cases hk : k' = key
    · simp only [rekey, if_pos hk, keys, List.map_cons, List.mem_cons] at h
      rcases h with h | h
      · exact Or.inl h
      · exact Or.inr (by simp [keys, h])
    · simp only [rekey, if_neg hk, keys, List.map_cons, List.mem_cons] at h
      rcases h with h | h
      · exact Or.inr (by simp [keys, h])
      · rcases ih h with h | h
        · exact Or.inl h
        · exact Or.inr (by simp only [keys] at h; simp [keys, h])

theorem nodup_keys_rekey {key newKey : String} {change : α → α} {entries : List (String × α)}
    (h : (keys entries).Nodup) (fresh : newKey ∉ keys entries) :
    (keys (rekey key newKey change entries)).Nodup := by
  induction entries with
  | nil => simp [rekey, keys]
  | cons entry rest ih =>
    obtain ⟨k, value⟩ := entry
    have h' : k ∉ keys rest ∧ (keys rest).Nodup := by simpa [keys] using h
    have f' : newKey ≠ k ∧ newKey ∉ keys rest := by simpa [keys] using fresh
    by_cases hk : k = key
    · simp only [rekey, if_pos hk]
      exact List.nodup_cons.2 ⟨f'.2, h'.2⟩
    · simp only [rekey, if_neg hk]
      refine List.nodup_cons.2 ⟨fun hmem => ?_, ih h'.2 f'.2⟩
      rcases mem_keys_rekey hmem with h | h
      · exact f'.1 h.symm
      · exact h'.1 h

end Entries

/-- A list of pairs with pairwise distinct keys. -/
structure OrderedMap (α : Type u) where
  entries : List (String × α)
  nodup : (Entries.keys entries).Nodup
deriving DecidableEq

namespace OrderedMap

variable {α : Type u} {β : Type v}

@[ext] theorem ext {a b : OrderedMap α} (h : a.entries = b.entries) : a = b := by
  cases a; cases b; cases h; rfl

def empty : OrderedMap α := ⟨[], by simp [Entries.keys]⟩

instance : Inhabited (OrderedMap α) := ⟨empty⟩

def isEmpty (map : OrderedMap α) : Bool := map.entries.isEmpty

def size (map : OrderedMap α) : Nat := map.entries.length

def keys (map : OrderedMap α) : List String := Entries.keys map.entries

def values (map : OrderedMap α) : List α := map.entries.map Prod.snd

def get? (map : OrderedMap α) (key : String) : Option α := Entries.get? key map.entries

def contains (map : OrderedMap α) (key : String) : Bool := (map.get? key).isSome

def insert (map : OrderedMap α) (key : String) (value : α) : OrderedMap α :=
  ⟨Entries.insert key value map.entries, Entries.nodup_keys_insert map.nodup⟩

def erase (map : OrderedMap α) (key : String) : OrderedMap α :=
  ⟨Entries.erase key map.entries, (Entries.keys_erase_sublist key map.entries).nodup map.nodup⟩

/-- Of a repeated key the first place and the last value count. -/
def ofPairs (pairs : List (String × α)) : OrderedMap α :=
  ⟨Entries.ofPairs pairs, Entries.nodup_keys_ofPairs pairs⟩

/-- Changes the values and keeps the keys. -/
def mapValues (f : String → α → β) (map : OrderedMap α) : OrderedMap β :=
  ⟨map.entries.map fun entry => (entry.1, f entry.1 entry.2), by
    rw [Entries.keys_map]; exact map.nodup⟩

/-- Gives one entry a new key and a changed value in its place; nothing happens if the new key is
taken. -/
def rekey (map : OrderedMap α) (key newKey : String) (change : α → α) : OrderedMap α :=
  if fresh : newKey ∈ map.keys then map
  else ⟨Entries.rekey key newKey change map.entries, Entries.nodup_keys_rekey map.nodup fresh⟩

end OrderedMap

end SignalCatalog
