import Mathlib.Data.List.Nodup
import SignalCatalog.OrderedMap

/-!
# Entries by key

What lookup, insertion, erasure and collection do to a list of pairs. Pairs with distinct keys are
collected as they stand, and the entry of a key is changed between the entries before and behind it.
-/

namespace SignalCatalog

universe u v

namespace Entries

variable {α : Type u} {key k : String} {value : α} {entries : List (String × α)}

@[simp] theorem keys_nil : keys ([] : List (String × α)) = [] := rfl

@[simp] theorem keys_cons (entry : String × α) (rest : List (String × α)) :
    keys (entry :: rest) = entry.1 :: keys rest := rfl

@[simp] theorem keys_append (front back : List (String × α)) :
    keys (front ++ back) = keys front ++ keys back := List.map_append

theorem mem_keys_of_mem {entry : String × α} (h : entry ∈ entries) : entry.1 ∈ keys entries :=
  List.mem_map_of_mem h

theorem get?_eq_none_iff : get? key entries = none ↔ key ∉ keys entries := by
  induction entries with
  | nil => simp [get?]
  | cons entry rest ih =>
    by_cases h : entry.1 = key
    · simp [get?, h]
    · simp [get?, h, ih, Ne.symm h]

theorem get?_append (front back : List (String × α)) :
    get? key (front ++ back) = (get? key front).or (get? key back) := by
  induction front with
  | nil => rfl
  | cons entry rest ih =>
    by_cases h : entry.1 = key
    · simp [get?, h]
    · simp [get?, h, ih]

theorem get?_map {β : Type v} (f : String → α → β) (entries : List (String × α)) :
    get? k (entries.map fun entry => (entry.1, f entry.1 entry.2)) = (get? k entries).map (f k) := by
  induction entries with
  | nil => rfl
  | cons entry rest ih =>
    by_cases h : entry.1 = k
    · simp [get?, h]
    · simp [get?, h, ih]

theorem get?_filter {p : String → Bool} (h : p key = true) (entries : List (String × α)) :
    get? key (entries.filter fun entry => p entry.1) = get? key entries := by
  induction entries with
  | nil => rfl
  | cons entry rest ih =>
    by_cases hk : entry.1 = key
    · simp [get?, hk, h]
    · by_cases hp : p entry.1 = true <;> simp [get?, hk, hp, ih]

theorem mem_of_get? (h : get? key entries = some value) : (key, value) ∈ entries := by
  induction entries with
  | nil => simp [get?] at h
  | cons entry rest ih =>
    obtain ⟨k, old⟩ := entry
    by_cases hk : k = key
    · simp only [get?, hk, if_true, Option.some.injEq] at h
      simp [hk, h]
    · simp only [get?, hk, if_false] at h
      exact List.mem_cons_of_mem _ (ih h)

theorem get?_of_mem (hn : (keys entries).Nodup) (h : (key, value) ∈ entries) :
    get? key entries = some value := by
  induction entries with
  | nil => simp at h
  | cons entry rest ih =>
    obtain ⟨hfresh, hrest⟩ := List.nodup_cons.mp hn
    rcases List.mem_cons.mp h with rfl | h
    · simp [get?]
    · have hk : entry.1 ≠ key := by
        intro he
        rw [he] at hfresh
        exact hfresh (mem_keys_of_mem h)
      simp only [get?, hk, if_false]
      exact ih hrest h

/-- Distinct keys have one entry each. -/
theorem eq_of_mem (hn : (keys entries).Nodup) {first second : String × α} (hf : first ∈ entries)
    (hs : second ∈ entries) (hkey : first.1 = second.1) : first = second := by
  have hfirst := get?_of_mem hn hf
  have hsecond := get?_of_mem hn hs
  rw [hkey, hsecond, Option.some.injEq] at hfirst
  exact Prod.ext hkey hfirst.symm

theorem insert_of_notMem (h : key ∉ keys entries) :
    insert key value entries = entries ++ [(key, value)] := by
  induction entries with
  | nil => rfl
  | cons entry rest ih =>
    simp only [keys_cons, List.mem_cons, not_or] at h
    simp [insert, Ne.symm h.1, ih h.2]

theorem keys_insert_of_mem (h : key ∈ keys entries) :
    keys (insert key value entries) = keys entries := by
  induction entries with
  | nil => cases h
  | cons entry rest ih =>
    by_cases hkey : entry.1 = key
    · simp [insert, hkey]
    · have hrest : key ∈ keys rest := by
        rw [keys_cons, List.mem_cons] at h
        exact h.resolve_left (Ne.symm hkey)
      simp [insert, hkey, ih hrest]

theorem insert_append_of_notMem {front : List (String × α)} (h : key ∉ keys front)
    (back : List (String × α)) :
    insert key value (front ++ back) = front ++ insert key value back := by
  induction front with
  | nil => rfl
  | cons entry rest ih =>
    simp only [keys_cons, List.mem_cons, not_or] at h
    simp [insert, Ne.symm h.1, ih h.2]

/-- Pairs with distinct keys, none of them among the collected ones, are appended as they stand. -/
theorem foldl_insert_of_nodup (pairs : List (String × α)) :
    ∀ entries : List (String × α), (keys (entries ++ pairs)).Nodup →
      pairs.foldl (fun entries pair => insert pair.1 pair.2 entries) entries =
        entries ++ pairs := by
  induction pairs with
  | nil => simp
  | cons pair rest ih =>
    intro entries hn
    have hfresh : pair.1 ∉ keys entries := by
      rw [keys_append] at hn
      intro hm
      exact (List.disjoint_of_nodup_append hn) hm (by simp)
    rw [List.foldl_cons, insert_of_notMem hfresh, ih _ (by simpa using hn)]
    simp

theorem ofPairs_of_nodup {pairs : List (String × α)} (h : (keys pairs).Nodup) :
    ofPairs pairs = pairs := by
  simpa [ofPairs] using foldl_insert_of_nodup pairs [] (by simpa using h)

theorem get?_insert (k : String) : get? k (insert key value entries) =
    if k = key then some value else get? k entries := by
  induction entries with
  | nil => simp [insert, get?, eq_comm]
  | cons entry rest ih =>
    obtain ⟨first, old⟩ := entry
    by_cases hfirst : first = key
    · by_cases hk : k = key
      · simp [insert, get?, hfirst, hk]
      · simp [insert, get?, hfirst, hk, Ne.symm hk]
    · by_cases hk : first = k
      · have hne : k ≠ key := fun he => hfirst (hk.trans he)
        simp [insert, get?, hk, hne]
      · simp [insert, get?, hfirst, hk, ih]

/-- Inserting what is there changes nothing. -/
theorem insert_of_get? (h : get? key entries = some value) : insert key value entries = entries := by
  induction entries with
  | nil => simp [get?] at h
  | cons entry rest ih =>
    obtain ⟨first, old⟩ := entry
    by_cases hfirst : first = key
    · simp only [get?, hfirst, if_true, Option.some.injEq] at h
      simp [insert, hfirst, h]
    · simp only [get?, hfirst, if_false] at h
      simp [insert, hfirst, ih h]

theorem mem_insert {entry : String × α} (h : entry ∈ insert key value entries) :
    entry = (key, value) ∨ entry ∈ entries := by
  induction entries with
  | nil => exact Or.inl (by simpa [insert] using h)
  | cons first rest ih =>
    by_cases hk : first.1 = key
    · simp only [insert, hk, if_true, List.mem_cons] at h
      rcases h with h | h
      · exact Or.inl h
      · exact Or.inr (List.mem_cons_of_mem first h)
    · simp only [insert, hk, if_false, List.mem_cons] at h
      rcases h with h | h
      · exact Or.inr (h ▸ List.mem_cons_self)
      · exact (ih h).imp id (List.mem_cons_of_mem first)

theorem mem_ofPairs {entry : String × α} {pairs : List (String × α)}
    (h : entry ∈ ofPairs pairs) : entry ∈ pairs := by
  have hstep : ∀ (pairs entries : List (String × α)),
      entry ∈ pairs.foldl (fun entries pair => insert pair.1 pair.2 entries) entries →
      entry ∈ entries ∨ entry ∈ pairs := by
    intro pairs
    induction pairs with
    | nil => exact fun _ h => Or.inl h
    | cons pair rest ih =>
      intro entries h
      rcases ih _ h with h | h
      · rcases mem_insert h with rfl | h
        · exact Or.inr List.mem_cons_self
        · exact Or.inl h
      · exact Or.inr (List.mem_cons_of_mem pair h)
  exact (hstep pairs [] h).resolve_left (by simp)

theorem mem_keys_ofPairs {pairs : List (String × α)} : k ∈ keys (ofPairs pairs) ↔ k ∈ keys pairs := by
  have hstep : ∀ (pairs entries : List (String × α)),
      k ∈ keys (pairs.foldl (fun entries pair => insert pair.1 pair.2 entries) entries) ↔
        k ∈ keys entries ∨ k ∈ keys pairs := by
    intro pairs
    induction pairs with
    | nil => simp
    | cons pair rest ih =>
      intro entries
      rw [List.foldl_cons, ih, mem_keys_insert, keys_cons, List.mem_cons]
      tauto
  simpa [ofPairs] using hstep pairs []

theorem mem_ofPairs_of_unique {pairs : List (String × α)} {pair : String × α} (h : pair ∈ pairs)
    (hunique : ∀ other ∈ pairs, other.1 = pair.1 → other = pair) :
    pair ∈ ofPairs pairs := by
  have hkey : pair.1 ∈ keys (ofPairs pairs) := mem_keys_ofPairs.mpr (mem_keys_of_mem h)
  obtain ⟨other, ho, hsame⟩ := List.mem_map.mp hkey
  rwa [hunique other (mem_ofPairs ho) hsame] at ho

/-- Of a repeated key the last value is found. -/
theorem get?_ofPairs (pairs : List (String × α)) : get? k (ofPairs pairs) = get? k pairs.reverse := by
  have hstep : ∀ pairs entries : List (String × α),
      get? k (pairs.foldl (fun entries pair => insert pair.1 pair.2 entries) entries) =
        (get? k pairs.reverse).or (get? k entries) := by
    intro pairs
    induction pairs with
    | nil => exact fun _ => rfl
    | cons pair rest ih =>
      intro entries
      rw [List.foldl_cons, ih, get?_insert, List.reverse_cons, get?_append, Option.or_assoc]
      by_cases hk : k = pair.1
      · simp [get?, hk]
      · simp [get?, hk, Ne.symm hk]
  simpa [ofPairs, get?] using hstep pairs []

/-- Pairs whose values depend on their keys alone are found under every key. -/
theorem get?_ofPairs_map {keyOf : String → String} {valueOf : String → α} {items : List String}
    {item : String} (h : item ∈ items) :
    get? (keyOf item) (ofPairs (items.map fun item => (keyOf item, valueOf (keyOf item)))) =
      some (valueOf (keyOf item)) := by
  have hkey : keyOf item ∈ keys (ofPairs (items.map fun item => (keyOf item, valueOf (keyOf item)))) :=
    mem_keys_ofPairs.mpr (List.mem_map.mpr ⟨_, List.mem_map_of_mem h, rfl⟩)
  cases hget : get? (keyOf item) (ofPairs (items.map fun item => (keyOf item, valueOf (keyOf item)))) with
  | none => exact False.elim (get?_eq_none_iff.mp hget hkey)
  | some value =>
    obtain ⟨other, _, ho⟩ := List.mem_map.mp (mem_ofPairs (mem_of_get? hget))
    rw [Prod.mk.injEq] at ho
    rw [← ho.2, ho.1]

theorem mem_erase {entry : String × α} (h : entry ∈ erase key entries) : entry ∈ entries := by
  induction entries with
  | nil => simp [erase] at h
  | cons first rest ih =>
    by_cases hk : first.1 = key
    · simp only [erase, hk, if_true] at h
      exact List.mem_cons_of_mem first h
    · simp only [erase, hk, if_false, List.mem_cons] at h
      rcases h with rfl | h
      · exact List.mem_cons_self
      · exact List.mem_cons_of_mem first (ih h)

theorem get?_erase (hn : (keys entries).Nodup) (k : String) :
    get? k (erase key entries) = if k = key then none else get? k entries := by
  induction entries with
  | nil => simp [erase, get?]
  | cons entry rest ih =>
    obtain ⟨first, old⟩ := entry
    obtain ⟨hfresh, hrest⟩ := List.nodup_cons.mp hn
    by_cases hfirst : first = key
    · subst hfirst
      by_cases hk : k = first
      · subst hk
        simpa [erase] using get?_eq_none_iff.mpr hfresh
      · simp [erase, get?, hk, Ne.symm hk]
    · by_cases hk : first = k
      · have hne : k ≠ key := fun he => hfirst (hk.trans he)
        simp [erase, get?, hk, hne]
      · simp [erase, get?, hfirst, hk, ih hrest]

theorem mem_rekey {newKey : String} {change : α → α} {entry : String × α}
    (h : entry ∈ rekey key newKey change entries) :
    entry ∈ entries ∨ ∃ old, (key, old) ∈ entries ∧ entry = (newKey, change old) := by
  induction entries with
  | nil => simp [rekey] at h
  | cons first rest ih =>
    obtain ⟨k, old⟩ := first
    by_cases hk : k = key
    · simp only [rekey, hk, if_true, List.mem_cons] at h
      rcases h with h | h
      · exact Or.inr ⟨old, by simp [hk], h⟩
      · exact Or.inl (List.mem_cons_of_mem _ h)
    · simp only [rekey, hk, if_false, List.mem_cons] at h
      rcases h with h | h
      · exact Or.inl (h ▸ List.mem_cons_self)
      · rcases ih h with h | ⟨old', hm, he⟩
        · exact Or.inl (List.mem_cons_of_mem _ h)
        · exact Or.inr ⟨old', List.mem_cons_of_mem _ hm, he⟩

/-! An entry whose key does not stand before it is the one that is changed or erased. -/

theorem rekey_append {newKey : String} {front : List (String × α)} (h : key ∉ keys front)
    (change : α → α) (back : List (String × α)) :
    rekey key newKey change (front ++ (key, value) :: back) =
      front ++ (newKey, change value) :: back := by
  induction front with
  | nil => simp [rekey]
  | cons entry rest ih =>
    rw [keys_cons, List.mem_cons, not_or] at h
    simp [rekey, Ne.symm h.1, ih h.2]

theorem erase_append {front : List (String × α)} (h : key ∉ keys front)
    (back : List (String × α)) : erase key (front ++ (key, value) :: back) = front ++ back := by
  induction front with
  | nil => simp [erase]
  | cons entry rest ih =>
    rw [keys_cons, List.mem_cons, not_or] at h
    simp [erase, Ne.symm h.1, ih h.2]

/-- Of distinct keys an erased one leaves the entries of all others. -/
theorem erase_eq_filter (h : (keys entries).Nodup) :
    erase key entries = entries.filter fun entry => entry.1 ≠ key := by
  induction entries with
  | nil => rfl
  | cons entry rest ih =>
    obtain ⟨hfresh, hrest⟩ := List.nodup_cons.mp h
    by_cases hkey : entry.1 = key
    · have hall : (rest.filter fun entry => entry.1 ≠ key) = rest := by
        apply List.filter_eq_self.mpr
        intro other hmem
        have hne : other.1 ≠ key := fun hsame => hfresh (hkey ▸ hsame ▸ mem_keys_of_mem hmem)
        simp [hne]
      rw [List.filter_cons_of_neg (by simp [hkey]), hall]
      simp [erase, hkey]
    · rw [List.filter_cons_of_pos (by simp [hkey]), ← ih hrest]
      simp [erase, hkey]

end Entries

namespace OrderedMap

variable {α : Type u}

@[simp] theorem entries_empty : (empty : OrderedMap α).entries = [] := rfl

@[simp] theorem entries_ofPairs (pairs : List (String × α)) :
    (ofPairs pairs).entries = Entries.ofPairs pairs := rfl

theorem get?_insert (map : OrderedMap α) (key : String) (value : α) (k : String) :
    (map.insert key value).get? k = if k = key then some value else map.get? k :=
  Entries.get?_insert k

theorem get?_erase (map : OrderedMap α) (key k : String) :
    (map.erase key).get? k = if k = key then none else map.get? k :=
  Entries.get?_erase map.nodup k

theorem get?_mapValues {β : Type v} (f : String → α → β) (map : OrderedMap α) (k : String) :
    (map.mapValues f).get? k = (map.get? k).map (f k) :=
  Entries.get?_map f map.entries

/-- The entries of a map are collected to the map. -/
@[simp] theorem ofPairs_entries (map : OrderedMap α) : ofPairs map.entries = map :=
  ext (Entries.ofPairs_of_nodup map.nodup)

theorem ofPairs_map {β : Type u} (f : String → α → β) (map : OrderedMap α) :
    ofPairs (map.entries.map fun entry => (entry.1, f entry.1 entry.2)) = map.mapValues f :=
  ofPairs_entries (map.mapValues f)

@[simp] theorem keys_mapValues {β : Type v} (f : String → α → β) (map : OrderedMap α) :
    (map.mapValues f).keys = map.keys :=
  Entries.keys_map f map.entries

section Splits

variable {map : OrderedMap α} {key newKey : String} {value newValue : α}
  {front back : List (String × α)}

theorem contains_eq_false_iff : map.contains key = false ↔ key ∉ map.keys := by
  rw [contains, Option.isSome_eq_false_iff, Option.isNone_iff_eq_none]
  exact Entries.get?_eq_none_iff

theorem contains_iff : map.contains key = true ↔ key ∈ map.keys := by
  rw [← Bool.not_eq_false, contains_eq_false_iff, not_not]

theorem erase_of_notMem (h : key ∉ map.keys) : map.erase key = map := by
  apply ext
  refine (Entries.erase_eq_filter map.nodup).trans (List.filter_eq_self.mpr fun entry hmem => ?_)
  have hne : entry.1 ≠ key := fun hsame => h (hsame ▸ Entries.mem_keys_of_mem hmem)
  simp [hne]

/-- The entry of a key with the entries before and behind it. -/
theorem exists_split (h : map.get? key = some value) :
    ∃ front back, map.entries = front ++ (key, value) :: back :=
  List.append_of_mem (Entries.mem_of_get? h)

/-- A key stands once, so that the entry that is split off is the one that is changed. -/
theorem notMem_front (h : map.entries = front ++ (key, value) :: back) :
    key ∉ Entries.keys front := by
  intro hmem
  have hnodup := map.nodup
  rw [h, Entries.keys_append] at hnodup
  exact List.disjoint_of_nodup_append hnodup hmem List.mem_cons_self

theorem entries_erase (h : map.entries = front ++ (key, value) :: back) :
    (map.erase key).entries = front ++ back := by
  simp only [erase, h]
  exact Entries.erase_append (notMem_front h) back

theorem entries_insert (h : map.entries = front ++ (key, value) :: back) :
    (map.insert key newValue).entries = front ++ (key, newValue) :: back := by
  simp only [insert, h]
  rw [Entries.insert_append_of_notMem (notMem_front h), Entries.insert, if_pos rfl]

theorem entries_rekey (h : map.entries = front ++ (key, value) :: back) (hnew : newKey ∉ map.keys)
    (change : α → α) :
    (map.rekey key newKey change).entries = front ++ (newKey, change value) :: back := by
  simp only [rekey, hnew, dif_neg, not_false_eq_true, h]
  exact Entries.rekey_append (notMem_front h) change back

end Splits

section Keys

variable {map : OrderedMap α} {key : String} {value : α} {P : String → Prop}

theorem forall_keys_insert (h : ∀ k ∈ map.keys, P k) (hkey : P key) :
    ∀ k ∈ (map.insert key value).keys, P k := by
  intro k hk
  rcases Entries.mem_keys_insert.mp hk with rfl | hk
  · exact hkey
  · exact h k hk

theorem forall_keys_erase (h : ∀ k ∈ map.keys, P k) : ∀ k ∈ (map.erase key).keys, P k :=
  fun k hk => h k ((Entries.keys_erase_sublist key map.entries).subset hk)

theorem forall_keys_rekey {newKey : String} {change : α → α} (h : ∀ k ∈ map.keys, P k)
    (hkey : P newKey) : ∀ k ∈ (map.rekey key newKey change).keys, P k := by
  intro k hk
  unfold rekey at hk
  split at hk
  · exact h k hk
  · rcases Entries.mem_keys_rekey hk with rfl | hk
    · exact hkey
    · exact h k hk

end Keys

section Forall

variable {β : Type u} {map : OrderedMap α} {key : String} {value : α} {P : α → Prop}

theorem forall_insert (h : ∀ entry ∈ map.entries, P entry.2) (hv : P value) :
    ∀ entry ∈ (map.insert key value).entries, P entry.2 := by
  intro entry he
  rcases Entries.mem_insert he with rfl | he
  · exact hv
  · exact h entry he

theorem forall_erase (h : ∀ entry ∈ map.entries, P entry.2) :
    ∀ entry ∈ (map.erase key).entries, P entry.2 :=
  fun entry he => h entry (Entries.mem_erase he)

theorem forall_rekey {newKey : String} {change : α → α} (h : ∀ entry ∈ map.entries, P entry.2)
    (hc : ∀ value, P value → P (change value)) :
    ∀ entry ∈ (map.rekey key newKey change).entries, P entry.2 := by
  intro entry he
  unfold rekey at he
  split at he
  · exact h entry he
  · rcases Entries.mem_rekey he with he | ⟨old, hold, rfl⟩
    · exact h entry he
    · exact hc old (h _ hold)

theorem forall_mapValues {f : String → α → β} {Q : β → Prop}
    (h : ∀ entry ∈ map.entries, Q (f entry.1 entry.2)) :
    ∀ entry ∈ (map.mapValues f).entries, Q entry.2 := by
  intro entry he
  obtain ⟨old, hold, rfl⟩ := List.mem_map.mp he
  exact h old hold

theorem forall_get? (h : ∀ entry ∈ map.entries, P entry.2) (hv : map.get? key = some value) :
    P value :=
  h (key, value) (Entries.mem_of_get? hv)

end Forall

end OrderedMap

end SignalCatalog
