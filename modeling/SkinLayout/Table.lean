/-!
# Tables

A finite map as a list of pairs with distinct keys.  Nothing depends on the order
of the pairs; a table is known by its lookups, and each operation has one lemma
that says what it does to them.
-/
namespace SkinLayout

structure Table (κ α : Type) where
  entries : List (κ × α)
  nodup : (entries.map Prod.fst).Nodup

namespace Table

variable {κ α : Type}

def empty : Table κ α := ⟨[], List.nodup_nil⟩

instance : Inhabited (Table κ α) := ⟨empty⟩

def keys (t : Table κ α) : List κ := t.entries.map Prod.fst

def size (t : Table κ α) : Nat := t.entries.length

/-! ## Operations -/

def lookup [DecidableEq κ] (k : κ) : List (κ × α) → Option α
  | [] => none
  | (k', a) :: l => if k = k' then some a else lookup k l

def get? [DecidableEq κ] (t : Table κ α) (k : κ) : Option α := lookup k t.entries

def contains [DecidableEq κ] (t : Table κ α) (k : κ) : Bool := (t.get? k).isSome

/-- Keeps the pairs that pass the test. -/
def filter (t : Table κ α) (p : κ → α → Bool) : Table κ α :=
  ⟨t.entries.filter fun e => p e.1 e.2, t.nodup.sublist (List.filter_sublist.map _)⟩

def erase [DecidableEq κ] (t : Table κ α) (k : κ) : Table κ α := t.filter fun k' _ => k' ≠ k

theorem not_mem_keys_erase [DecidableEq κ] (t : Table κ α) (k : κ) : k ∉ (t.erase k).keys := by
  simp [keys, erase, filter]

/-- Sets the value of a key, in place of an older one if there is one. -/
def insert [DecidableEq κ] (t : Table κ α) (k : κ) (a : α) : Table κ α :=
  ⟨(k, a) :: (t.erase k).entries, List.nodup_cons.2 ⟨t.not_mem_keys_erase k, (t.erase k).nodup⟩⟩

/-- Changes the value of a key that is there. -/
def modify [DecidableEq κ] (t : Table κ α) (k : κ) (f : α → α) : Table κ α :=
  match t.get? k with
  | none => t
  | some a => t.insert k (f a)

/-- The table of a list of pairs; of two pairs with one key the later counts. -/
def ofList [DecidableEq κ] (l : List (κ × α)) : Table κ α :=
  l.foldl (fun t e => t.insert e.1 e.2) empty

/-! ## Lookups -/

section Lookups

variable [DecidableEq κ]

@[simp] theorem get?_empty (k : κ) : (empty : Table κ α).get? k = none := rfl

theorem mem_of_lookup {k : κ} {a : α} : ∀ {l : List (κ × α)}, lookup k l = some a → (k, a) ∈ l
  | [], h => by simp [lookup] at h
  | (k', b) :: l, h => by
    unfold lookup at h
    split at h
    · cases h; subst k'; simp
    · exact List.mem_cons_of_mem _ (mem_of_lookup h)

theorem lookup_of_mem {k : κ} {a : α} : ∀ {l : List (κ × α)}, (l.map Prod.fst).Nodup →
    (k, a) ∈ l → lookup k l = some a
  | [], _, h => by simp at h
  | (k', b) :: l, hnd, h => by
    rw [List.map_cons, List.nodup_cons] at hnd
    unfold lookup
    rcases List.mem_cons.1 h with h | h
    · cases h; simp
    · have hne : k ≠ k' := fun he => hnd.1 (he ▸ List.mem_map.2 ⟨(k, a), h, rfl⟩)
      rw [if_neg hne]
      exact lookup_of_mem hnd.2 h

/-- A lookup finds exactly the pairs of the table. -/
theorem get?_eq_some_iff {t : Table κ α} {k : κ} {a : α} :
    t.get? k = some a ↔ (k, a) ∈ t.entries :=
  ⟨mem_of_lookup, lookup_of_mem t.nodup⟩

theorem get?_filter (t : Table κ α) (p : κ → α → Bool) (k : κ) :
    (t.filter p).get? k = (t.get? k).filter (p k) := by
  apply Option.ext
  intro a
  rw [get?_eq_some_iff, Option.filter_eq_some_iff, get?_eq_some_iff]
  simp [filter]

theorem get?_erase (t : Table κ α) (k j : κ) :
    (t.erase k).get? j = if j = k then none else t.get? j := by
  rw [erase, get?_filter]
  by_cases h : j = k
  · cases t.get? j <;> simp [h]
  · cases t.get? j <;> simp [h]

theorem get?_insert (t : Table κ α) (k j : κ) (a : α) :
    (t.insert k a).get? j = if j = k then some a else t.get? j := by
  show lookup j ((k, a) :: (t.erase k).entries) = _
  unfold lookup
  split
  · rfl
  · rename_i h
    show (t.erase k).get? j = _
    rw [get?_erase, if_neg h]

theorem get?_modify (t : Table κ α) (k j : κ) (f : α → α) :
    (t.modify k f).get? j = if j = k then (t.get? j).map f else t.get? j := by
  unfold modify
  split
  · rename_i h
    split
    · rename_i hj; subst hj; simp [h]
    · rfl
  · rename_i a h
    rw [get?_insert]
    split
    · rename_i hj; subst hj; simp [h]
    · rfl

theorem mem_keys_iff {t : Table κ α} {k : κ} : k ∈ t.keys ↔ (t.get? k).isSome := by
  rw [Option.isSome_iff_exists, keys]
  simp only [get?_eq_some_iff, List.mem_map, Prod.exists, exists_and_right, exists_eq_right]

end Lookups

end Table

end SkinLayout
