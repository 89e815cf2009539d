/-
Lists whose items are told apart by a key.  Storing an item replaces the one
with its key where that stands, so keys keep the order of their first storing.
-/
namespace SimReport
namespace Keyed

variable {α κ : Type} [DecidableEq κ]

/-- The item with the given key. -/
def find? (key : α → κ) (k : κ) (items : List α) : Option α := items.find? fun a => key a = k

/-- Replaces the item with the same key, or adds the item at the end. -/
def store (key : α → κ) (item : α) : List α → List α
  | [] => [item]
  | a :: items => if key a = key item then item :: items else a :: store key item items

theorem mem_keys_store {key : α → κ} {item : α} {items : List α} {k : κ} :
    k ∈ (store key item items).map key ↔ k = key item ∨ k ∈ items.map key := by
  induction items with
  | nil => simp [store]
  | cons a items ih =>
    unfold store
    split
    · next h => simp only [List.map_cons, List.mem_cons, h]; grind
    · simp only [List.map_cons, List.mem_cons, ih]; grind

theorem nodup_keys_store {key : α → κ} (item : α) {items : List α}
    (h : (items.map key).Nodup) : ((store key item items).map key).Nodup := by
  induction items with
  | nil => simp [store]
  | cons a items ih =>
    rw [List.map_cons, List.nodup_cons] at h
    unfold store
    split
    · next e => rw [List.map_cons, List.nodup_cons]; exact ⟨e ▸ h.1, h.2⟩
    · next e =>
      rw [List.map_cons, List.nodup_cons, mem_keys_store]
      exact ⟨fun h' => h'.elim e h.1, ih h.2⟩

/-- After storing, the item is found under its key and every other key finds
what it found before. -/
theorem find?_store (key : α → κ) (item : α) (items : List α) (k : κ) :
    find? key k (store key item items) = if k = key item then some item else find? key k items := by
  induction items with
  | nil =>
    simp only [store, find?, List.find?_cons, List.find?_nil]
    split <;> grind
  | cons a items ih =>
    unfold store
    simp only [find?] at ih ⊢
    split <;> grind

/-- Storing an item that is already there changes nothing. -/
theorem store_of_find?_eq_some {key : α → κ} {item : α} {items : List α}
    (h : find? key (key item) items = some item) : store key item items = items := by
  induction items with
  | nil => simp [find?] at h
  | cons a items ih =>
    unfold store
    simp only [find?] at ih h
    split <;> grind

end Keyed
end SimReport
