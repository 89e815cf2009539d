/-
Laws of lists whose items are told apart by a key.

Where keys are different, what is found under a key does not depend on the order
of the items (`find?_perm`).  Storing keeps that, and it keeps every item of
another key where it is, so only the place of the item's own key can change.
-/
import Mathlib.Data.List.Basic
import SimReport.Keyed

namespace SimReport
namespace Keyed

/-- Of each item the first occurrence is kept. -/
theorem eraseDups_concat_of_mem {α : Type} [BEq α] [LawfulBEq α] {as : List α} {a : α}
    (h : a ∈ as) : (as ++ [a]).eraseDups = as.eraseDups := by
  have hnone : [a].removeAll as = [] := by simp [List.removeAll, h]
  rw [List.eraseDups_append, hnone]
  exact List.append_nil _

theorem eraseDups_concat_of_not_mem {α : Type} [BEq α] [LawfulBEq α] {as : List α} {a : α}
    (h : a ∉ as) : (as ++ [a]).eraseDups = as.eraseDups ++ [a] := by
  have hall : [a].removeAll as = [a] := by simp [List.removeAll, h]
  rw [List.eraseDups_append, hall]
  rfl

variable {α κ : Type} [DecidableEq κ] {key : α → κ} {item : α} {items : List α}

/-! ## Finding -/

theorem find?_eq_some_of_mem (h : (items.map key).Nodup) (hitem : item ∈ items) :
    find? key (key item) items = some item := by
  induction items with
  | nil => exact absurd hitem List.not_mem_nil
  | cons a items ih =>
    rw [List.map_cons, List.nodup_cons] at h
    rw [find?, List.find?_cons]
    rcases List.mem_cons.mp hitem with rfl | hmem
    · simp
    · have hne : key a ≠ key item := fun e => h.1 (e ▸ List.mem_map_of_mem hmem)
      have hrest := ih h.2 hmem
      rw [find?] at hrest
      simpa [hne] using hrest

theorem find?_eq_some_iff (h : (items.map key).Nodup) {k : κ} :
    find? key k items = some item ↔ item ∈ items ∧ key item = k := by
  constructor
  · intro hfound
    exact ⟨List.mem_of_find?_eq_some hfound, by simpa [find?] using List.find?_some hfound⟩
  · rintro ⟨hitem, rfl⟩
    exact find?_eq_some_of_mem h hitem

theorem find?_perm {others : List α} (hperm : items.Perm others) (h : (items.map key).Nodup)
    (k : κ) : find? key k items = find? key k others := by
  apply Option.ext
  intro a
  rw [find?_eq_some_iff h, find?_eq_some_iff ((hperm.map key).nodup_iff.mp h), hperm.mem_iff]

/-! ## Storing -/

theorem store_of_not_mem (h : key item ∉ items.map key) :
    store key item items = items ++ [item] := by
  induction items with
  | nil => rfl
  | cons a items ih =>
    rw [List.map_cons, List.mem_cons, not_or] at h
    rw [store, if_neg (Ne.symm h.1), ih h.2, List.cons_append]

theorem map_key_store_of_mem (h : key item ∈ items.map key) :
    (store key item items).map key = items.map key := by
  induction items with
  | nil => exact absurd h List.not_mem_nil
  | cons a items ih =>
    by_cases ha : key a = key item
    · rw [store, if_pos ha, List.map_cons, List.map_cons, ha]
    · rw [List.map_cons, List.mem_cons] at h
      rw [store, if_neg ha, List.map_cons, List.map_cons, ih (h.resolve_left (Ne.symm ha))]

theorem length_store_of_mem (h : key item ∈ items.map key) :
    (store key item items).length = items.length := by
  have hkeys := congrArg List.length (map_key_store_of_mem h)
  rwa [List.length_map, List.length_map] at hkeys

/-- An item that is stored takes the place of the one with its key, and all others stay. -/
theorem mem_store_iff (h : (items.map key).Nodup) {a : α} :
    a ∈ store key item items ↔ a = item ∨ a ∈ items ∧ key a ≠ key item := by
  induction items with
  | nil => simp [store]
  | cons b items ih =>
    rw [List.map_cons, List.nodup_cons] at h
    unfold store
    split
    · next hb =>
      have hkeep : a ∈ items → key a ≠ key item := fun ha e =>
        h.1 (hb.trans e.symm ▸ List.mem_map_of_mem ha)
      rw [List.mem_cons, List.mem_cons]
      grind
    · next hb =>
      rw [List.mem_cons, List.mem_cons, ih h.2]
      grind

/-- An item with another key stays where it is. -/
theorem getElem?_store_of_ne {i : Nat} {a : α} (h : items[i]? = some a) (hne : key a ≠ key item) :
    (store key item items)[i]? = some a := by
  induction items generalizing i with
  | nil => simp at h
  | cons b items ih =>
    unfold store
    cases i with
    | zero =>
      obtain rfl : b = a := by simpa using h
      rw [if_neg hne]
      rfl
    | succ i =>
      rw [List.getElem?_cons_succ] at h
      split
      · exact h
      · exact ih h

theorem filterMap_store {β : Type} {f : α → Option β} (h : ∀ a, key a = key item → f a = none)
    (items : List α) : (store key item items).filterMap f = items.filterMap f := by
  have hitem : f item = none := h item rfl
  induction items with
  | nil => exact List.filterMap_cons_none hitem
  | cons a items ih =>
    rw [store]
    split
    · next ha => rw [List.filterMap_cons_none hitem, List.filterMap_cons_none (h a ha)]
    · rw [List.filterMap_cons, List.filterMap_cons, ih]

end Keyed
end SimReport
