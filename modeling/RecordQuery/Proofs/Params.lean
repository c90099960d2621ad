import Mathlib.Data.List.Sort
import RecordQuery.Params

/-!
# The live keys of parameters

A key is live when it has a value. `firstValues` lists the live keys in strictly increasing byte
order, each with the value that `get?` gives (`firstValues_sorted`, `mem_firstValues_iff`), and the
answers of `get?` determine the list (`firstValues_congr`). Setting a key changes the answer for
this key only (`get?_set`), and parameters without a key in common are joined key by key
(`mem_firstValues_union`).
-/

namespace RecordQuery

open Text

namespace Params

/-! ## Looking a key up -/

theorem Sorted.mem_lookup_iff {key : String} {values : List String} :
    ∀ {entries}, Sorted entries → (List.lookup key entries = some values ↔ (key, values) ∈ entries)
  | [], _ => by simp
  | (k, vs) :: entries, h => by
      obtain ⟨hk, hs⟩ := List.pairwise_cons.1 h
      rw [List.lookup_cons, List.mem_cons]
      by_cases e : key = k
      · subst e
        have hnot : (key, values) ∉ entries := fun hm => compareBytes_self_ne_lt key (hk _ hm)
        simp [hnot, eq_comm]
      · have hb : (key == k) = false := beq_eq_false_iff_ne.2 e
        simp only [hb, Prod.mk.injEq, e, false_and, false_or]
        exact Sorted.mem_lookup_iff hs

theorem getAll_eq_of_mem {p : Params} {key : String} {values : List String}
    (h : (key, values) ∈ p.entries) : p.getAll key = values := by
  rw [getAll, p.sorted.mem_lookup_iff.2 h, Option.getD_some]

theorem mem_of_getAll_ne_nil {p : Params} {key : String} (h : p.getAll key ≠ []) :
    (key, p.getAll key) ∈ p.entries := by
  unfold getAll at h ⊢
  cases hl : List.lookup key p.entries with
  | none => rw [hl] at h; exact absurd rfl h
  | some values => exact p.sorted.mem_lookup_iff.1 hl

/-! ## The live keys -/

theorem mem_firstValues_iff {p : Params} {key raw : String} :
    (key, raw) ∈ p.firstValues ↔ p.get? key = some raw := by
  unfold firstValues get?
  rw [List.mem_filterMap]
  constructor
  · rintro ⟨⟨k, values⟩, hm, hv⟩
    obtain ⟨v, hv, e⟩ := Option.map_eq_some_iff.1 hv
    cases e
    rw [getAll_eq_of_mem hm, hv]
  · intro h
    have hne : p.getAll key ≠ [] := fun e => by simp [e] at h
    exact ⟨(key, p.getAll key), mem_of_getAll_ne_nil hne, by simp [h]⟩

theorem firstValues_sorted (p : Params) :
    p.firstValues.Pairwise fun a b => compareBytes a.1 b.1 = .lt := by
  refine List.Pairwise.filterMap _ ?_ p.sorted
  rintro ⟨k, values⟩ ⟨k', values'⟩ hlt a ha b hb
  obtain ⟨v, -, rfl⟩ := Option.map_eq_some_iff.1 ha
  obtain ⟨v', -, rfl⟩ := Option.map_eq_some_iff.1 hb
  exact hlt

theorem filter_firstValues_congr {p p' : Params} (P : String → Prop) [DecidablePred P]
    (h : ∀ key, P key → p'.get? key = p.get? key) :
    p'.firstValues.filter (fun a => P a.1) = p.firstValues.filter (fun a => P a.1) := by
  have hasymm : ∀ a b : String × String, compareBytes a.1 b.1 = .lt →
      compareBytes b.1 a.1 = .lt → a = b := fun a b hab hba =>
    absurd (compareBytes_lt_trans hab hba) (compareBytes_self_ne_lt _)
  have : Std.Antisymm fun a b : String × String => compareBytes a.1 b.1 = .lt := ⟨hasymm⟩
  have : Std.Irrefl fun a b : String × String => compareBytes a.1 b.1 = .lt :=
    ⟨fun a => compareBytes_self_ne_lt a.1⟩
  refine (p'.firstValues_sorted.filter _).eq_of_mem_iff (p.firstValues_sorted.filter _) ?_
  rintro ⟨key, raw⟩
  simp only [List.mem_filter, decide_eq_true_eq, mem_firstValues_iff]
  exact and_congr_left fun hkey => by rw [h key hkey]

theorem firstValues_congr {p p' : Params} (h : ∀ key, p'.get? key = p.get? key) :
    p'.firstValues = p.firstValues := by
  simpa using filter_firstValues_congr (fun _ => True) fun key _ => h key

/-! ## Updating a key -/

theorem lookup_eq_none_of_forall_lt {key : String} {entries : List (String × List String)}
    (h : ∀ e ∈ entries, compareBytes key e.1 = .lt) : List.lookup key entries = none := by
  refine List.lookup_eq_none_iff.2 fun e he => bne_iff_ne.2 fun heq => ?_
  exact compareBytes_self_ne_lt key (heq ▸ h e he)

theorem lookup_cons_eq_ite {β : Type} (k k' : String) (v : β) (entries : List (String × β)) :
    List.lookup k ((k', v) :: entries) = if k = k' then some v else List.lookup k entries := by
  rw [List.lookup_cons]
  by_cases hk : k = k'
  · rw [beq_iff_eq.2 hk, if_pos hk]
  · rw [beq_eq_false_iff_ne.2 hk, if_neg hk]

theorem Sorted.lookup_updateEntries {key : String} {f : List String → List String} (k : String) :
    ∀ {entries}, Sorted entries → List.lookup k (updateEntries key f entries) =
      if k = key then some (f ((List.lookup key entries).getD [])) else List.lookup k entries
  | [], _ => lookup_cons_eq_ite ..
  | (k', values) :: entries, h => by
      obtain ⟨hk', hs⟩ := List.pairwise_cons.1 h
      rw [updateEntries]
      split
      · rename_i hlt
        have hnone : List.lookup key ((k', values) :: entries) = none := by
          refine lookup_eq_none_of_forall_lt (List.forall_mem_cons.2 ⟨hlt, fun e he => ?_⟩)
          exact compareBytes_lt_trans hlt (hk' e he)
        rw [hnone, lookup_cons_eq_ite]
        rfl
      · rename_i heq
        obtain rfl := compareBytes_eq_iff.1 heq
        simp only [lookup_cons_eq_ite, if_true, Option.getD_some]
        split_ifs <;> rfl
      · rename_i hgt
        have hne : key ≠ k' := by
          rintro rfl
          rw [compareBytes_self] at hgt
          cases hgt
        simp only [lookup_cons_eq_ite, lookup_updateEntries k hs, if_neg hne]
        by_cases hk : k = k'
        · subst hk
          rw [if_pos rfl, if_pos rfl, if_neg hne.symm]
        · rw [if_neg hk, if_neg hk]

theorem getAll_update (p : Params) (key : String) (f : List String → List String) (k : String) :
    (p.update key f).getAll k = if k = key then f (p.getAll k) else p.getAll k := by
  unfold getAll update
  rw [p.sorted.lookup_updateEntries k]
  by_cases hk : k = key <;> simp [hk]

theorem get?_set (p : Params) (key value k : String) :
    (p.set key value).get? k = if k = key then some value else p.get? k := by
  unfold get? set
  rw [getAll_update]
  by_cases hk : k = key <;> simp [hk]

theorem get?_set_self (p : Params) (key value : String) :
    (p.set key value).get? key = some value := by
  rw [get?_set, if_pos rfl]

theorem get?_set_of_ne (p : Params) {key k : String} (value : String) (h : k ≠ key) :
    (p.set key value).get? k = p.get? k := by
  rw [get?_set, if_neg h]

/-! ## All keys of two parameters -/

def keys (p : Params) : List String := p.entries.map (·.1)

/-- Under each key the values of both parameters, those of the first in front. -/
def union (p q : Params) : Params :=
  q.entries.foldl (fun p (key, values) => p.update key (· ++ values)) p

theorem getAll_eq_nil {p : Params} {key : String} (h : key ∉ p.keys) : p.getAll key = [] := by
  by_contra hne
  exact h (List.mem_map.2 ⟨_, mem_of_getAll_ne_nil hne, rfl⟩)

theorem getAll_foldl_update (k : String) : ∀ {entries} (p : Params), Sorted entries →
    (entries.foldl (fun p (key, values) => p.update key (· ++ values)) p).getAll k =
      p.getAll k ++ (List.lookup k entries).getD []
  | [], p, _ => by simp
  | (k', values) :: entries, p, h => by
      obtain ⟨hk', hs⟩ := List.pairwise_cons.1 h
      rw [List.foldl_cons, getAll_foldl_update k _ hs, getAll_update, lookup_cons_eq_ite]
      by_cases hk : k = k'
      · subst hk
        simp [lookup_eq_none_of_forall_lt hk']
      · simp [hk]

theorem getAll_union (p q : Params) (key : String) :
    (p.union q).getAll key = p.getAll key ++ q.getAll key :=
  getAll_foldl_update key p q.sorted

theorem get?_union (p q : Params) (key : String) :
    (p.union q).get? key = (p.get? key).or (q.get? key) := by
  rw [get?, getAll_union, List.head?_append]
  rfl

theorem get?_eq_none {p : Params} {key : String} (h : key ∉ p.keys) : p.get? key = none := by
  rw [get?, getAll_eq_nil h, List.head?_nil]

theorem mem_firstValues_union {p q : Params} (h : ∀ key ∈ p.keys, key ∉ q.keys)
    {a : String × String} :
    a ∈ (p.union q).firstValues ↔ a ∈ p.firstValues ∨ a ∈ q.firstValues := by
  obtain ⟨key, raw⟩ := a
  simp only [mem_firstValues_iff, get?_union]
  by_cases hkey : key ∈ p.keys
  · simp [get?_eq_none (h key hkey)]
  · simp [get?_eq_none hkey]

/-! ## One key -/

def single (key raw : String) : Params := empty.append key raw

theorem firstValues_single (key raw : String) : (single key raw).firstValues = [(key, raw)] := rfl

theorem keys_single (key raw : String) : (single key raw).keys = [key] := rfl

end Params

end RecordQuery
