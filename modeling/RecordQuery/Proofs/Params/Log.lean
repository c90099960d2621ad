import Mathlib.Data.Set.Card
import RecordQuery.Proofs.Params

/-!
# Parameters as a log of steps

Parameters come about by steps, from none on. What a step does to a key is an event, or nothing if
the step does not touch the key (`find?_apply`). The events of a key in their order settle its
values, whatever the steps do to other keys (`find?_run`), and with the values of all keys they
settle everything that can be asked of the parameters (`answers_of_log`).
-/

namespace RecordQuery

open Text

namespace Params

variable {p : Params} {key : String}

/-! ## Steps and their events -/

inductive Step where
  /-- Adds a value after those of a key, in place or as a link of a chain. -/
  | append (key value : String)
  | set (key value : String)
  | extend (pairs : List (String × String))
  /-- Starts again with pairs. -/
  | ofPairs (pairs : List (String × String))
  /-- Starts again with the lists of a mapping, in any order. -/
  | ofLists (lists : List (String × List String))

def Step.apply : Step → Params → Params
  | append key value, p => p.append key value
  | set key value, p => p.set key value
  | extend pairs, p => p.extend pairs
  | ofPairs pairs, _ => .ofPairs pairs
  | ofLists lists, _ => .ofLists lists

def run (log : List Step) : Params := log.foldl (fun p step => step.apply p) empty

inductive Event where
  /-- The key has these values afterwards, or is not held, whatever was there before. -/
  | replace (values : Option (List String))
  | set (value : String)
  | add (values : List String)

def Event.apply : Event → Option (List String) → Option (List String)
  | replace values, _ => values
  | set value, _ => some [value]
  | add values, held => some (held.getD [] ++ values)

/-- The values of a key after its events; before the first of them it is not held. -/
def Event.settle (events : List Event) : Option (List String) :=
  events.foldl (fun held e => e.apply held) none

def valuesIn? (pairs : List (String × String)) (key : String) : Option (List String) :=
  match pairs.filter (fun pair => pair.1 = key) with
  | [] => none
  | pair :: rest => some ((pair :: rest).map (·.2))

/-- What a step does to a key, or nothing if it does not touch the key. Of two lists for one key the
later one counts. -/
def Step.event? (key : String) : Step → Option Event
  | append k value => if k = key then some (.add [value]) else none
  | set k value => if k = key then some (.set value) else none
  | extend pairs => (valuesIn? pairs key).map .add
  | ofPairs pairs => some (.replace (valuesIn? pairs key))
  | ofLists lists => some (.replace (List.lookup key lists.reverse))

/-! ## What a key holds -/

def find? (p : Params) (key : String) : Option (List String) := List.lookup key p.entries

theorem getAll_eq_find? (p : Params) (key : String) : p.getAll key = (p.find? key).getD [] := rfl

theorem find?_update (p : Params) (k : String) (f : List String → List String) (key : String) :
    (p.update k f).find? key = if key = k then some (f (p.getAll k)) else p.find? key :=
  p.sorted.lookup_updateEntries key

theorem find?_append (p : Params) (k value key : String) : (p.append k value).find? key =
    if k = key then some (p.getAll key ++ [value]) else p.find? key := by
  rw [append, find?_update]
  by_cases h : k = key
  · subst h
    rw [if_pos rfl]
  · rw [if_neg h, if_neg (Ne.symm h)]

theorem find?_setAll (p : Params) (k : String) (values : List String) (key : String) :
    (p.setAll k values).find? key = if k = key then some values else p.find? key :=
  (find?_update p k _ key).trans (if_congr eq_comm rfl rfl)

theorem find?_set (p : Params) (k value key : String) : (p.set k value).find? key =
    if k = key then some [value] else p.find? key :=
  find?_setAll p k [value] key

theorem valuesIn?_cons (k value : String) (pairs : List (String × String)) (key : String) :
    valuesIn? ((k, value) :: pairs) key =
      if k = key then some (value :: (valuesIn? pairs key).getD []) else valuesIn? pairs key := by
  unfold valuesIn?
  by_cases h : k = key
  · rw [List.filter_cons_of_pos (by simpa using h), if_pos h]
    cases pairs.filter fun pair => pair.1 = key <;> rfl
  · rw [List.filter_cons_of_neg (by simpa using h), if_neg h]

theorem find?_extend (key : String) : ∀ (pairs : List (String × String)) (p : Params),
    (p.extend pairs).find? key =
      ((valuesIn? pairs key).map (p.getAll key ++ ·)).or (p.find? key)
  | [], _ => rfl
  | (k, value) :: pairs, p => by
      change ((p.append k value).extend pairs).find? key = _
      rw [find?_extend key pairs, getAll_eq_find?, find?_append, valuesIn?_cons]
      by_cases h : k = key
      · rw [if_pos h, if_pos h]
        cases valuesIn? pairs key <;> simp
      · rw [if_neg h, if_neg h, getAll_eq_find?]

theorem find?_ofPairs (pairs : List (String × String)) (key : String) :
    (ofPairs pairs).find? key = valuesIn? pairs key := by
  rw [ofPairs, find?_extend]
  change ((valuesIn? pairs key).map ([] ++ ·)).or none = _
  simp

theorem find?_foldl_setAll (key : String) : ∀ (lists : List (String × List String)) (p : Params),
    (lists.foldl (fun p (k, values) => p.setAll k values) p).find? key =
      (List.lookup key lists.reverse).or (p.find? key)
  | [], _ => rfl
  | (k, values) :: lists, p => by
      rw [List.foldl_cons, find?_foldl_setAll key lists, find?_setAll, List.reverse_cons,
        List.lookup_append, Option.or_assoc, lookup_cons_eq_ite]
      by_cases h : k = key
      · rw [if_pos h, if_pos h.symm]
        rfl
      · rw [if_neg h, if_neg (Ne.symm h)]
        rfl

theorem find?_ofLists (lists : List (String × List String)) (key : String) :
    (ofLists lists).find? key = List.lookup key lists.reverse := by
  rw [ofLists, find?_foldl_setAll]
  exact Option.or_none

/-! ## Runs -/

theorem find?_apply (step : Step) (p : Params) (key : String) : (step.apply p).find? key =
    ((step.event? key).map (·.apply (p.find? key))).getD (p.find? key) := by
  cases step with
  | append k value =>
      rw [Step.apply, find?_append, Step.event?]
      split_ifs <;> rfl
  | set k value =>
      rw [Step.apply, find?_set, Step.event?]
      split_ifs <;> rfl
  | extend pairs =>
      rw [Step.apply, find?_extend, Step.event?]
      cases valuesIn? pairs key <;> rfl
  | ofPairs pairs => exact find?_ofPairs pairs key
  | ofLists lists => exact find?_ofLists lists key

theorem find?_foldl_apply (key : String) : ∀ (log : List Step) (p : Params),
    (log.foldl (fun p step => step.apply p) p).find? key =
      (log.filterMap (Step.event? key)).foldl (fun held e => e.apply held) (p.find? key)
  | [], _ => rfl
  | step :: log, p => by
      rw [List.foldl_cons, find?_foldl_apply key log, find?_apply, List.filterMap_cons]
      cases step.event? key <;> rfl

theorem find?_run (log : List Step) (key : String) :
    (run log).find? key = Event.settle (log.filterMap (Step.event? key)) :=
  find?_foldl_apply key log empty

/-! ## Counting keys -/

theorem mem_keys_iff : key ∈ p.keys ↔ (p.find? key).isSome := by
  rw [keys, List.mem_map, Option.isSome_iff_exists]
  constructor
  · rintro ⟨⟨k, values⟩, hmem, rfl⟩
    exact ⟨values, p.sorted.mem_lookup_iff.2 hmem⟩
  · rintro ⟨values, hlookup⟩
    exact ⟨(key, values), p.sorted.mem_lookup_iff.1 hlookup, rfl⟩

theorem nodup_keys (p : Params) : p.keys.Nodup := by
  refine List.pairwise_map.2 (p.sorted.imp fun {a b} hlt heq => ?_)
  rw [heq] at hlt
  exact compareBytes_self_ne_lt b.1 hlt

theorem encard_held (p : Params) : {key | (p.find? key).isSome}.encard = p.size := by
  have hkeys : {key | (p.find? key).isSome} = (p.keys.toFinset : Set String) := by
    ext key
    rw [Finset.mem_coe, List.mem_toFinset, mem_keys_iff]
    rfl
  rw [hkeys, Set.encard_coe_eq_coe_finsetCard, List.toFinset_card_of_nodup p.nodup_keys, keys,
    List.length_map, size]

/-! ## Answers -/

/-- After any run the values of a key are settled by the events of this key, and `get?` gives the
first of them. The live keys are those with a value, each once, in the order of their bytes, and the
size counts the keys that are held. A step that does not touch a key leaves its values. -/
theorem answers_of_log (log : List Step) :
    (∀ key, (run log).getAll key =
      (Event.settle (log.filterMap (Step.event? key))).getD []) ∧
    (∀ key, (run log).get? key = ((run log).getAll key).head?) ∧
    (∀ key raw, (key, raw) ∈ (run log).firstValues ↔ (run log).get? key = some raw) ∧
    (run log).firstValues.Pairwise (fun a b => compareBytes a.1 b.1 = .lt) ∧
    {key | (Event.settle (log.filterMap (Step.event? key))).isSome}.encard = (run log).size ∧
    (∀ (step : Step) (key : String), step.event? key = none →
      (run (log ++ [step])).getAll key = (run log).getAll key) := by
  refine ⟨fun key => ?_, fun key => rfl, fun key raw => mem_firstValues_iff, firstValues_sorted _,
    ?_, fun step key hnone => ?_⟩
  · rw [getAll_eq_find?, find?_run]
  · simp only [← find?_run]
    exact encard_held (run log)
  · simp [getAll_eq_find?, find?_run, hnone]

/-- A key without values comes in with a mapping, which does away with the values before it. Setting
another key is nothing to the tags. -/
theorem answers_of_log_tags :
    let log : List Step := [
      .append "tag" "old", .ofLists [("tag", []), ("note", []), ("age", ["1", "2"])],
      .append "tag" "new", .set "age" "3", .extend [("tag", "hot"), ("sort", "-age")]]
    (run log).getAll "tag" = ["new", "hot"] ∧ (run log).get? "tag" = some "new" ∧
      ("tag", "new") ∈ (run log).firstValues ∧ (∀ raw, ("note", raw) ∉ (run log).firstValues) ∧
      (run log).size = 4 ∧ Step.event? "tag" (.set "age" "4") = none ∧
      (run (log ++ [.set "age" "4"])).getAll "tag" = (run log).getAll "tag" := by
  intro log
  obtain ⟨hall, hget, hlive, -, -, hframe⟩ := answers_of_log log
  have htag : (run log).getAll "tag" = ["new", "hot"] := hall "tag"
  have hfirst : (run log).get? "tag" = some "new" := by rw [hget, htag, List.head?_cons]
  have hnote : (run log).get? "note" = none := by rw [hget, hall]; rfl
  refine ⟨htag, hfirst, (hlive _ _).2 hfirst, fun raw hmem => ?_, by decide +kernel, rfl,
    hframe _ _ rfl⟩
  have hsome := (hlive _ _).1 hmem
  rw [hnote] at hsome
  cases hsome

end Params

end RecordQuery
