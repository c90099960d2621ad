import RecordQuery.Proofs.Order.Stability

/-!
# What a sorted list looks like

A key is a text, a defined number, a truth value or an instant that a record has at a path
(`key?_eq_some_iff`). Keys rise from kind to kind, and by value within a kind. As long as the
numbers among them are integers, sorting puts every record where no record behind it has to stand
before it, leaves records that tie in the order they had, and does nothing to a list that is sorted
(`sortBy_sorts`).
-/

namespace RecordQuery.Order

/-! ## Keys of records -/

inductive IsOrderable : Value → Prop
  | string (s : String) : IsOrderable (.string s)
  | number {n : Number} : n.isNaN = false → IsOrderable (.number n)
  | bool (b : Bool) : IsOrderable (.bool b)
  | timestamp (t : Instant) : IsOrderable (.timestamp t)

theorem isKey_iff {v : Value} : isKey v = true ↔ IsOrderable v := by
  constructor
  · intro h
    cases v with
    | string s => exact .string s
    | number n => exact .number (isNaN_of_isKey h)
    | bool b => exact .bool b
    | timestamp t => exact .timestamp t
    | _ => cases h
  · rintro (s | h | b | t)
    · rfl
    · simpa [isKey] using h
    · rfl
    · rfl

def HasKey (r : Record) (path : FieldPath) (k : Value) : Prop :=
  IsOrderable k ∧ ∃ v, r.resolve path = .ok v ∧ v.deref = some k

theorem key?_eq_some_iff {r : Record} {path : FieldPath} {k : Value} :
    key? r path = some k ↔ HasKey r path k := by
  unfold key? HasKey
  cases r.resolve path with
  | error e => simp
  | ok v => simp [Option.filter_eq_some_iff, isKey_iff, and_comm]

/-! ## The order of keys -/

/-- The first key comes no later than the second one: its kind comes before, in the order of texts,
numbers, truth values and instants, or they are of one kind and it is no greater. -/
inductive KeyLe : Value → Value → Prop
  | kind {a b : Value} : rank a < rank b → KeyLe a b
  | string {s t : String} : Text.compareBytes s t ≠ .gt → KeyLe (.string s) (.string t)
  | integer {m n : Sized} : m.value ≤ n.value →
      KeyLe (.number (.integer m)) (.number (.integer n))
  | bool {x y : Bool} : x ≤ y → KeyLe (.bool x) (.bool y)
  | timestamp {s t : Instant} : s.compare t ≠ .gt → KeyLe (.timestamp s) (.timestamp t)

theorem compareBools_ne_gt_iff {x y : Bool} : compareBools x y ≠ .gt ↔ x ≤ y := by
  cases x <;> cases y <;> decide

theorem compareWithin_integer_ne_gt_iff {m n : Sized} :
    compareWithin (.number (.integer m)) (.number (.integer n)) ≠ .gt ↔ m.value ≤ n.value :=
  Int.compare_ne_gt

def IsExact (k : Value) : Prop := ∀ n, k = .number n → n.isFloat = false

theorem exists_integer_of_isFloat_eq_false : ∀ {n : Number}, n.isFloat = false → ∃ m, n = .integer m
  | .integer m, _ => ⟨m, rfl⟩

theorem keyLe_iff {a b : Value} (ha : IsOrderable a) (hb : IsOrderable b) (hxa : IsExact a)
    (hxb : IsExact b) : KeyLe a b ↔ compareKeys .ascending (some a) (some b) ≠ .gt := by
  rw [compareKeys_some, Direction.apply, then_ne_gt_iff]
  constructor
  · rintro (h | h | h | h | h)
    · exact .inl h
    · exact .inr ⟨rfl, h⟩
    · exact .inr ⟨rfl, compareWithin_integer_ne_gt_iff.2 h⟩
    · exact .inr ⟨rfl, compareBools_ne_gt_iff.2 h⟩
    · exact .inr ⟨rfl, h⟩
  · rintro (h | ⟨hrank, h⟩)
    · exact .kind h
    cases sameKind_of_rank_eq (isKey_iff.2 ha) (isKey_iff.2 hb) hrank with
    | string s t => exact .string h
    | number m n _ _ =>
        obtain ⟨m, rfl⟩ := exists_integer_of_isFloat_eq_false (hxa m rfl)
        obtain ⟨n, rfl⟩ := exists_integer_of_isFloat_eq_false (hxb n rfl)
        exact .integer (compareWithin_integer_ne_gt_iff.1 h)
    | bool x y => exact .bool (compareBools_ne_gt_iff.1 h)
    | timestamp s t => exact .timestamp h

def LeIn : Direction → Value → Value → Prop
  | .ascending, a, b => KeyLe a b
  | .descending, a, b => KeyLe b a

theorem leIn_iff (d : Direction) {a b : Value} (ha : IsOrderable a) (hb : IsOrderable b)
    (hxa : IsExact a) (hxb : IsExact b) : LeIn d a b ↔ compareKeys d (some a) (some b) ≠ .gt := by
  cases d with
  | ascending => exact keyLe_iff ha hb hxa hxb
  | descending =>
      rw [compareKeys_descending]
      exact keyLe_iff hb ha hxb hxa

/-! ## The order of records -/

section Records

variable {order : Order} {r r' : Record}

/-- The record may stand before the other one: if the other has a key, then it has one as well, and
the keys are in order. -/
def MayPrecede (order : Order) (r r' : Record) : Prop :=
  ∀ k', HasKey r' order.field k' → ∃ k, HasKey r order.field k ∧ LeIn order.direction k k'

def HasExactKey (order : Order) (r : Record) : Prop :=
  ∀ n, HasKey r order.field (.number n) → n.isFloat = false

theorem HasExactKey.isExact (h : order.HasExactKey r) {k : Value} (hk : HasKey r order.field k) :
    IsExact k := by
  rintro n rfl
  exact h n hk

theorem mayPrecede_iff (hr : order.HasExactKey r) (hr' : order.HasExactKey r') :
    order.MayPrecede r r' ↔
      compareKeys order.direction (key? r order.field) (key? r' order.field) ≠ .gt := by
  simp only [MayPrecede, ← key?_eq_some_iff]
  cases hk' : key? r' order.field with
  | none =>
      refine iff_of_true (fun k' h => nomatch h) ?_
      cases key? r order.field <;> exact nofun
  | some k' =>
      have hkey' := key?_eq_some_iff.1 hk'
      cases hk : key? r order.field with
      | none =>
          refine iff_of_false (fun h => ?_) fun h => h rfl
          obtain ⟨k, hnone, -⟩ := h k' rfl
          cases hnone
      | some k =>
          have hkey := key?_eq_some_iff.1 hk
          rw [← leIn_iff order.direction hkey.1 hkey'.1 (hr.isExact hkey) (hr'.isExact hkey')]
          simp only [Option.some.injEq, forall_eq', exists_eq_left']

end Records

/-! ## Stable sorting -/

section Insertion

variable {α : Type} {less : α → α → Bool} {S : α → Prop}

theorem falling_foldl_insert (h : Preordered less S) : ∀ {xs sorted : List α},
    (∀ x ∈ xs, S x) → (∀ y ∈ sorted, S y) → Falling less sorted →
      Falling less (xs.foldl (fun sorted x => insert less x sorted) sorted)
  | [], _, _, _, hfall => hfall
  | x :: xs, sorted, hxs, hsorted, hfall => by
      obtain ⟨hx, hxs⟩ := List.forall_mem_cons.1 hxs
      rw [List.foldl_cons]
      exact falling_foldl_insert h hxs (forall_mem_insert hx hsorted) (hfall.insert h hx hsorted)

theorem pairwise_stableSort {items : List α} (h : Preordered less (· ∈ items)) :
    (stableSort less items).Pairwise fun a b => less b a = false :=
  List.pairwise_reverse.2
    (falling_foldl_insert h (fun _ hx => hx) (List.forall_mem_nil _) .nil)

theorem foldl_insert_of_forall_not_less : ∀ {xs sorted : List α},
    xs.Pairwise (fun a b => less b a = false) → (∀ x ∈ xs, ∀ y ∈ sorted, less x y = false) →
      xs.foldl (fun sorted x => insert less x sorted) sorted = xs.reverse ++ sorted
  | [], _, _, _ => rfl
  | x :: xs, sorted, hpairs, hsorted => by
      obtain ⟨hhead, htail⟩ := List.pairwise_cons.1 hpairs
      obtain ⟨hx, hxs⟩ := List.forall_mem_cons.1 hsorted
      rw [List.foldl_cons, insert_of_forall_not_less hx, foldl_insert_of_forall_not_less htail,
        List.reverse_cons, List.append_assoc, List.singleton_append]
      exact fun z hz => List.forall_mem_cons.2 ⟨hhead z hz, hxs z hz⟩

theorem stableSort_eq_self {items : List α} (h : items.Pairwise fun a b => less b a = false) :
    stableSort less items = items := by
  unfold stableSort
  rw [foldl_insert_of_forall_not_less h fun _ _ => List.forall_mem_nil _, List.append_nil,
    List.reverse_reverse]

/-- A choice of items of which none is less than another one keeps its order. -/
theorem filter_stableSort_of_ties {items : List α} (h : Preordered less (· ∈ items)) {P : α → Bool}
    (hties : ∀ a ∈ items, ∀ b ∈ items, P a = true → P b = true → less b a = false) :
    (stableSort less items).filter P = items.filter P := by
  rw [filter_stableSort h]
  refine stableSort_eq_self (List.pairwise_of_forall_mem_list fun a ha b hb => ?_)
  obtain ⟨ha, hPa⟩ := List.mem_filter.1 ha
  obtain ⟨hb, hPb⟩ := List.mem_filter.1 hb
  exact hties a ha b hb hPa hPb

end Insertion

/-! ## Sorting records -/

section Sorting

variable {α : Type} {record : α → Record} {order : Order} {items : List α}

theorem precedes_eq_false_iff_mayPrecede {a b : α} (ha : order.HasExactKey (record a))
    (hb : order.HasExactKey (record b)) :
    order.precedes record b a = false ↔ order.MayPrecede (record a) (record b) := by
  rw [precedes_eq_false_iff, mayPrecede_iff ha hb]

theorem unblurred_of_exact (h : ∀ item ∈ items, order.HasExactKey (record item)) :
    order.Unblurred record items :=
  unblurred_of_integers fun item hitem n hn => h item hitem n (key?_eq_some_iff.1 hn)

theorem sortBy_of_pairwise (h : ∀ item ∈ items, order.HasExactKey (record item))
    (hpairs : items.Pairwise fun a b => order.MayPrecede (record a) (record b)) :
    order.sortBy record items = items := by
  rw [sortBy_eq_stableSort]
  refine stableSort_eq_self (hpairs.imp_of_mem fun ha hb hab => ?_)
  exact (precedes_eq_false_iff_mayPrecede (h _ ha) (h _ hb)).2 hab

theorem pairwise_sortBy (h : ∀ item ∈ items, order.HasExactKey (record item)) :
    (order.sortBy record items).Pairwise fun a b => order.MayPrecede (record a) (record b) := by
  rw [sortBy_eq_stableSort]
  have hpairs := pairwise_stableSort (preordered_of_unblurred (unblurred_of_exact h))
  refine hpairs.imp_of_mem fun ha hb hab => ?_
  rw [(stableSort_perm _ _).mem_iff] at ha hb
  exact (precedes_eq_false_iff_mayPrecede (h _ ha) (h _ hb)).1 hab

/-- Where the numbers among the keys are integers, sorting loses nothing and puts every record where
it may stand before all that follow. A choice of items that all may stand before each other keeps
its order, and sorting again changes nothing. -/
theorem sortBy_sorts {α : Type} (record : α → Record) (order : Order) (items : List α)
    (h : ∀ item ∈ items, order.HasExactKey (record item)) :
    let sorted := order.sortBy record items
    sorted.Perm items ∧
      sorted.Pairwise (fun a b => order.MayPrecede (record a) (record b)) ∧
      (∀ P : α → Bool, (∀ a ∈ items, ∀ b ∈ items, P a = true → P b = true →
        order.MayPrecede (record a) (record b)) → sorted.filter P = items.filter P) ∧
      order.sortBy record sorted = sorted := by
  intro sorted
  have hperm : sorted.Perm items := sortBy_perm record order items
  have hpairs := pairwise_sortBy h
  refine ⟨hperm, hpairs, fun P hties => ?_, ?_⟩
  · have hmem : ∀ {a}, a ∈ items.filter P → a ∈ items ∧ P a = true := List.mem_filter.1
    rw [filter_sortBy (unblurred_of_exact h)]
    refine sortBy_of_pairwise (fun a ha => h a (hmem ha).1) ?_
    exact List.pairwise_of_forall_mem_list fun a ha b hb =>
      hties a (hmem ha).1 b (hmem hb).1 (hmem ha).2 (hmem hb).2
  · exact sortBy_of_pairwise (fun a ha => h a (hperm.mem_iff.1 ha)) hpairs

/-- Two integers of different widths tie, and keep their order where all others turn round. -/
theorem sortBy_sorts_mixed :
    let order : Order := ⟨.parse "n", .descending⟩
    let record : String × Value → Record := fun (_, v) => ⟨.never, [("n", v)]⟩
    let items : List (String × Value) := [
      ("null", .null), ("text", .string "a"),
      ("byte", .number (.integer ⟨.u8, 20, by decide⟩)),
      ("undefined", .number (.double (.undefined .double))), ("true", .present (.bool true)),
      ("word", .number (.integer ⟨.i64, 20, by decide⟩)),
      ("more", .number (.integer ⟨.u16, 30, by decide⟩))]
    let twenty : String × Value → Bool := fun item => item.1 = "byte" ∨ item.1 = "word"
    let sorted := order.sortBy record items
    (∀ item ∈ items, order.HasExactKey (record item)) ∧
      sorted.map (·.1) = ["true", "more", "byte", "word", "text", "null", "undefined"] ∧
      sorted.Perm items ∧
      sorted.Pairwise (fun a b => order.MayPrecede (record a) (record b)) ∧
      (∀ a ∈ items, ∀ b ∈ items, twenty a = true → twenty b = true →
        order.MayPrecede (record a) (record b)) ∧
      sorted.filter twenty = items.filter twenty ∧ order.sortBy record sorted = sorted := by
  intro order record items twenty sorted
  have hexact : ∀ item ∈ items, order.HasExactKey (record item) := by
    intro item hitem n hn
    rw [← key?_eq_some_iff] at hn
    simp only [items, List.mem_cons, List.not_mem_nil, or_false] at hitem
    rcases hitem with rfl | rfl | rfl | rfl | rfl | rfl | rfl <;> cases hn <;> rfl
  have hties : ∀ a ∈ items, ∀ b ∈ items, twenty a = true → twenty b = true →
      order.MayPrecede (record a) (record b) := by
    have hkeys : ∀ a ∈ items, ∀ b ∈ items, twenty a = true → twenty b = true →
        compareKeys order.direction (key? (record a) order.field)
          (key? (record b) order.field) ≠ .gt := by decide +kernel
    exact fun a ha b hb hta htb =>
      (mayPrecede_iff (hexact a ha) (hexact b hb)).2 (hkeys a ha b hb hta htb)
  obtain ⟨hperm, hpairs, hstable, hagain⟩ := sortBy_sorts record order items hexact
  exact ⟨hexact, by decide +kernel, hperm, hpairs, hties, hstable twenty hties, hagain⟩

end Sorting

end RecordQuery.Order
