import RecordQuery.Proofs.Predicates.Places
import RecordQuery.Proofs.Widths.Values

/-!
# Predicates do not see widths

Operands, conditions, predicates and records are alike when they are the same but for the widths of
integers. Alike conditions give alike values the same answer (`test_eq_of_alike`), a path leads to
alike values in alike records (`resolve_of_alike`), and so alike predicates pick the same places of
lists of alike records (`places_eq_of_alike`).
-/

namespace RecordQuery

/-! ## Operands -/

namespace Operand

inductive Alike : Operand → Operand → Prop
  | string (s : String) : Alike (.string s) (.string s)
  | number {m n : Number} : m.Alike n → Alike (.number m) (.number n)
  | bool (b : Bool) : Alike (.bool b) (.bool b)
  | timestamp (t : Instant) : Alike (.timestamp t) (.timestamp t)
  | list {os os' : List Operand} : List.Forall₂ Alike os os' → Alike (.list os) (.list os')
  | null : Alike .null .null

mutual

theorem Alike.toValue : ∀ {o o' : Operand}, o.Alike o' → o.toValue.Alike o'.toValue
  | _, _, .string s => .string s
  | _, _, .number h => .number h
  | _, _, .bool b => .bool b
  | _, _, .timestamp t => .timestamp t
  | .list _, .list _, .list h => .sequence (toValues_of_alike h)
  | _, _, .null => .null

theorem toValues_of_alike : ∀ {os os' : List Operand}, List.Forall₂ Alike os os' →
    List.Forall₂ Value.Alike (toValues os) (toValues os')
  | [], [], .nil => .nil
  | _ :: _, _ :: _, .cons h hs => .cons h.toValue (toValues_of_alike hs)

end

abbrev AlikePairs : List (Operand × Operand) → List (Operand × Operand) → Prop :=
  List.Forall₂ fun p q => p.1.Alike q.1 ∧ p.2.Alike q.2

end Operand

/-! ## Conditions -/

namespace Condition

/-- The same condition but for the widths of integers in operands. No test of elements is alike to
one, as it may ask for the width. -/
inductive Alike : Condition → Condition → Prop
  | compare (op : Operator) {o o' : Operand} : o.Alike o' → Alike (.compare op o) (.compare op o')
  | isIn {os os' : List Operand} : List.Forall₂ Operand.Alike os os' → Alike (.isIn os) (.isIn os')
  | contains {o o' : Operand} : o.Alike o' → Alike (.contains o) (.contains o')
  | text (needle : String) (mode : MatchMode) (ignoreCase : Bool) :
      Alike (.text needle mode ignoreCase) (.text needle mode ignoreCase)
  | regex (r : Option Regex) : Alike (.regex r) (.regex r)
  | isNull : Alike .isNull .isNull
  | isNotNull : Alike .isNotNull .isNotNull
  | isZero : Alike .isZero .isZero
  | isNotZero : Alike .isNotZero .isNotZero
  | before (bound : Instant) : Alike (.before bound) (.before bound)
  | after (bound : Instant) : Alike (.after bound) (.after bound)
  | hasElement {o o' : Operand} (ignoreCase : Bool) :
      o.Alike o' → Alike (.hasElement o ignoreCase) (.hasElement o' ignoreCase)
  | hasAnyElement {os os' : List Operand} :
      List.Forall₂ Operand.Alike os os' → Alike (.hasAnyElement os) (.hasAnyElement os')
  | hasAllElements {os os' : List Operand} :
      List.Forall₂ Operand.Alike os os' → Alike (.hasAllElements os) (.hasAllElements os')
  | hasKey {o o' : Operand} : o.Alike o' → Alike (.hasKey o) (.hasKey o')
  | hasValue {o o' : Operand} : o.Alike o' → Alike (.hasValue o) (.hasValue o')
  | hasEntry {k k' o o' : Operand} :
      k.Alike k' → o.Alike o' → Alike (.hasEntry k o) (.hasEntry k' o')
  | hasAllEntries {ps qs : List (Operand × Operand)} :
      Operand.AlikePairs ps qs → Alike (.hasAllEntries ps) (.hasAllEntries qs)
  | hasAnyEntry {ps qs : List (Operand × Operand)} :
      Operand.AlikePairs ps qs → Alike (.hasAnyEntry ps) (.hasAnyEntry qs)
  | sizeIs (n : Nat) : Alike (.sizeIs n) (.sizeIs n)
  | sizeAbove (n : Nat) : Alike (.sizeAbove n) (.sizeAbove n)
  | sizeBelow (n : Nat) : Alike (.sizeBelow n) (.sizeBelow n)

variable {c c' : Condition} {v v' : Value} {o o' : Operand}

theorem isEqual_eq_of_alike (hv : v.Alike v') (ho : o.Alike o') : isEqual v o = isEqual v' o' := by
  unfold isEqual
  rw [Value.equals_eq_of_alike hv ho.toValue]

theorem any_isEqual_eq_of_alike (ho : o.Alike o') {xs ys : List Value}
    (h : List.Forall₂ Value.Alike xs ys) : xs.any (isEqual · o) = ys.any (isEqual · o') :=
  any_eq_of_forall₂ h fun _ _ hv => isEqual_eq_of_alike hv ho

theorem elementEquals_eq_of_alike (hv : v.Alike v') (ho : o.Alike o') (ignoreCase : Bool) :
    elementEquals v o ignoreCase = elementEquals v' o' ignoreCase := by
  have hequal := isEqual_eq_of_alike hv ho
  cases ignoreCase with
  | false => exact hequal
  | true =>
      -- only two texts are compared without letter case, and they are the same on both sides
      cases hv with
      | string s => cases ho <;> first | rfl | exact hequal
      | _ => exact hequal

theorem entryMatches_eq_of_alike {xs ys : List (Value × Value)} (h : Value.AlikeEntries xs ys)
    {k k' : Operand} (hk : k.Alike k') (ho : o.Alike o') :
    entryMatches xs k o = entryMatches ys k' o' :=
  any_eq_of_rel (Value.lookup_of_alike hk.toValue h) fun _ _ hv => isEqual_eq_of_alike hv ho

theorem testConcrete_eq_of_alike_sequence (hc : c.Alike c') {xs ys : List Value}
    (h : List.Forall₂ Value.Alike xs ys) :
    c.testConcrete (.sequence xs) = c'.testConcrete (.sequence ys) := by
  cases hc with
  | contains ho => simp only [testConcrete, any_isEqual_eq_of_alike ho h]
  | regex r => cases r <;> rfl
  | hasElement ignoreCase ho =>
      exact any_eq_of_forall₂ h fun _ _ hv => elementEquals_eq_of_alike hv ho ignoreCase
  | hasAnyElement hos => exact any_eq_of_forall₂ hos fun _ _ ho => any_isEqual_eq_of_alike ho h
  | hasAllElements hos => exact all_eq_of_forall₂ hos fun _ _ ho => any_isEqual_eq_of_alike ho h
  | _ => rfl

theorem testConcrete_eq_of_alike_mapping (hc : c.Alike c') {xs ys : List (Value × Value)}
    (h : Value.AlikeEntries xs ys) :
    c.testConcrete (.mapping xs) = c'.testConcrete (.mapping ys) := by
  cases hc with
  | contains ho => cases ho <;> rfl
  | regex r => cases r <;> rfl
  | hasKey ho =>
      have hfound := Value.lookup_of_alike ho.toValue h
      simp only [testConcrete, ← Option.any_true]
      exact any_eq_of_rel hfound fun _ _ _ => rfl
  | hasValue ho => exact any_eq_of_forall₂ h fun _ _ he => isEqual_eq_of_alike he.2 ho
  | hasEntry hk ho => exact entryMatches_eq_of_alike h hk ho
  | hasAllEntries hps =>
      exact all_eq_of_forall₂ hps fun _ _ hp => entryMatches_eq_of_alike h hp.1 hp.2
  | hasAnyEntry hps =>
      exact any_eq_of_forall₂ hps fun _ _ hp => entryMatches_eq_of_alike h hp.1 hp.2
  | sizeIs n | sizeAbove n | sizeBelow n => simp only [testConcrete, h.length_eq]
  | _ => rfl

theorem testConcrete_eq_of_alike (hc : c.Alike c') (hv : v.Alike v') :
    c.testConcrete v = c'.testConcrete v' := by
  cases hv with
  | sequence h => exact testConcrete_eq_of_alike_sequence hc h
  | mapping hkeys hvalues => exact testConcrete_eq_of_alike_mapping hc (forall₂_pairs hkeys hvalues)
  | string s =>
      cases hc with
      | contains ho => cases ho <;> rfl
      | regex r => cases r <;> rfl
      | _ => rfl
  | _ =>
      cases hc with
      | contains ho => cases ho <;> rfl
      | regex r => cases r <;> rfl
      | _ => rfl

theorem test_eq_of_alike (hc : c.Alike c') (hv : v.Alike v') : c.test v = c'.test v' := by
  have hconcrete : v.deref.any c.testConcrete = v'.deref.any c'.testConcrete := by
    rcases rel_cases hv.deref with ⟨hnone, hnone'⟩ | ⟨w, w', hw, hw', hww'⟩
    · rw [hnone, hnone']
      rfl
    · rw [hw, hw']
      exact testConcrete_eq_of_alike hc hww'
  cases hc with
  | compare op ho =>
      have hequals := Value.equals_eq_of_alike hv ho.toValue
      have hcompare := Value.compare_eq_of_alike hv ho.toValue
      cases op <;> simp only [test, hequals, hcompare]
  | isIn hos => exact any_eq_of_forall₂ hos fun _ _ ho => isEqual_eq_of_alike hv ho
  | isNull => exact hv.isNull_eq
  | isNotNull => exact congrArg (!·) hv.isNull_eq
  | isZero => exact Value.isZero_eq_of_alike hv
  | isNotZero => exact congrArg (!·) (Value.isZero_eq_of_alike hv)
  | _ => exact hconcrete

end Condition

/-! ## Records -/

/-- The same record but for the widths of integers in it. -/
def Record.Alike (r r' : Record) : Prop := r.rule = r'.rule ∧ Value.AlikeFields r.fields r'.fields

theorem Fields.resolve_of_alike : ∀ (segments : List String) {xs ys : Fields},
    Value.AlikeFields xs ys →
      Option.Rel Value.Alike (xs.resolve segments).toOption (ys.resolve segments).toOption
  | [], _, _, _ => .none
  | [s], xs, ys, h => by
      have hget : Option.Rel Value.Alike (xs.get? s) (ys.get? s) :=
        lookup_rel (h.imp fun _ _ hxy => ⟨hxy.1, fun _ => hxy.2⟩)
      unfold Fields.resolve
      rcases rel_cases hget with ⟨hx, hy⟩ | ⟨v, w, hx, hy, hvw⟩
      · rw [hx, hy]
        exact .none
      · rw [hx, hy]
        exact .some hvw
  | s :: next :: rest, xs, ys, h => by
      have hget : Option.Rel Value.Alike (xs.get? s) (ys.get? s) :=
        lookup_rel (h.imp fun _ _ hxy => ⟨hxy.1, fun _ => hxy.2⟩)
      unfold Fields.resolve
      rcases rel_cases hget with ⟨hx, hy⟩ | ⟨v, v', hx, hy, hv⟩
      · rw [hx, hy]
        exact .none
      rcases rel_cases hv.deref with ⟨hnone, hnone'⟩ | ⟨w, w', hw, hw', hww'⟩
      · simp only [hx, hy, hnone, hnone']
        exact .none
      simp only [hx, hy, hw, hw']
      cases hww' with
      | record rule hnames hvalues =>
          exact resolve_of_alike (next :: rest) (Value.alikeFields_of_names hnames hvalues)
      | _ => exact .none

variable {r r' : Record}

theorem Record.resolve_of_alike (hr : r.Alike r') (path : FieldPath) :
    Option.Rel Value.Alike (r.resolve path).toOption (r'.resolve path).toOption :=
  Fields.resolve_of_alike path.segments hr.2

theorem Clause.holds_eq_of_alike {c c' : Condition} (hc : c.Alike c') (hr : r.Alike r')
    (path : FieldPath) : Clause.holds ⟨path, c⟩ r = Clause.holds ⟨path, c'⟩ r' := by
  have hoption : ∀ (c : Condition) (r : Record),
      Clause.holds ⟨path, c⟩ r = (r.resolve path).toOption.any c.test := by
    intro c r
    unfold Clause.holds
    cases r.resolve path <;> rfl
  rw [hoption, hoption]
  exact any_eq_of_rel (Record.resolve_of_alike hr path) fun _ _ hv =>
    Condition.test_eq_of_alike hc hv

namespace Geo

theorem degrees?_eq (r : Record) (path : FieldPath) : degrees? r path =
    (r.resolve path).toOption.bind fun v => v.deref.bind fun v => v.asNumber?.map (·.toDouble) := by
  unfold degrees?
  cases r.resolve path <;> rfl

theorem degrees?_eq_of_alike (hr : r.Alike r') (path : FieldPath) :
    degrees? r path = degrees? r' path := by
  rw [degrees?_eq, degrees?_eq]
  refine bind_eq_of_rel (Record.resolve_of_alike hr path) fun v v' hv => ?_
  rcases rel_cases hv.deref with ⟨hnone, hnone'⟩ | ⟨w, w', hw, hw', hww'⟩
  · rw [hnone, hnone']
  rw [hw, hw']
  cases hww' with
  | number h => exact congrArg some h.toDouble_eq
  | _ => rfl

theorem Clause.holds_eq_of_alike (hr : r.Alike r') (c : Clause) : c.holds r = c.holds r' := by
  unfold holds Coordinates.locate
  rw [degrees?_eq_of_alike hr, degrees?_eq_of_alike hr]

end Geo

/-! ## Predicates -/

namespace Predicate

/-- The same predicate but for the widths of integers in operands. No test of the caller's own is
alike to one, as it may ask for the width. -/
inductive Alike : Predicate → Predicate → Prop
  | field (path : FieldPath) {c c' : Condition} :
      c.Alike c' → Alike (.field ⟨path, c⟩) (.field ⟨path, c'⟩)
  | geo (c : Geo.Clause) : Alike (.geo c) (.geo c)
  | all {ps qs : List Predicate} : List.Forall₂ Alike ps qs → Alike (.all ps) (.all qs)
  | any {ps qs : List Predicate} : List.Forall₂ Alike ps qs → Alike (.any ps) (.any qs)
  | not {p q : Predicate} : Alike p q → Alike (.not p) (.not q)

mutual

theorem holds_of_alike (hr : r.Alike r') : ∀ {p q : Predicate}, p.Alike q → p.holds r = q.holds r'
  | _, _, .field path hc => Clause.holds_eq_of_alike hc hr path
  | _, _, .geo c => Geo.Clause.holds_eq_of_alike hr c
  | .all _, .all _, .all h => by rw [holds, holds, allHold_of_alike hr h]
  | .any _, .any _, .any h => by rw [holds, holds, anyHolds_of_alike hr h]
  | .not _, .not _, .not h => by rw [holds, holds, holds_of_alike hr h]

theorem allHold_of_alike (hr : r.Alike r') : ∀ {ps qs : List Predicate},
    List.Forall₂ Alike ps qs → allHold r ps = allHold r' qs
  | [], [], .nil => rfl
  | _ :: _, _ :: _, .cons h hs => by
      rw [allHold, allHold, holds_of_alike hr h, allHold_of_alike hr hs]

theorem anyHolds_of_alike (hr : r.Alike r') : ∀ {ps qs : List Predicate},
    List.Forall₂ Alike ps qs → anyHolds r ps = anyHolds r' qs
  | [], [], .nil => rfl
  | _ :: _, _ :: _, .cons h hs => by
      rw [anyHolds, anyHolds, holds_of_alike hr h, anyHolds_of_alike hr hs]

end

/-! ## Lists of records -/

theorem holdsAt_eq_of_alike {p q : Predicate} (h : p.Alike q) {xs ys : List Record}
    (hrecords : List.Forall₂ Record.Alike xs ys) : p.holdsAt xs = q.holdsAt ys := by
  funext i
  induction hrecords generalizing i with
  | nil => rfl
  | cons hr _ ih =>
      cases i with
      | zero => exact holds_of_alike hr h
      | succ i => exact ih i

/-- Integers count by their value whatever their widths are: predicates that are the same but for
the widths of integers hold of the same records, also where the records differ in widths. -/
theorem places_eq_of_alike {p q : Predicate} (h : p.Alike q) :
    (∀ r r' : Record, r.Alike r' → p.holds r = q.holds r') ∧
    ∀ xs ys : List Record, List.Forall₂ Record.Alike xs ys → p.places xs = q.places ys := by
  refine ⟨fun r r' hr => holds_of_alike hr h, fun xs ys hrecords => ?_⟩
  rw [places_eq, places_eq, holdsAt_eq_of_alike h hrecords, hrecords.length_eq]

/-- A mapping with a key of another width, a negative number and the greatest integer of all, under
an optional. -/
theorem places_eq_of_alike_scores :
    let p : Predicate := .all [
      .onField (.parse "scores") (.hasEntry (.number (.integer ⟨.i8, 7, by decide⟩))
        (.number (.integer ⟨.i64, -3, by decide⟩))),
      .not (.onField (.parse "best") (.compare .lt (.number (.integer ⟨.i64, 9, by decide⟩))))]
    let q : Predicate := .all [
      .onField (.parse "scores") (.hasEntry (.number (.integer ⟨.u64, 7, by decide⟩))
        (.number (.integer ⟨.i8, -3, by decide⟩))),
      .not (.onField (.parse "best") (.compare .lt (.number (.integer ⟨.u8, 9, by decide⟩))))]
    let best : Value :=
      .present (.number (.integer ⟨.u64, 18446744073709551615, by decide⟩))
    let r : Record := ⟨.never, [("best", best), ("scores", .mapping
      [(.number (.integer ⟨.u16, 7, by decide⟩), .number (.integer ⟨.i16, -3, by decide⟩))])]⟩
    let r' : Record := ⟨.never, [("best", best), ("scores", .mapping
      [(.number (.integer ⟨.i64, 7, by decide⟩), .number (.integer ⟨.i32, -3, by decide⟩))])]⟩
    p.Alike q ∧ r.Alike r' ∧ p.holds r = true ∧ p.holds r = q.holds r' ∧
      p.places [r, r] = q.places [r', r'] := by
  intro p q best r r'
  have hoperand : ∀ {m n : Sized}, m.value = n.value →
      (Operand.number (.integer m)).Alike (.number (.integer n)) := fun h => .number (.integer h)
  have hvalue : ∀ {m n : Sized}, m.value = n.value →
      (Value.number (.integer m)).Alike (.number (.integer n)) := fun h => .number (.integer h)
  have hp : p.Alike q := .all (.cons (.field _ (.hasEntry (hoperand rfl) (hoperand rfl)))
    (.cons (.not (.field _ (.compare .lt (hoperand rfl)))) .nil))
  have hr : r.Alike r' := ⟨rfl, .cons ⟨rfl, .present (hvalue rfl)⟩
    (.cons ⟨rfl, .mapping (.cons (hvalue rfl) .nil) (.cons (hvalue rfl) .nil)⟩ .nil)⟩
  obtain ⟨hholds, hplaces⟩ := places_eq_of_alike hp
  exact ⟨hp, hr, by decide +kernel, hholds r r' hr, hplaces _ _ (.cons hr (.cons hr .nil))⟩

end Predicate

end RecordQuery
