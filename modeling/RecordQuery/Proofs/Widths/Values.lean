import RecordQuery.Proofs.Equality
import RecordQuery.Proofs.Related

/-!
# Integers of other widths

Values are alike when they are the same but for the widths of the integers in them
(`Value.Alike`). The order and the equality of values go by what integers are worth, so alike values
compare alike (`compare_eq_of_alike`, `equals_eq_of_alike`) and are found under alike keys
(`lookup_of_alike`).
-/

namespace RecordQuery

/-! ## Numbers -/

namespace Number

/-- The same number, or integers of one value whose widths may differ. -/
inductive Alike : Number → Number → Prop
  | integer {m n : Sized} : m.value = n.value → Alike (.integer m) (.integer n)
  | single (x : Binary .single) : Alike (.single x) (.single x)
  | double (x : Binary .double) : Alike (.double x) (.double x)

variable {m m' n n' : Number}

theorem Alike.toDouble_eq (h : m.Alike m') : m.toDouble = m'.toDouble := by
  cases h with
  | integer h => exact congrArg (Binary.ofInt .double) h
  | single x => rfl
  | double x => rfl

theorem Alike.toSingle_eq (h : m.Alike m') : m.toSingle = m'.toSingle := by
  cases h with
  | integer h => exact congrArg (fun n => (Binary.ofInt .double n).convert .single) h
  | single x => rfl
  | double x => rfl

theorem Alike.isZero_eq (h : m.Alike m') : m.isZero = m'.isZero := by
  cases h with
  | integer h => exact congrArg (· == (0 : Int)) h
  | single x => rfl
  | double x => rfl

theorem compare_eq_of_alike (hm : m.Alike m') (hn : n.Alike n') :
    m.compare n = m'.compare n' := by
  have hdm := hm.toDouble_eq
  have hdn := hn.toDouble_eq
  have hsm := hm.toSingle_eq
  have hsn := hn.toSingle_eq
  cases hm with
  | integer hm =>
      cases hn with
      | integer hn => simp only [compare, hm, hn]
      | single y => simp only [compare, hsm]
      | double y => simp only [compare, hdm]
  | single x => simp only [compare, hsn]
  | double x =>
      cases hn with
      | integer hn => simp only [compare, hdn]
      | single y => rfl
      | double y => rfl

end Number

/-! ## Values -/

namespace Value

/-- The same value but for the widths of integers, at any depth. -/
inductive Alike : Value → Value → Prop
  | string (s : String) : Alike (.string s) (.string s)
  | number {m n : Number} : m.Alike n → Alike (.number m) (.number n)
  | bool (b : Bool) : Alike (.bool b) (.bool b)
  | timestamp (t : Instant) : Alike (.timestamp t) (.timestamp t)
  | sequence {xs ys : List Value} : List.Forall₂ Alike xs ys → Alike (.sequence xs) (.sequence ys)
  | mapping {xs ys : List (Value × Value)} :
      List.Forall₂ Alike (xs.map Prod.fst) (ys.map Prod.fst) →
      List.Forall₂ Alike (xs.map Prod.snd) (ys.map Prod.snd) →
      Alike (.mapping xs) (.mapping ys)
  | null : Alike .null .null
  | present {v w : Value} : Alike v w → Alike (.present v) (.present w)
  | record (rule : ZeroRule) {xs ys : List (String × Value)} :
      xs.map Prod.fst = ys.map Prod.fst →
      List.Forall₂ Alike (xs.map Prod.snd) (ys.map Prod.snd) →
      Alike (.record rule xs) (.record rule ys)

abbrev AlikeEntries : List (Value × Value) → List (Value × Value) → Prop :=
  List.Forall₂ fun x y => x.1.Alike y.1 ∧ x.2.Alike y.2

abbrev AlikeFields : Fields → Fields → Prop :=
  List.Forall₂ fun x y => x.1 = y.1 ∧ x.2.Alike y.2

theorem alikeFields_of_names {xs ys : Fields} (hnames : xs.map Prod.fst = ys.map Prod.fst)
    (hvalues : List.Forall₂ Alike (xs.map Prod.snd) (ys.map Prod.snd)) : AlikeFields xs ys :=
  forall₂_pairs (List.forall₂_eq_eq_eq ▸ hnames) hvalues

section

variable {a a' b b' v v' : Value}

theorem Alike.deref (h : v.Alike v') : Option.Rel Alike v.deref v'.deref := by
  fun_induction Value.deref v generalizing v' with
  | case1 =>
      cases h
      exact .none
  | case2 v ih =>
      cases h with
      | @present _ w h =>
          rw [deref_present w]
          exact ih h
  | case3 v hnull hpresent =>
      cases h with
      | null => exact absurd rfl hnull
      | present h => exact absurd rfl (hpresent _)
      | _ => exact .some (by constructor <;> assumption)

theorem Alike.isNull_eq (h : v.Alike v') : v.isNull = v'.isNull := by cases h <;> rfl

theorem compareConcrete_eq_of_alike (ha : a.Alike a') (hb : b.Alike b') :
    a.compareConcrete b = a'.compareConcrete b' := by
  cases ha with
  | number hm =>
      cases hb with
      | number hn => exact Number.compare_eq_of_alike hm hn
      | _ => rfl
  | _ => cases hb <;> rfl

theorem compare_eq_of_alike (ha : a.Alike a') (hb : b.Alike b') : a.compare b = a'.compare b' := by
  unfold compare
  rcases rel_cases ha.deref with ⟨hnone, hnone'⟩ | ⟨x, x', hx, hx', hxx'⟩
  · rw [hnone, hnone']
    rfl
  rcases rel_cases hb.deref with ⟨hnone, hnone'⟩ | ⟨y, y', hy, hy', hyy'⟩
  · rw [hx, hx', hnone, hnone']
    rfl
  · rw [hx, hx', hy, hy']
    exact compareConcrete_eq_of_alike hxx' hyy'

end

/-! ## Equality -/

mutual

theorem equals_eq_of_alike {a a' b b' : Value} (ha : a.Alike a') (hb : b.Alike b') :
    a.equals b = a'.equals b' := by
  rw [equals_eq a, equals_eq a']
  rcases rel_cases ha.deref with ⟨hnone, hnone'⟩ | ⟨x, x', hx, hx', hxx'⟩
  · rw [hnone, hnone']
    rcases rel_cases hb.deref with ⟨hnone, hnone'⟩ | ⟨y, y', hy, hy', -⟩
    · rw [hnone, hnone']
    · rw [hy, hy']
  rcases rel_cases hb.deref with ⟨hnone, hnone'⟩ | ⟨y, y', hy, hy', hyy'⟩
  · rw [hx, hx', hnone, hnone']
  rw [hx, hx', hy, hy']
  have hcompare := compareConcrete_eq_of_alike hxx' hyy'
  cases hxx' with
  | sequence hxs =>
      cases hyy' with
      | sequence hys =>
          show (if _ then _ else _) = (if _ then _ else _)
          rw [hxs.length_eq, hys.length_eq, equalItems_eq_of_alike hxs hys]
      | _ => rfl
  | mapping hkeys hvalues =>
      cases hyy' with
      | mapping hkeys' hvalues' =>
          have hxs := forall₂_pairs hkeys hvalues
          have hys := forall₂_pairs hkeys' hvalues'
          show (if _ then _ else _) = (if _ then _ else _)
          rw [hxs.length_eq, hys.length_eq, equalEntries_eq_of_alike hxs hys]
      | _ => rfl
  | _ => cases hyy' <;> first | rfl | exact congrArg (Option.map (· == .eq)) hcompare
termination_by sizeOf a + sizeOf b
decreasing_by
  all_goals
    have h₁ := sizeOf_deref_le hx
    have h₂ := sizeOf_deref_le hy
    simp only [sequence.sizeOf_spec, mapping.sizeOf_spec] at h₁ h₂
    omega

theorem equalItems_eq_of_alike : ∀ {xs xs' ys ys' : List Value}, List.Forall₂ Alike xs xs' →
    List.Forall₂ Alike ys ys' → equalItems xs ys = equalItems xs' ys'
  | [], [], _, _, .nil, _ => by simp [equalItems]
  | _ :: _, _ :: _, [], [], .cons _ _, .nil => by simp [equalItems]
  | x :: xs, x' :: xs', y :: ys, y' :: ys', .cons hx hxs, .cons hy hys => by
      rw [equalItems, equalItems, equals_eq_of_alike hx hy, equalItems_eq_of_alike hxs hys]
termination_by xs _ ys => sizeOf xs + sizeOf ys

theorem equalEntries_eq_of_alike : ∀ {xs xs' ys ys' : List (Value × Value)}, AlikeEntries xs xs' →
    AlikeEntries ys ys' → equalEntries xs ys = equalEntries xs' ys'
  | [], [], _, _, .nil, _ => by simp [equalEntries]
  | (k, v) :: xs, (k', v') :: xs', ys, ys', .cons h hxs, hys => by
      rw [equalEntries, equalEntries, equalEntry_eq_of_alike hys h.1 h.2,
        equalEntries_eq_of_alike hxs hys]
termination_by xs _ ys => sizeOf xs + sizeOf ys

theorem equalEntry_eq_of_alike : ∀ {ys ys' : List (Value × Value)} {k k' v v' : Value},
    AlikeEntries ys ys' → k.Alike k' → v.Alike v' → equalEntry ys k v = equalEntry ys' k' v'
  | [], [], _, _, _, _, .nil, _, _ => by simp [equalEntry]
  | (l, w) :: ys, (l', w') :: ys', k, k', v, v', .cons h hys, hk, hv => by
      rw [equalEntry, equalEntry, equals_eq_of_alike h.1 hk, equals_eq_of_alike hv h.2,
        equalEntry_eq_of_alike hys hk hv]
termination_by ys _ k _ v => sizeOf ys + sizeOf k + sizeOf v

end

theorem lookup_of_alike {key key' : Value} (hkey : key.Alike key') :
    ∀ {xs ys : List (Value × Value)}, AlikeEntries xs ys →
      Option.Rel Alike (lookup xs key) (lookup ys key')
  | [], [], .nil => .none
  | (k, v) :: xs, (l, w) :: ys, .cons h hs => by
      have hequal : k.equals key = l.equals key' := equals_eq_of_alike h.1 hkey
      have ih := lookup_of_alike hkey hs
      unfold lookup at ih ⊢
      simp only [List.find?_cons, hequal]
      cases l.equals key' == some true with
      | true => exact .some h.2
      | false => exact ih

/-! ## Zero -/

mutual

theorem isZero_eq_of_alike : ∀ {v v' : Value}, v.Alike v' → v.isZero = v'.isZero
  | _, _, .string _ | _, _, .bool _ | _, _, .timestamp _ | _, _, .null | _, _, .present _ => rfl
  | _, _, .number h => h.isZero_eq
  | _, _, .sequence .nil | _, _, .sequence (.cons _ _) => rfl
  | .mapping [], .mapping [], .mapping _ _ => rfl
  | .mapping (_ :: _), .mapping (_ :: _), .mapping _ _ => rfl
  | .record .never _, _, .record _ _ _ => by simp [isZero]
  | .record .allFields xs, .record _ ys, .record _ hnames hvalues => by
      rw [isZero, isZero, fieldsAreZero_eq_of_alike (alikeFields_of_names hnames hvalues)]

theorem fieldsAreZero_eq_of_alike : ∀ {xs ys : Fields}, AlikeFields xs ys →
    fieldsAreZero xs = fieldsAreZero ys
  | [], [], .nil => rfl
  | (_, v) :: xs, (_, w) :: ys, .cons h hs => by
      rw [fieldsAreZero, fieldsAreZero, isZero_eq_of_alike h.2, fieldsAreZero_eq_of_alike hs]

end

end Value

end RecordQuery
