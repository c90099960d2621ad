import RecordQuery.Order
import RecordQuery.Proofs.Comparison

/-!
# The order of sort keys

Every key is equal to itself, and comparing the other way round reverses the order. The order goes
through a key in the middle with one exception: a number in a coarse format that two numbers of
finer formats become equal to by rounding, although they differ (`compareKeys_preorder`). Keys of
one kind are compared within the kind, and among the kinds only numbers have the exception
(`compareWithin_trans_or_blurs`).
-/

namespace RecordQuery.Order

/-! ## Keys of one kind -/

inductive SameKind : Value → Value → Prop where
  | string (s t : String) : SameKind (.string s) (.string t)
  | number (m n : Number) : m.isNaN = false → n.isNaN = false → SameKind (.number m) (.number n)
  | bool (x y : Bool) : SameKind (.bool x) (.bool y)
  | timestamp (s t : Instant) : SameKind (.timestamp s) (.timestamp t)

theorem isKey_of_key? {r : Record} {path : FieldPath} {v : Value} (h : key? r path = some v) :
    isKey v = true := by
  unfold key? at h
  split at h
  · exact absurd h (by simp)
  · exact (Option.filter_eq_some_iff.1 h).2

theorem isNaN_of_isKey {n : Number} (h : isKey (.number n) = true) : n.isNaN = false := by
  simpa [isKey] using h

theorem sameKind_of_rank_eq {a b : Value} (ha : isKey a = true) (hb : isKey b = true)
    (h : rank a = rank b) : SameKind a b := by
  cases a <;> cases b <;> first
    | exact .string _ _
    | exact .number _ _ (isNaN_of_isKey ha) (isNaN_of_isKey hb)
    | exact .bool _ _
    | exact .timestamp _ _
    | exact absurd ha Bool.false_ne_true
    | exact absurd hb Bool.false_ne_true
    | simp [rank] at h

/-- The key `b` is a number that the keys `a` and `c`, numbers of finer formats, become equal to. -/
def Blurs (b a c : Option Value) : Prop :=
  ∃ l m n : Number, b = some (.number l) ∧ a = some (.number m) ∧ c = some (.number n) ∧ l.Blurs m n

theorem Blurs.symm {a b c : Option Value} (h : Blurs b a c) : Blurs b c a := by
  obtain ⟨l, m, n, hb, ha, hc, h⟩ := h
  exact ⟨l, n, m, hb, hc, ha, h.symm⟩

/-- The order within a kind; keys that do not compare would be equal. -/
def compareWithin (a b : Value) : Ordering := (a.compare b).getD .eq

theorem compareWithin_number_iff {m n : Number} (hm : m.isNaN = false) (hn : n.isNaN = false)
    {o : Ordering} : compareWithin (.number m) (.number n) = o ↔ m.compare n = some o := by
  change (m.compare n).getD .eq = o ↔ _
  rw [Number.compare_eq hm hn, Option.getD_some, Option.some.injEq]

theorem compareWithin_swap (a b : Value) : (compareWithin a b).swap = compareWithin b a := by
  unfold compareWithin
  rw [← Value.compare_swap a b]
  cases a.compare b <;> rfl

theorem compareWithin_self : ∀ {a : Value}, SameKind a a → compareWithin a a = .eq
  | _, .string s _ => Text.compareBytes_self s
  | _, .number _ _ hn _ => (compareWithin_number_iff hn hn).2 (Number.compare_self hn)
  | _, .bool x _ => by cases x <;> rfl
  | _, .timestamp t _ => Instant.compare_self t

theorem compareWithin_trans_or_blurs : ∀ {a b c : Value}, SameKind a b → SameKind b c →
    compareWithin a b ≠ .gt → compareWithin b c ≠ .gt →
    compareWithin a c ≠ .gt ∨ Blurs (some b) (some a) (some c)
  | _, _, _, .string _ _, .string _ _, hab, hbc =>
      .inl (ne_gt_trans Text.compareBytes hab hbc)
  | _, _, _, .bool _ _, .bool _ _, hab, hbc => .inl (ne_gt_trans compareBools hab hbc)
  | _, _, _, .timestamp _ _, .timestamp _ _, hab, hbc =>
      .inl (ne_gt_trans Instant.compare hab hbc)
  | _, _, _, .number m l hm hl, .number _ n _ hn, hab, hbc => by
      rw [ne_eq, compareWithin_number_iff hm hl] at hab
      rw [ne_eq, compareWithin_number_iff hl hn] at hbc
      rw [ne_eq, compareWithin_number_iff hm hn]
      exact (Number.compare_trans_or_blurs hm hl hn hab hbc).imp_right
        fun h => ⟨l, m, n, rfl, rfl, rfl, h⟩

/-! ## Keys of any kind -/

def Orderable (k : Option Value) : Prop := ∀ v ∈ k, isKey v = true

theorem orderable_key? (r : Record) (path : FieldPath) : Orderable (key? r path) :=
  fun _ hv => isKey_of_key? hv

theorem apply_swap (d : Direction) (o : Ordering) : (d.apply o).swap = d.apply o.swap := by
  cases d <;> rfl

theorem compareKeys_some (d : Direction) (a b : Value) : compareKeys d (some a) (some b) =
    d.apply ((compare (rank a) (rank b)).then (compareWithin a b)) := rfl

theorem compareKeys_swap (d : Direction) (a b : Option Value) :
    compareKeys d b a = (compareKeys d a b).swap := by
  cases a with
  | none => cases b <;> rfl
  | some a =>
      cases b with
      | none => rfl
      | some b =>
          rw [compareKeys_some, compareKeys_some, apply_swap, Ordering.swap_then,
            compareWithin_swap, ← Std.OrientedOrd.eq_swap]

theorem compareKeys_self (d : Direction) {a : Option Value} (ha : Orderable a) :
    compareKeys d a a = .eq := by
  cases a with
  | none => rfl
  | some a =>
      have hkey := ha a rfl
      rw [compareKeys_some, compareWithin_self (sameKind_of_rank_eq hkey hkey rfl),
        Std.ReflOrd.compare_self]
      cases d <;> rfl

theorem then_ne_gt_iff {m n : ℕ} {o : Ordering} :
    (compare m n).then o ≠ .gt ↔ m < n ∨ m = n ∧ o ≠ .gt := by
  rcases Nat.lt_trichotomy m n with h | rfl | h
  · simp [Nat.compare_eq_lt.2 h, h]
  · simp
  · simp [Nat.compare_eq_gt.2 h, h.not_gt, h.ne']

theorem ascending_trans_or_blurs {a b c : Value} (ha : isKey a = true) (hb : isKey b = true)
    (hc : isKey c = true) (hab : compareKeys .ascending (some a) (some b) ≠ .gt)
    (hbc : compareKeys .ascending (some b) (some c) ≠ .gt) :
    compareKeys .ascending (some a) (some c) ≠ .gt ∨ Blurs (some b) (some a) (some c) := by
  rw [compareKeys_some, Direction.apply, then_ne_gt_iff] at hab hbc
  rw [compareKeys_some, Direction.apply, then_ne_gt_iff]
  rcases hab with hab | ⟨hrank, hab⟩
  · left; omega
  rcases hbc with hbc | ⟨hrank', hbc⟩
  · left; omega
  -- all three are of one kind
  have hkind := sameKind_of_rank_eq ha hb hrank
  have hkind' := sameKind_of_rank_eq hb hc hrank'
  exact (compareWithin_trans_or_blurs hkind hkind' hab hbc).imp_left
    fun h => .inr ⟨hrank.trans hrank', h⟩

theorem compareKeys_descending (a b : Value) : compareKeys .descending (some a) (some b) =
    compareKeys .ascending (some b) (some a) := by
  rw [compareKeys_swap .ascending]
  rfl

theorem compareKeys_trans_or_blurs (d : Direction) {a b c : Option Value} (ha : Orderable a)
    (hb : Orderable b) (hc : Orderable c) (hab : compareKeys d a b ≠ .gt)
    (hbc : compareKeys d b c ≠ .gt) : compareKeys d a c ≠ .gt ∨ Blurs b a c := by
  match a, b, c with
  | none, none, _ => exact .inl hbc
  | none, some _, _ => exact absurd rfl hab
  | some _, _, none => exact .inl nofun
  | some _, none, some _ => exact absurd rfl hbc
  | some a, some b, some c =>
      cases d with
      | ascending => exact ascending_trans_or_blurs (ha a rfl) (hb b rfl) (hc c rfl) hab hbc
      | descending =>
          rw [compareKeys_descending] at hab hbc ⊢
          have h := ascending_trans_or_blurs (hc c rfl) (hb b rfl) (ha a rfl) hbc hab
          exact h.imp_right Blurs.symm

theorem Blurs.compareKeys_eq {a b c : Option Value} (h : Blurs b a c) (d : Direction)
    (ha : Orderable a) (hb : Orderable b) : compareKeys d a b = .eq := by
  obtain ⟨l, m, n, rfl, rfl, rfl, h⟩ := h
  have hm : m.isNaN = false := isNaN_of_isKey (ha _ rfl)
  have hl : l.isNaN = false := isNaN_of_isKey (hb _ rfl)
  have hwithin : compareWithin (.number m) (.number l) = .eq :=
    (compareWithin_number_iff hm hl).2 (h.compare_eq hm hl)
  rw [compareKeys_some, hwithin]
  cases d <;> rfl

/-- The keys of records are preordered in either direction, except that a key that two others
become equal to may stand between them when they are in the wrong order. -/
theorem compareKeys_preorder (d : Direction) (r₁ r₂ r₃ : Record) (p₁ p₂ p₃ : FieldPath) :
    let a := key? r₁ p₁
    let b := key? r₂ p₂
    let c := key? r₃ p₃
    compareKeys d a a = .eq ∧ compareKeys d b a = (compareKeys d a b).swap ∧
      ((compareKeys d a b ≠ .gt → compareKeys d b c ≠ .gt → compareKeys d a c ≠ .gt) ↔
        ¬ (Blurs b a c ∧ compareKeys d a c = .gt)) := by
  intro a b c
  have ha : Orderable a := orderable_key? r₁ p₁
  have hb : Orderable b := orderable_key? r₂ p₂
  have hc : Orderable c := orderable_key? r₃ p₃
  refine ⟨compareKeys_self d ha, compareKeys_swap d a b, fun htrans => ?_, fun hblurs hab hbc => ?_⟩
  · rintro ⟨hblurs, hac⟩
    have hab := hblurs.compareKeys_eq d ha hb
    have hcb := hblurs.symm.compareKeys_eq d hc hb
    have hbc : compareKeys d b c = .eq := by rw [compareKeys_swap, hcb]; rfl
    exact htrans (by rw [hab]; decide) (by rw [hbc]; decide) hac
  · rcases compareKeys_trans_or_blurs d ha hb hc hab hbc with h | h
    · exact h
    · exact fun hac => hblurs ⟨h, hac⟩

def numbered (n : Number) : Record := ⟨.never, [("n", .number n)]⟩

/-- The double `2 ^ 53` is equal to the integer above it and to the integer `2 ^ 53`, which is less
than the one above. Sorting leaves the greater integer in front. -/
theorem compareKeys_not_trans :
    let order : Order := ⟨.parse "n", .ascending⟩
    let above := numbered (.integer ⟨.i64, 9007199254740993, by decide⟩)
    let double := numbered (.double (.ofInt .double 9007199254740992))
    let exact := numbered (.integer ⟨.i64, 9007199254740992, by decide⟩)
    let a := key? above order.field
    let b := key? double order.field
    let c := key? exact order.field
    ¬ (compareKeys .ascending a b ≠ .gt → compareKeys .ascending b c ≠ .gt →
        compareKeys .ascending a c ≠ .gt) ∧
      order.sort [above, double, exact] = [above, double, exact] := by
  intro order above double exact a b c
  have hab : compareKeys .ascending a b = .eq := by decide +kernel
  have hbc : compareKeys .ascending b c = .eq := by decide +kernel
  have hac : compareKeys .ascending a c = .gt := by decide +kernel
  refine ⟨fun htrans => htrans ?_ ?_ hac, rfl⟩
  · rw [hab]; decide
  · rw [hbc]; decide

end RecordQuery.Order
