import RecordQuery.Comparison
import RecordQuery.Proofs.Number

/-!
# The comparison of values

Comparing the other way round reverses the answer, whatever the values are (`compare_swap`). The
comparisons of texts, of truth values and of instants are transitive; that of numbers is not
(`Number.compare_trans_or_blurs`).
-/

namespace RecordQuery

/-! ## Transitive comparisons -/

instance : Std.TransCmp Text.compareBytes :=
  inferInstanceAs (Std.TransCmp (compareOn Text.bytes))

instance : Std.TransCmp Instant.compare :=
  inferInstanceAs (Std.TransCmp (compareLex (compareOn Instant.seconds) (compareOn Instant.nanos)))

instance : Std.TransCmp compareBools where
  eq_swap := by decide
  isLE_trans := by decide

theorem ne_gt_trans {α : Type} (cmp : α → α → Ordering) [Std.TransCmp cmp] {a b c : α}
    (hab : cmp a b ≠ .gt) (hbc : cmp b c ≠ .gt) : cmp a c ≠ .gt := by
  rw [ne_eq, Ordering.ne_gt_iff_isLE] at hab hbc ⊢
  exact Std.TransCmp.isLE_trans hab hbc

/-! ## The reverse comparison -/

theorem map_swap {α : Type} {f g : α → Ordering} (h : ∀ x, (f x).swap = g x) (o : Option α) :
    (o.map f).map Ordering.swap = o.map g := by
  rw [Option.map_map]
  exact congrArg (o.map ·) (funext h)

namespace Value

theorem compareConcrete_swap (a b : Value) :
    (a.compareConcrete b).map Ordering.swap = b.compareConcrete a := by
  cases a <;> cases b <;> first
    | rfl
    | exact Number.compare_swap _ _
    | exact congrArg some (Text.compareBytes_swap _ _)
    | exact congrArg some (Instant.compare_swap _ _)
    | exact congrArg some Std.OrientedCmp.eq_swap.symm
    | exact map_swap (fun s => Instant.compare_swap _ s) _
    | exact map_swap (fun s => Instant.compare_swap s _) _

theorem compare_swap (a b : Value) : (a.compare b).map Ordering.swap = b.compare a := by
  unfold compare
  cases a.deref with
  | none => cases b.deref <;> rfl
  | some x =>
      cases b.deref with
      | none => rfl
      | some y => exact compareConcrete_swap x y

end Value

end RecordQuery
