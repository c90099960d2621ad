import RecordQuery.Proofs.Comparison
import RecordQuery.Proofs.Equality

/-!
# Symmetry of the comparison

Comparing the other way round reverses the order of two values and leaves their equality as it is,
as long as no mapping stands in them (`equals_comm`). A value without mappings, records and
undefined numbers is equal to itself (`equals_self`). Both equalities go item by item through
sequences, whatever is known of the items (`equalItems_comm`, `equalItems_self`).
-/

namespace RecordQuery.Value

/-! ## What stands in a value -/

/-- The value `w` is the value or stands somewhere in it. -/
inductive Occurs (w : Value) : Value → Prop
  | here : Occurs w w
  | present {v : Value} : Occurs w v → Occurs w (.present v)
  | item {v : Value} {items : List Value} : v ∈ items → Occurs w v → Occurs w (.sequence items)
  | key {e : Value × Value} {entries : List (Value × Value)} : e ∈ entries → Occurs w e.1 →
      Occurs w (.mapping entries)
  | value {e : Value × Value} {entries : List (Value × Value)} : e ∈ entries → Occurs w e.2 →
      Occurs w (.mapping entries)
  | field {f : String × Value} {rule : ZeroRule} {fields : Fields} : f ∈ fields → Occurs w f.2 →
      Occurs w (.record rule fields)

/-- No value of a class stands in the value, at any depth. -/
def Lacks (v : Value) (P : Value → Prop) : Prop := ∀ w, Occurs w v → ¬ P w

def IsMapping (v : Value) : Prop := ∃ entries, v = mapping entries

def IsRecord (v : Value) : Prop := ∃ rule fields, v = record rule fields

def IsUndefined (v : Value) : Prop := ∃ n, v = number n ∧ n.isNaN = true

variable {P : Value → Prop} {v : Value}

theorem Lacks.self (h : v.Lacks P) : ¬ P v := h v .here

@[simp] theorem lacks_sequence_iff {items : List Value} :
    (sequence items).Lacks P ↔ ¬ P (sequence items) ∧ ∀ v ∈ items, v.Lacks P := by
  refine ⟨fun h => ⟨h.self, fun v hv w hw => h w (.item hv hw)⟩, ?_⟩
  rintro ⟨hself, hitems⟩ w (_ | _ | ⟨hv, hw⟩)
  · exact hself
  · exact hitems _ hv w hw

@[simp] theorem lacks_present_iff : (present v).Lacks P ↔ ¬ P (present v) ∧ v.Lacks P := by
  refine ⟨fun h => ⟨h.self, fun w hw => h w (.present hw)⟩, ?_⟩
  rintro ⟨hself, hv⟩ w (_ | hw)
  · exact hself
  · exact hv w hw

@[simp] theorem lacks_null_iff : null.Lacks P ↔ ¬ P null :=
  ⟨Lacks.self, fun h _ hw => by cases hw; exact h⟩

theorem IsScalar.lacks_iff (hv : v.IsScalar) : v.Lacks P ↔ ¬ P v :=
  ⟨Lacks.self, fun h _ hw => by cases hv <;> cases hw <;> exact h⟩

theorem occurs_of_deref {w x : Value} (hx : v.deref = some x) (h : Occurs w x) : Occurs w v := by
  fun_induction Value.deref v with
  | case1 => cases hx
  | case2 v ih => exact .present (ih hx)
  | case3 v => exact Option.some.inj hx ▸ h

theorem Lacks.deref {x : Value} (h : v.Lacks P) (hx : v.deref = some x) : x.Lacks P :=
  fun w hw => h w (occurs_of_deref hx hw)

/-! ## Items -/

theorem equalItems_comm : ∀ {xs ys : List Value}, (∀ x ∈ xs, ∀ y ∈ ys, y.equals x = x.equals y) →
    equalItems ys xs = equalItems xs ys
  | [], [], _ => rfl
  | [], _ :: _, _ => by simp [equalItems]
  | _ :: _, [], _ => by simp [equalItems]
  | x :: xs, y :: ys, h => by
      have hrest : equalItems ys xs = equalItems xs ys := equalItems_comm fun x hx y hy =>
        h x (List.mem_cons_of_mem _ hx) y (List.mem_cons_of_mem _ hy)
      rw [equalItems, equalItems, h x List.mem_cons_self y List.mem_cons_self, hrest]

theorem equalItems_self : ∀ {xs : List Value}, (∀ x ∈ xs, x.equals x = some true) →
    equalItems xs xs = some true
  | [], _ => by simp [equalItems]
  | x :: xs, h => by
      obtain ⟨hx, hxs⟩ := List.forall_mem_cons.1 h
      rw [equalItems, hx]
      exact equalItems_self hxs

/-! ## Symmetry -/

theorem map_beq_eq_compareConcrete_comm (x y : Value) :
    (y.compareConcrete x).map (· == .eq) = (x.compareConcrete y).map (· == .eq) := by
  rw [← compareConcrete_swap x y, Option.map_map]
  exact congrArg (fun f => (x.compareConcrete y).map f) (funext fun o => by cases o <;> rfl)

theorem equals_comm (a b : Value) (ha : a.Lacks IsMapping) (hb : b.Lacks IsMapping) :
    b.equals a = a.equals b := by
  rw [equals_eq b, equals_eq a]
  cases hx : a.deref with
  | none => cases b.deref <;> rfl
  | some x =>
      cases hy : b.deref with
      | none => rfl
      | some y =>
          have hax := ha.deref hx
          have hby := hb.deref hy
          have hscalar := map_beq_eq_compareConcrete_comm x y
          cases x with
          | mapping xs => exact absurd ⟨xs, rfl⟩ hax.self
          | sequence xs =>
              cases y with
              | mapping ys => exact absurd ⟨ys, rfl⟩ hby.self
              | sequence ys =>
                  have hitems : equalItems ys xs = equalItems xs ys := equalItems_comm
                    fun x hmem y hmem' => equals_comm x y ((lacks_sequence_iff.1 hax).2 x hmem)
                      ((lacks_sequence_iff.1 hby).2 y hmem')
                  show (if _ then _ else _) = (if _ then _ else _)
                  rw [hitems]
                  exact if_congr eq_comm rfl rfl
              | _ => exact hscalar
          | _ =>
              cases y with
              | mapping ys => exact absurd ⟨ys, rfl⟩ hby.self
              | _ => exact hscalar
termination_by sizeOf a + sizeOf b
decreasing_by
  have hsize := sizeOf_deref_le hx
  have hsize' := sizeOf_deref_le hy
  have hlt := List.sizeOf_lt_of_mem hmem
  have hlt' := List.sizeOf_lt_of_mem hmem'
  simp only [sequence.sizeOf_spec] at hsize hsize'
  omega

/-! ## Reflexivity -/

theorem equals_self (a : Value) (hm : a.Lacks IsMapping) (hr : a.Lacks IsRecord)
    (hu : a.Lacks IsUndefined) : a.equals a = some true := by
  rw [equals_eq]
  cases hx : a.deref with
  | none => rfl
  | some x =>
      have hmx := hm.deref hx
      have hrx := hr.deref hx
      have hux := hu.deref hx
      cases x with
      | string s => simp [compareConcrete, Text.compareBytes_self]
      | number n =>
          have hn : n.isNaN = false := Bool.eq_false_iff.2 fun h => hux.self ⟨n, rfl, h⟩
          simp [compareConcrete, Number.compare_self hn]
      | bool b => cases b <;> rfl
      | timestamp t => simp [compareConcrete, Instant.compare_self]
      | sequence xs =>
          show (if _ then _ else _) = _
          rw [if_pos rfl]
          obtain ⟨-, hms⟩ := lacks_sequence_iff.1 hmx
          obtain ⟨-, hrs⟩ := lacks_sequence_iff.1 hrx
          obtain ⟨-, hus⟩ := lacks_sequence_iff.1 hux
          exact equalItems_self fun x hmem =>
            equals_self x (hms x hmem) (hrs x hmem) (hus x hmem)
      | mapping xs => exact absurd ⟨xs, rfl⟩ hmx.self
      | record rule fields => exact absurd ⟨rule, fields, rfl⟩ hrx.self
      | null => exact (isConcrete_of_deref hx).elim
      | present v => exact (isConcrete_of_deref hx).elim
termination_by sizeOf a
decreasing_by
  have hsize := sizeOf_deref_le hx
  have hlt := List.sizeOf_lt_of_mem hmem
  simp only [sequence.sizeOf_spec] at hsize
  omega

/-! ## Both together -/

/-- The order of any two values is reversed when they change places. Their equality stays if no
mapping stands in them, and a value without mappings, records and undefined numbers is equal to
itself. -/
theorem compare_and_equals_reversed :
    (∀ a b : Value, b.compare a = (a.compare b).map Ordering.swap) ∧
    (∀ a b : Value, a.Lacks IsMapping → b.Lacks IsMapping → b.equals a = a.equals b) ∧
    ∀ a : Value, a.Lacks IsMapping → a.Lacks IsRecord → a.Lacks IsUndefined →
      a.equals a = some true :=
  ⟨fun a b => (compare_swap a b).symm, equals_comm, equals_self⟩

/-- An optional integer next to a double and a text next to an instant: the items are equal up to
the last ones, which differ. -/
theorem compare_and_equals_reversed_items :
    let a : Value := .sequence [
      .present (.number (.integer ⟨.u8, 3, by decide⟩)), .string "2024-03-01",
      .sequence [.null, .bool true]]
    let b : Value := .sequence [
      .number (.double (.ofInt .double 3)),
      .timestamp ⟨1709251200, 0, by decide, by decide, by decide, by decide⟩,
      .sequence [.null, .bool false]]
    a.Lacks IsMapping ∧ a.Lacks IsRecord ∧ a.Lacks IsUndefined ∧ b.Lacks IsMapping ∧
      a.equals b = some false ∧ b.equals a = some false ∧ a.equals a = some true := by
  intro a b
  have hscalar := @IsScalar.lacks_iff
  have hm : a.Lacks IsMapping ∧ b.Lacks IsMapping := by
    simp [a, b, hscalar, IsScalar.number, IsScalar.string, IsScalar.bool, IsScalar.timestamp,
      IsMapping]
  have hr : a.Lacks IsRecord := by
    simp [a, hscalar, IsScalar.number, IsScalar.string, IsScalar.bool, IsRecord]
  have hu : a.Lacks IsUndefined := by
    simp [a, hscalar, IsScalar.number, IsScalar.string, IsScalar.bool, IsUndefined, Number.isNaN]
  have hthree : compareConcrete (.number (.integer ⟨.u8, 3, by decide⟩))
      (.number (.double (.ofInt .double 3))) = some .eq := by decide +kernel
  have hdate : compareConcrete (.string "2024-03-01")
      (.timestamp ⟨1709251200, 0, by decide, by decide, by decide, by decide⟩) = some .eq := by
    decide +kernel
  have hlast : compareConcrete (.bool true) (.bool false) = some .gt := rfl
  have hab : a.equals b = some false := by
    simp [a, b, equals_eq, deref, equalItems, hthree, hdate, hlast]
  obtain ⟨-, hcomm, hself⟩ := compare_and_equals_reversed
  exact ⟨hm.1, hr, hu, hm.2, hab, (hcomm a b hm.1 hm.2).trans hab, hself a hm.1 hr hu⟩

end RecordQuery.Value
