import RecordQuery.Path

/-!
# Paths in two parts

Resolution goes from field to field: `Value.follow` takes a field along the segments that come after
it, and a path is its first field followed along the other segments (`Fields.resolve_cons`).
Following two lists of segments is following the first, and from the last field that it meets the
second (`Value.follow_append`). So a path in two parts resolves like its second part in the record
that the first part leads to (`Record.resolve_append`).
-/

namespace RecordQuery

def Fields.member (fields : Fields) (name : String) : Except FieldError Value :=
  match fields.get? name with
  | none => .error (.notFound name)
  | some v => .ok v

namespace Value

/-- The fields of the record that a named field holds, under any optionals. -/
def inside (name : String) (v : Value) : Except FieldError Fields :=
  match v.deref with
  | none => .error (.nilReference name)
  | some (.record _ inner) => .ok inner
  | some other => .error (.notComposite name other.kindName)

/-- The value at the end of the segments that come after a named field. -/
def follow (name : String) (v : Value) : List String → Except FieldError Value
  | [] => .ok v
  | s :: rest => v.inside name >>= fun inner => inner.member s >>= fun w => w.follow s rest

variable {name : String} {v : Value}

theorem inside_bind {α : Type} (f : Fields → Except FieldError α) : v.inside name >>= f =
    match v.deref with
    | none => .error (.nilReference name)
    | some (.record _ inner) => f inner
    | some other => .error (.notComposite name other.kindName) := by
  unfold inside
  cases v.deref with
  | none => rfl
  | some w => cases w <;> rfl

end Value

/-- A path is its first field, followed along the other segments. -/
theorem Fields.resolve_cons {fields : Fields} (s : String) (rest : List String) :
    fields.resolve (s :: rest) = fields.member s >>= fun v => v.follow s rest := by
  induction rest generalizing fields s with
  | nil =>
      rw [resolve, member]
      cases fields.get? s <;> rfl
  | cons next rest ih =>
      rw [resolve, member]
      cases fields.get? s with
      | none => rfl
      | some v =>
          change _ = v.inside s >>= fun inner => inner.member next >>= fun w => w.follow next rest
          dsimp only
          rw [Value.inside_bind]
          cases v.deref with
          | none => rfl
          | some w =>
              cases w with
              | record rule inner => exact ih next
              | _ => rfl

namespace Value

variable {name : String} {v : Value}

theorem follow_append (p q : List String) : v.follow name (p ++ q) =
    v.follow name p >>= fun w => w.follow ((name :: p).getLast (List.cons_ne_nil name p)) q := by
  induction p generalizing name v with
  | nil => rfl
  | cons s p ih => simp only [List.cons_append, follow, bind_assoc, ih, List.getLast_cons_cons]

/-- Following segments from a field is resolving them in the record that the field holds. -/
theorem follow_eq_inside_bind {q : List String} (hq : q ≠ []) :
    v.follow name q = v.inside name >>= fun inner => inner.resolve q := by
  obtain ⟨s, rest, rfl⟩ := List.exists_cons_of_ne_nil hq
  simp only [follow, Fields.resolve_cons]

end Value

/-- A path in two parts resolves like its second part in the record that the first part leads to. If
the first part does not lead to a record, the error is that of the first part, or it names the last
segment of the first part. -/
theorem Record.resolve_append (r : Record) {p q : List String} (hp : p ≠ []) (hq : q ≠ []) :
    r.fields.resolve (p ++ q) =
      match r.fields.resolve p with
      | .error e => .error e
      | .ok v =>
        match v.deref with
        | none => .error (.nilReference (p.getLast hp))
        | some (.record _ inner) => Fields.resolve inner q
        | some other => .error (.notComposite (p.getLast hp) other.kindName) := by
  obtain ⟨s, rest, rfl⟩ := List.exists_cons_of_ne_nil hp
  simp only [List.cons_append, Fields.resolve_cons s, Value.follow_append, ← bind_assoc]
  cases r.fields.member s >>= fun v => v.follow s rest with
  | error e => rfl
  | ok v => exact (Value.follow_eq_inside_bind hq).trans (Value.inside_bind _)

/-- The second part of a path in the record under two optionals, in a null, and in a number. -/
theorem Record.resolve_append_home :
    let home : Value := .record .never [("city", .string "Recife"), ("zone", .present .null),
      ("floor", .number (.integer ⟨.u8, 7, by decide⟩))]
    let r : Record := ⟨.never, [("person", .record .never [("home", .present (.present home))])]⟩
    ["person", "home"] ≠ [] ∧ ["city"] ≠ [] ∧
      r.fields.resolve (["person", "home"] ++ ["city"]) = .ok (.string "Recife") ∧
      r.fields.resolve (["person", "home", "zone"] ++ ["name"]) = .error (.nilReference "zone") ∧
      r.fields.resolve (["person", "home", "floor"] ++ ["name", "x"]) =
        .error (.notComposite "floor" "u8") := by
  intro home r
  have hne : ["person", "home"] ≠ [] ∧ ["city"] ≠ [] := by decide
  refine ⟨hne.1, hne.2, ?_, ?_, ?_⟩
  · rw [r.resolve_append hne.1 hne.2]
    rfl
  · rw [r.resolve_append (List.cons_ne_nil _ _) (List.cons_ne_nil _ _)]
    rfl
  · rw [r.resolve_append (List.cons_ne_nil _ _) (List.cons_ne_nil _ _)]
    rfl

end RecordQuery
