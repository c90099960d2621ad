import RecordQuery.Proofs.Path

/-!
# Paths and their texts

Parsing reaches exactly the lists of segments that are not empty and have no dot in a segment
(`exists_parse_iff`), and a path is told by its text (`display_inj`). As there is a first segment,
resolution begins at the field that it names, and an error is always about a segment of the path
(`FieldError.about_resolve`): no answer is ever given for a path without segments.
-/

namespace RecordQuery

/-! ## Segments in errors -/

namespace FieldError

def segment : FieldError → String
  | notFound segment => segment
  | nilReference segment => segment
  | notComposite segment _ => segment

/-- An error, if there is one, is about one of the segments. -/
def About {α : Type} (segments : List String) (x : Except FieldError α) : Prop :=
  ∀ e, x = .error e → e.segment ∈ segments

variable {α β : Type} {segments : List String} {name : String}

theorem About.bind {x : Except FieldError α} {f : α → Except FieldError β}
    (hx : About segments x) (hf : ∀ a, About segments (f a)) : About segments (x >>= f) := by
  cases x with
  | ok a => exact hf a
  | error e =>
      rintro e' ⟨⟩
      exact hx e rfl

theorem about_member (fields : Fields) (h : name ∈ segments) :
    About segments (fields.member name) := by
  intro e he
  unfold Fields.member at he
  split at he <;> cases he
  exact h

theorem about_inside (v : Value) (h : name ∈ segments) : About segments (v.inside name) := by
  intro e he
  unfold Value.inside at he
  split at he <;> cases he <;> exact h

theorem about_follow : ∀ {rest : List String} {name : String} (v : Value),
    (∀ s ∈ name :: rest, s ∈ segments) → About segments (v.follow name rest)
  | [], _, _, _ => by rintro _ ⟨⟩
  | s :: rest, name, v, h => by
      obtain ⟨hname, hrest⟩ := List.forall_mem_cons.1 h
      have hs := hrest s List.mem_cons_self
      exact (about_inside v hname).bind fun inner =>
        (about_member inner hs).bind fun w => about_follow w hrest

theorem about_resolve (fields : Fields) (s : String) (rest : List String) :
    About (s :: rest) (fields.resolve (s :: rest)) := by
  rw [Fields.resolve_cons]
  exact (about_member fields List.mem_cons_self).bind fun v => about_follow v fun _ => id

end FieldError

namespace FieldPath

/-! ## Segments of paths -/

theorem segments_parse_joinTexts {segments : List String} (hne : segments ≠ [])
    (hdots : ∀ s ∈ segments, '.' ∉ s.toList) :
    (parse (Text.joinTexts '.' segments)).segments = segments :=
  Text.splitText_joinTexts hne hdots

theorem exists_parse_iff {segments : List String} : (∃ text, (parse text).segments = segments) ↔
    segments ≠ [] ∧ ∀ s ∈ segments, '.' ∉ s.toList := by
  constructor
  · rintro ⟨text, rfl⟩
    exact ⟨(parse text).nonempty, (parse text).dotless⟩
  · rintro ⟨hne, hdots⟩
    exact ⟨_, segments_parse_joinTexts hne hdots⟩

theorem display_inj {p q : FieldPath} : p.display = q.display ↔ p = q := by
  constructor
  · intro h
    rw [← parse_display p, h, parse_display]
  · rintro rfl
    rfl

/-- Paths and texts stand for each other: displaying a parsed text gives it back, and so does
parsing segments that are joined by dots, if there are any and none has a dot in it. All paths are
parsed from a text, so they have such segments, and two of them are equal when their texts are.
Therefore resolution always begins at the field that the first segment names, and its errors are
about segments of the path. -/
theorem parse_faithful :
    (∀ text, (parse text).display = text) ∧
    (∀ segments : List String, segments ≠ [] → (∀ s ∈ segments, '.' ∉ s.toList) →
      (parse (Text.joinTexts '.' segments)).segments = segments) ∧
    (∀ segments : List String, (∃ text, (parse text).segments = segments) ↔
      segments ≠ [] ∧ ∀ s ∈ segments, '.' ∉ s.toList) ∧
    (∀ p : FieldPath, ∃ text, p = parse text) ∧
    (∀ (p : FieldPath) (r : Record),
      (∃ first rest, p.segments = first :: rest ∧
        r.resolve p = r.fields.member first >>= fun v => v.follow first rest) ∧
      FieldError.About p.segments (r.resolve p)) ∧
    (∀ p q : FieldPath, p = q ↔ p.display = q.display) := by
  refine ⟨display_parse, fun _ => segments_parse_joinTexts, fun _ => exists_parse_iff,
    fun p => ⟨p.display, (parse_display p).symm⟩, fun p r => ?_, fun _ _ => display_inj.symm⟩
  obtain ⟨first, rest, hsegments⟩ := List.exists_cons_of_ne_nil p.nonempty
  rw [Record.resolve, hsegments]
  exact ⟨⟨first, rest, rfl, Fields.resolve_cons first rest⟩, FieldError.about_resolve _ first rest⟩

/-- Dots at both ends and two in a row, and a null in the field whose name is empty. -/
theorem parse_faithful_dots :
    let segments := ["", "name", "", "zone", ""]
    let path := parse ".name..zone."
    let r : Record := ⟨.never, [("", .present .null)]⟩
    segments ≠ [] ∧ (∀ s ∈ segments, '.' ∉ s.toList) ∧ path.segments = segments ∧
      path.display = ".name..zone." ∧ r.resolve path = .error (.nilReference "") ∧
      (FieldError.nilReference "").segment ∈ path.segments := by
  intro segments path r
  have hne : segments ≠ [] := List.cons_ne_nil _ _
  have hdots : ∀ s ∈ segments, '.' ∉ s.toList := by decide
  have hresolve : r.resolve path = .error (.nilReference "") := rfl
  obtain ⟨hdisplay, hjoined, -, -, herrors, -⟩ := parse_faithful
  exact ⟨hne, hdots, hjoined segments hne hdots, hdisplay _, hresolve,
    (herrors path r).2 _ hresolve⟩

end FieldPath

end RecordQuery
