import RecordQuery.Proofs.Geo
import RecordQuery.Proofs.Query.Results

/-!
# Fields that cannot be resolved

A condition on a field that cannot be resolved is false, also where it asks for a difference. A
predicate without negations and tests of the caller's own is true only because of conditions that
are true, so making fields unresolvable never makes it true (`Positive.holds_of_fadesAt`), and never
brings a record into the result of a compiled query (`result_fails_closed`).
-/

namespace RecordQuery

/-- In the second record the path leads to the same value as in the first one, or nowhere. -/
def Record.FadesAt (path : FieldPath) (r r' : Record) : Prop :=
  r'.resolve path = r.resolve path ∨ ∃ e, r'.resolve path = .error e

variable {r r' : Record}

theorem Record.FadesAt.resolve_eq {path : FieldPath} (h : Record.FadesAt path r r') {v : Value}
    (hv : r'.resolve path = .ok v) : r.resolve path = .ok v := by
  rcases h with h | ⟨e, h⟩
  · rw [← h, hv]
  · rw [h] at hv
    cases hv

/-! ## Conditions -/

theorem Clause.holds_of_fadesAt {c : Clause} (h : Record.FadesAt c.path r r')
    (hr' : c.holds r' = true) : c.holds r = true := by
  obtain ⟨v, hv, htest⟩ := holds_iff.1 hr'
  exact holds_iff.2 ⟨v, h.resolve_eq hv, htest⟩

namespace Geo

theorem degrees?_of_fadesAt {path : FieldPath} {x : Binary .double} (h : Record.FadesAt path r r')
    (hx : degrees? r' path = some x) : degrees? r path = some x := by
  obtain ⟨n, ⟨v, hv, hn⟩, hx⟩ := degrees?_eq_some_iff.1 hx
  exact degrees?_eq_some_iff.2 ⟨n, ⟨v, h.resolve_eq hv, hn⟩, hx⟩

theorem Coordinates.locate_of_fadesAt {c : Coordinates} {p : Point}
    (hlat : Record.FadesAt c.lat r r') (hlng : Record.FadesAt c.lng r r')
    (hp : c.locate r' = some p) : c.locate r = some p := by
  obtain ⟨lat, hlat', hp⟩ := Option.bind_eq_some_iff.1 hp
  obtain ⟨lng, hlng', rfl⟩ := Option.map_eq_some_iff.1 hp
  rw [locate, degrees?_of_fadesAt hlat hlat', degrees?_of_fadesAt hlng hlng']
  rfl

theorem Clause.holds_of_fadesAt {c : Clause} (hlat : Record.FadesAt c.coordinates.lat r r')
    (hlng : Record.FadesAt c.coordinates.lng r r') (hr' : c.holds r' = true) :
    c.holds r = true := by
  unfold Clause.holds at hr' ⊢
  rw [Option.any_eq_true] at hr' ⊢
  obtain ⟨p, hp, hin⟩ := hr'
  exact ⟨p, Coordinates.locate_of_fadesAt hlat hlng hp, hin⟩

end Geo

/-! ## Predicates -/

namespace Predicate

/-- The predicate has neither a negation nor a test of the caller's own. -/
inductive Positive : Predicate → Prop
  | field (c : Clause) : Positive (.field c)
  | geo (c : Geo.Clause) : Positive (.geo c)
  | all {ps : List Predicate} : (∀ p ∈ ps, Positive p) → Positive (.all ps)
  | any {ps : List Predicate} : (∀ p ∈ ps, Positive p) → Positive (.any ps)

inductive Mentions (path : FieldPath) : Predicate → Prop
  | field {c : Clause} : c.path = path → Mentions path (.field c)
  | lat {c : Geo.Clause} : c.coordinates.lat = path → Mentions path (.geo c)
  | lng {c : Geo.Clause} : c.coordinates.lng = path → Mentions path (.geo c)
  | all {p : Predicate} {ps : List Predicate} : p ∈ ps → Mentions path p → Mentions path (.all ps)
  | any {p : Predicate} {ps : List Predicate} : p ∈ ps → Mentions path p → Mentions path (.any ps)
  | not {p : Predicate} : Mentions path p → Mentions path (.not p)

theorem mentions_field_iff {path : FieldPath} {c : Clause} :
    (field c).Mentions path ↔ c.path = path :=
  ⟨fun h => by cases h with | field e => exact e, .field⟩

theorem mentions_geo_iff {path : FieldPath} {c : Geo.Clause} :
    (geo c).Mentions path ↔ c.coordinates.lat = path ∨ c.coordinates.lng = path := by
  constructor
  · rintro (_ | e | e)
    · exact .inl e
    · exact .inr e
  · rintro (e | e)
    · exact .lat e
    · exact .lng e

theorem mentions_all_iff {path : FieldPath} {ps : List Predicate} :
    (all ps).Mentions path ↔ ∃ p ∈ ps, p.Mentions path := by
  constructor
  · rintro (_ | _ | _ | ⟨hp, h⟩)
    exact ⟨_, hp, h⟩
  · rintro ⟨p, hp, h⟩
    exact .all hp h

theorem mentions_any_iff {path : FieldPath} {ps : List Predicate} :
    (any ps).Mentions path ↔ ∃ p ∈ ps, p.Mentions path := by
  constructor
  · rintro (_ | _ | _ | _ | ⟨hp, h⟩)
    exact ⟨_, hp, h⟩
  · rintro ⟨p, hp, h⟩
    exact .any hp h

theorem Positive.holds_of_fadesAt {p : Predicate} (hp : p.Positive)
    (h : ∀ path, p.Mentions path → Record.FadesAt path r r') (hr' : p.holds r' = true) :
    p.holds r = true := by
  induction hp with
  | field c => exact Clause.holds_of_fadesAt (h _ (.field rfl)) hr'
  | geo c => exact Geo.Clause.holds_of_fadesAt (h _ (.lat rfl)) (h _ (.lng rfl)) hr'
  | all _ ih =>
      rw [holds_all_iff] at hr' ⊢
      exact fun p hp => ih p hp (fun path hm => h path (.all hp hm)) (hr' p hp)
  | any _ ih =>
      rw [holds_any_iff] at hr' ⊢
      obtain ⟨p, hp, hp'⟩ := hr'
      exact ⟨p, hp, ih p hp (fun path hm => h path (.any hp hm)) hp'⟩

end Predicate

/-! ## Queries -/

theorem Filter.positive_toPredicate (f : Filter) : f.toPredicate.Positive := by
  obtain ⟨path, op, v⟩ := f
  cases v with
  | range least greatest =>
      refine .all fun p hp => ?_
      simp only [List.mem_cons, List.not_mem_nil, or_false] at hp
      rcases hp with rfl | rfl
      · exact .field _
      · exact .field _
  | list os => exact .field _
  | single o => cases op <;> exact .field _

namespace Query

theorem positive_predicate (q : Query) : q.predicate.Positive := by
  refine .all fun p hp => ?_
  obtain ⟨f, -, rfl⟩ := List.mem_map.1 hp
  exact f.positive_toPredicate

theorem mem_places_of_fadesAt {q : Query} {xs ys : List Record} (hlen : xs.length = ys.length)
    (h : ∀ i (hx : i < xs.length) (hy : i < ys.length) path, q.predicate.Mentions path →
      Record.FadesAt path xs[i] ys[i]) {i : Nat} (hi : i ∈ q.places ys) : i ∈ q.places xs := by
  obtain ⟨y, hy, hholds⟩ := mem_places_iff.1 hi
  obtain ⟨hlt, rfl⟩ := List.getElem?_eq_some_iff.1 hy
  have hx : i < xs.length := hlen ▸ hlt
  refine mem_places_iff.2 ⟨xs[i], List.getElem?_eq_getElem hx, ?_⟩
  exact q.positive_predicate.holds_of_fadesAt (h i hx hlt) hholds

/-- A predicate without negations and tests of the caller's own fails closed, and so does every
compiled query: records of which some fields cannot be resolved any more match only if they matched
before. -/
theorem result_fails_closed :
    (∀ (p : Predicate) (r r' : Record), p.Positive →
      (∀ path, p.Mentions path → Record.FadesAt path r r') →
        p.holds r' = true → p.holds r = true) ∧
    ∀ q : Query, q.predicate.Positive ∧
      ∀ xs ys : List Record, xs.length = ys.length →
        (∀ i (hx : i < xs.length) (hy : i < ys.length) path, q.predicate.Mentions path →
          Record.FadesAt path xs[i] ys[i]) →
        ∀ i ∈ q.places ys, i ∈ q.places xs :=
  ⟨fun _ _ _ hp h hr' => hp.holds_of_fadesAt h hr',
    fun q => ⟨q.positive_predicate, fun _ _ hlen h _ hi => mem_places_of_fadesAt hlen h hi⟩⟩

/-- The faded record has lost its latitude, so that it matches by the other branch only, and the
note that no condition reads. -/
theorem result_fails_closed_place :
    let near : Geo.Box :=
      ⟨⟨.ofInt .double 0, .ofInt .double 0⟩, ⟨.ofInt .double 9, .ofInt .double 9⟩⟩
    let p : Predicate := .any [.geo ⟨⟨.parse "lat", .parse "lng"⟩, .box near⟩,
      .all [.onField (.parse "name") (.compare .ne (.string "Bo")),
        .onField (.parse "lng") .isNotNull]]
    let degree : Value := .number (.double (.ofInt .double 5))
    let r : Record := ⟨.never, [("name", .string "Ana"), ("lat", degree), ("lng", degree)]⟩
    let r' : Record := ⟨.never, [("name", .string "Ana"), ("lng", degree), ("note", .null)]⟩
    let one : Operand := .number (.double (.ofInt .double 1))
    let q : Query := { filters := [⟨.parse "lat", .gte, .single one⟩], limit := 1 }
    p.Positive ∧ (∀ path, p.Mentions path → Record.FadesAt path r r') ∧
      p.holds r' = true ∧ p.holds r = true ∧ q.places [r', r] = [1] ∧ q.places [r, r] = [0, 1] ∧
      ∀ i ∈ q.places [r', r], i ∈ q.places [r, r] := by
  intro near p degree r r' one q
  have hp : p.Positive := .any (List.forall_mem_cons.2 ⟨.geo _, List.forall_mem_singleton.2
    (.all (List.forall_mem_cons.2 ⟨.field _, List.forall_mem_singleton.2 (.field _)⟩))⟩)
  have hlat : Record.FadesAt (.parse "lat") r r' := .inr ⟨_, rfl⟩
  have hfades : ∀ path, p.Mentions path → Record.FadesAt path r r' := by
    intro path hm
    simp only [p, Predicate.onField, Predicate.mentions_any_iff, Predicate.mentions_all_iff,
      Predicate.mentions_geo_iff, Predicate.mentions_field_iff, List.mem_cons, List.not_mem_nil,
      or_false, exists_eq_or_imp, exists_eq_left] at hm
    obtain (rfl | rfl) | rfl | rfl := hm
    · exact hlat
    · exact .inl rfl
    · exact .inl rfl
    · exact .inl rfl
  have hr' : p.holds r' = true := by decide +kernel
  obtain ⟨hpredicate, hquery⟩ := result_fails_closed
  refine ⟨hp, hfades, hr', hpredicate p r r' hp hfades hr', by decide +kernel, by decide +kernel,
    (hquery q).2 _ _ rfl ?_⟩
  intro i hx hy path hm
  obtain rfl : FieldPath.parse "lat" = path := by
    obtain ⟨_, hp, hm⟩ := Predicate.mentions_all_iff.1 hm
    rw [List.mem_singleton.1 hp] at hm
    exact Predicate.mentions_field_iff.1 hm
  obtain rfl | rfl : i = 0 ∨ i = 1 := by
    simp only [List.length_cons, List.length_nil] at hx
    omega
  · exact hlat
  · exact .inl rfl

end Query

end RecordQuery
