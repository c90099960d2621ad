import RecordQuery.Proofs.Params
import RecordQuery.Proofs.Query.Settings

/-!
# Compiling key by key

A query is compiled from the queries that its live keys give when each is compiled alone: it fails
as the first key in byte order that fails alone, and otherwise joins the filters of the keys and
takes order, page and limit from the one key that sets each (`compile_keywise`). Only the first
value of a key counts.
-/

namespace RecordQuery.Query

open Text

variable (r : Registry) (options : Options)

def compileKey (a : String × String) : Except QueryError Query :=
  compile r (.single a.1 a.2) options

/-- A field of the query is what a live key gives it alone, or else a default. -/
def TakesField {β : Type} (p : Params) (q : Query) (get : Query → β) (key : String)
    (standard : β) : Prop :=
  match p.get? key with
  | some raw => ∃ q', compileKey r options (key, raw) = .ok q' ∧ get q = get q'
  | none => get q = standard

/-- The query is put together from the queries of the live keys. -/
structure JoinsKeys (p : Params) (q : Query) : Prop where
  filters : ∃ qs, p.firstValues.mapM (compileKey r options) = .ok qs ∧
    q.filters = qs.flatMap (·.filters)
  sort : TakesField r options p q Query.sort sortKey options.defaultSort
  page : TakesField r options p q Query.page pageKey 1
  limit : TakesField r options p q Query.limit limitKey options.defaultLimit

variable {r options}

/-! ## One key -/

theorem compileKey_eq (a : String × String) : compileKey r options a =
    (readSetting r options a).map fun s => finish options ((start options).put s) := by
  unfold compileKey
  rw [compile_eq, Params.firstValues_single, List.mapM_cons, List.mapM_nil]
  cases readSetting r options a <;> rfl

theorem exists_compileKey_eq_ok_iff {a : String × String} :
    (∃ q, compileKey r options a = .ok q) ↔ ∃ s, readSetting r options a = .ok s := by
  rw [compileKey_eq]
  cases readSetting r options a <;> simp [Except.map]

theorem compileKey_eq_error_iff {a : String × String} {e : QueryError} :
    compileKey r options a = .error e ↔ readSetting r options a = .error e := by
  rw [compileKey_eq]
  cases readSetting r options a <;> simp [Except.map]

theorem flatMap_filters_map_finish (ss : List Setting) :
    (ss.map fun s => finish options ((start options).put s)).flatMap (·.filters) =
      ss.filterMap Setting.filter? := by
  induction ss with
  | nil => rfl
  | cons s ss ih =>
      rw [List.map_cons, List.flatMap_cons, ih, List.filterMap_cons]
      cases s <;> rfl

theorem mapM_compileKey {l : List (String × String)} {ss : List Setting}
    (h : l.mapM (readSetting r options) = .ok ss) : l.mapM (compileKey r options) =
      .ok (ss.map fun s => finish options ((start options).put s)) := by
  induction l generalizing ss with
  | nil =>
      cases h
      rfl
  | cons a l ih =>
      obtain ⟨s, ss, hs, hss, rfl⟩ := mapM_cons_eq_ok_iff.1 h
      exact mapM_cons_eq_ok_iff.2 ⟨_, _, by rw [compileKey_eq, hs]; rfl, ih hss, rfl⟩

/-! ## All keys -/

theorem exists_compile_eq_ok_iff {p : Params} : (∃ q, compile r p options = .ok q) ↔
    ∀ a ∈ p.firstValues, ∃ q, compileKey r options a = .ok q := by
  simp only [compile_eq_ok_iff, exists_compileKey_eq_ok_iff, ← exists_mapM_eq_ok_iff]
  constructor
  · rintro ⟨-, ss, hss, -⟩
    exact ⟨ss, hss⟩
  · rintro ⟨ss, hss⟩
    exact ⟨_, ss, hss, rfl⟩

/-- In the order of the keys, those before an item of the list are those that are less. -/
theorem mem_left_iff_of_sorted {pre post : List (String × String)} {a b : String × String}
    (hs : (pre ++ a :: post).Pairwise fun a b => compareBytes a.1 b.1 = .lt) :
    b ∈ pre ↔ b ∈ pre ++ a :: post ∧ compareBytes b.1 a.1 = .lt := by
  obtain ⟨-, hpost, hpre⟩ := List.pairwise_append.1 hs
  constructor
  · intro hb
    exact ⟨List.mem_append_left _ hb, hpre b hb a (List.mem_cons_self ..)⟩
  · rintro ⟨hb, hlt⟩
    rcases List.mem_append.1 hb with hb | hb
    · exact hb
    rcases List.mem_cons.1 hb with rfl | hb
    · exact absurd hlt (compareBytes_self_ne_lt _)
    · have hgt := (List.pairwise_cons.1 hpost).1 b hb
      exact absurd (compareBytes_lt_trans hlt hgt) (compareBytes_self_ne_lt _)

theorem compile_eq_error_iff {p : Params} {e : QueryError} : compile r p options = .error e ↔
    ∃ a ∈ p.firstValues, compileKey r options a = .error e ∧
      ∀ b ∈ p.firstValues, compareBytes b.1 a.1 = .lt → ∃ q, compileKey r options b = .ok q := by
  have hmap : compile r p options = .error e ↔
      p.firstValues.mapM (readSetting r options) = .error e := by
    rw [compile_eq]
    cases p.firstValues.mapM (readSetting r options) <;> simp [Except.map]
  simp only [hmap, mapM_eq_error_iff, compileKey_eq_error_iff, exists_compileKey_eq_ok_iff]
  constructor
  · rintro ⟨pre, a, post, hsplit, hpre, ha⟩
    have hs := hsplit ▸ p.firstValues_sorted
    rw [hsplit]
    exact ⟨a, by simp, ha, fun b hb hlt => hpre b ((mem_left_iff_of_sorted hs).2 ⟨hb, hlt⟩)⟩
  · rintro ⟨a, ha, he, hless⟩
    obtain ⟨pre, post, hsplit⟩ := List.append_of_mem ha
    have hs := hsplit ▸ p.firstValues_sorted
    refine ⟨pre, a, post, hsplit, fun b hb => ?_, he⟩
    obtain ⟨hb, hlt⟩ := (mem_left_iff_of_sorted hs).1 hb
    exact hless b (hsplit ▸ hb) hlt

/-! ## The fields -/

theorem firstValues_keys_ne (p : Params) : p.firstValues.Pairwise fun a b => a.1 ≠ b.1 :=
  p.firstValues_sorted.imp fun hlt e => by
    rw [e] at hlt
    exact compareBytes_self_ne_lt _ hlt

theorem SetBy.takesField {β : Type} {key : String} {get : Query → β}
    (h : SetBy r options key get) (view : β → β) {p : Params} {ss : List Setting}
    (hss : p.firstValues.mapM (readSetting r options) = .ok ss) {q : Query}
    (hview : ∀ q', get (finish options q') = view (get q'))
    (hq : finish options (ss.foldl put (start options)) = q) :
    TakesField r options p q get key (view (get (start options))) := by
  subst hq
  unfold TakesField
  rw [hview]
  cases hraw : p.get? key with
  | some raw =>
      have hm : (key, raw) ∈ p.firstValues := Params.mem_firstValues_iff.2 hraw
      obtain ⟨s, hs⟩ := exists_mapM_eq_ok_iff.1 ⟨ss, hss⟩ _ hm
      refine ⟨finish options ((start options).put s), by rw [compileKey_eq, hs]; rfl, ?_⟩
      rw [hview, h.foldl_put_of_mem (start options) rfl hs _ hss (firstValues_keys_ne p) hm]
  | none =>
      have habsent : ∀ a ∈ p.firstValues, a.1 ≠ key := by
        rintro ⟨k, raw⟩ hm rfl
        rw [Params.mem_firstValues_iff.1 hm] at hraw
        cases hraw
      exact congrArg view (h.foldl_put_of_absent _ hss habsent)

theorem joinsKeys_of_compile {p : Params} {q : Query} (h : compile r p options = .ok q) :
    JoinsKeys r options p q := by
  obtain ⟨ss, hss, hq⟩ := compile_eq_ok_iff.1 h
  refine ⟨⟨_, mapM_compileKey hss, ?_⟩, ?_, ?_, ?_⟩
  · rw [flatMap_filters_map_finish, ← hq]
    exact (filters_foldl_put ss _).trans (List.nil_append _)
  · exact sort_setBy.takesField (·.or options.defaultSort) hss (fun _ => rfl) hq
  · exact page_setBy.takesField id hss (fun _ => rfl) hq
  · exact limit_setBy.takesField id hss (fun _ => rfl) hq

/-- Compiling takes the live keys in byte order, each with its first value, and compiles each of
them alone. -/
theorem compile_keywise (r : Registry) (options : Options) (p : Params) :
    (p.firstValues.Pairwise fun a b => compareBytes a.1 b.1 = .lt) ∧
    (∀ key raw, (key, raw) ∈ p.firstValues ↔ (p.getAll key).head? = some raw) ∧
    ((∃ q, compile r p options = .ok q) ↔
      ∀ a ∈ p.firstValues, ∃ q, compileKey r options a = .ok q) ∧
    (∀ e, compile r p options = .error e ↔
      ∃ a ∈ p.firstValues, compileKey r options a = .error e ∧
        ∀ b ∈ p.firstValues, compareBytes b.1 a.1 = .lt →
          ∃ q, compileKey r options b = .ok q) ∧
    (∀ q, compile r p options = .ok q → JoinsKeys r options p q) ∧
    (∀ p' : Params, (∀ key, (p'.getAll key).head? = (p.getAll key).head?) →
      compile r p' options = compile r p options) := by
  refine ⟨p.firstValues_sorted, fun key raw => Params.mem_firstValues_iff,
    exists_compile_eq_ok_iff, fun e => compile_eq_error_iff,
    fun q => joinsKeys_of_compile, fun p' hp => ?_⟩
  rw [compile_eq, compile_eq, Params.firstValues_congr hp]

end RecordQuery.Query
