import RecordQuery.Proofs.Query.Keywise

/-!
# What a compiled query is read from

Compiling gives a query exactly when its filters are read from the live keys that are not reserved,
in their order, and its order, page and limit each from one reserved key or from the options
(`compile_eq_ok_iff_readFrom`). So a filter of the query comes from a key, and each such key gives
one (`mem_filters_iff`).
-/

namespace RecordQuery.Query

instance : DecidablePred IsReserved := fun _ => inferInstanceAs (Decidable (_ ∨ _ ∨ _))

/-- The value is read from a live key, or else is a default. -/
def FieldReads {β : Type} (p : Params) (key : String) (read : String → Except QueryError β)
    (standard : β) (b : β) : Prop :=
  match p.get? key with
  | some raw => read raw = .ok b
  | none => b = standard

structure ReadFrom (r : Registry) (options : Options) (p : Params) (q : Query) : Prop where
  filters : (p.firstValues.filter fun a => ¬ IsReserved a.1).mapM
    (fun a => Filter.ofParam r a.1 a.2) = .ok q.filters
  sort : FieldReads p sortKey (fun raw => (readSort r raw).map some) options.defaultSort q.sort
  page : FieldReads p pageKey (readPositive pageKey) 1 q.page
  limit : FieldReads p limitKey (readLimit options) options.defaultLimit q.limit

variable {r : Registry} {options : Options} {p : Params} {q : Query}

/-! ## Fields that one key sets -/

section FieldReads

variable {β : Type} {key : String} {read : String → Except QueryError β} {standard b b' : β}

theorem FieldReads.unique (h : FieldReads p key read standard b)
    (h' : FieldReads p key read standard b') : b = b' := by
  unfold FieldReads at h h'
  cases hraw : p.get? key with
  | some raw =>
      rw [hraw] at h h'
      exact Except.ok.inj (h.symm.trans h')
  | none =>
      rw [hraw] at h h'
      exact h.trans h'.symm

theorem FieldReads.read_eq (h : FieldReads p key read standard b) {raw : String}
    (hraw : p.get? key = some raw) : read raw = .ok b := by
  unfold FieldReads at h
  rwa [hraw] at h

theorem FieldReads.congr {p' : Params} (h : p'.get? key = p.get? key) :
    FieldReads p' key read standard b ↔ FieldReads p key read standard b := by
  unfold FieldReads
  rw [h]

theorem TakesField.fieldReads {get : Query → β} (h : TakesField r options p q get key standard)
    (hread : ∀ raw q', compileKey r options (key, raw) = .ok q' → read raw = .ok (get q')) :
    FieldReads p key read standard (get q) := by
  unfold TakesField at h
  unfold FieldReads
  cases hraw : p.get? key with
  | some raw =>
      rw [hraw] at h
      obtain ⟨q', hq', e⟩ := h
      exact e ▸ hread raw q' hq'
  | none =>
      rw [hraw] at h
      exact h

end FieldReads

theorem compileKey_eq_ok_iff {a : String × String} : compileKey r options a = .ok q ↔
    ∃ s, readSetting r options a = .ok s ∧ finish options ((start options).put s) = q := by
  rw [compileKey_eq, map_eq_ok_iff]

theorem readSort_of_compileKey {raw : String}
    (h : compileKey r options (sortKey, raw) = .ok q) : (readSort r raw).map some = .ok q.sort := by
  obtain ⟨s, hs, rfl⟩ := compileKey_eq_ok_iff.1 h
  obtain ⟨o, ho, rfl⟩ := map_eq_ok_iff.1 hs
  exact map_eq_ok_iff.2 ⟨o, ho, rfl⟩

theorem readPage_of_compileKey {raw : String}
    (h : compileKey r options (pageKey, raw) = .ok q) : readPositive pageKey raw = .ok q.page := by
  obtain ⟨s, hs, rfl⟩ := compileKey_eq_ok_iff.1 h
  obtain ⟨n, hn, rfl⟩ := map_eq_ok_iff.1 hs
  exact hn

theorem readLimit_of_compileKey {raw : String}
    (h : compileKey r options (limitKey, raw) = .ok q) : readLimit options raw = .ok q.limit := by
  obtain ⟨s, hs, rfl⟩ := compileKey_eq_ok_iff.1 h
  obtain ⟨n, hn, rfl⟩ := map_eq_ok_iff.1 hs
  exact hn

/-! ## Filters -/

theorem mapM_ofParam_of_readSetting : ∀ {l : List (String × String)} {ss : List Setting},
    l.mapM (readSetting r options) = .ok ss →
      (l.filter fun a => ¬ IsReserved a.1).mapM (fun a => Filter.ofParam r a.1 a.2) =
        .ok (ss.filterMap Setting.filter?)
  | [], ss, h => by
      cases h
      rfl
  | a :: l, zs, h => by
      obtain ⟨s, ss, hs, hss, rfl⟩ := mapM_cons_eq_ok_iff.1 h
      have ih := mapM_ofParam_of_readSetting hss
      obtain ⟨e, o, -, rfl⟩ | ⟨e, n, -, rfl⟩ | ⟨e, n, -, rfl⟩ | ⟨hr, f, hf, rfl⟩ :=
        readSetting_eq_ok hs
      · rwa [List.filter_cons_of_neg (by simp [IsReserved, e])]
      · rwa [List.filter_cons_of_neg (by simp [IsReserved, e])]
      · rwa [List.filter_cons_of_neg (by simp [IsReserved, e])]
      · rw [List.filter_cons_of_pos (by simpa using hr)]
        exact mapM_cons_eq_ok_iff.2 ⟨f, _, hf, ih, rfl⟩

/-! ## Queries -/

theorem readFrom_of_compile (h : compile r p options = .ok q) : ReadFrom r options p q := by
  have hjoin := joinsKeys_of_compile h
  obtain ⟨ss, hss, hq⟩ := compile_eq_ok_iff.1 h
  have hfilters : q.filters = ss.filterMap Setting.filter? := by
    rw [← hq]
    exact (filters_foldl_put ss _).trans (List.nil_append _)
  exact {
    filters := hfilters ▸ mapM_ofParam_of_readSetting hss
    sort := hjoin.sort.fieldReads fun _ _ => readSort_of_compileKey
    page := hjoin.page.fieldReads fun _ _ => readPage_of_compileKey
    limit := hjoin.limit.fieldReads fun _ _ => readLimit_of_compileKey }

theorem ReadFrom.unique {q' : Query} (h : ReadFrom r options p q) (h' : ReadFrom r options p q') :
    q = q' := by
  have hfilters := Except.ok.inj (h.filters.symm.trans h'.filters)
  have hsort := h.sort.unique h'.sort
  have hpage := h.page.unique h'.page
  have hlimit := h.limit.unique h'.limit
  cases q
  cases q'
  simp_all

theorem ReadFrom.exists_readSetting (h : ReadFrom r options p q) {a : String × String}
    (ha : a ∈ p.firstValues) : ∃ s, readSetting r options a = .ok s := by
  obtain ⟨key, raw⟩ := a
  have hraw := Params.mem_firstValues_iff.1 ha
  by_cases hr : IsReserved key
  · rcases hr with rfl | rfl | rfl
    · obtain ⟨o, ho, -⟩ := map_eq_ok_iff.1 (h.sort.read_eq hraw)
      exact ⟨.sort o, map_eq_ok_iff.2 ⟨o, ho, rfl⟩⟩
    · exact ⟨.page q.page, map_eq_ok_iff.2 ⟨_, h.page.read_eq hraw, rfl⟩⟩
    · exact ⟨.limit q.limit, map_eq_ok_iff.2 ⟨_, h.limit.read_eq hraw, rfl⟩⟩
  · have hm : (key, raw) ∈ p.firstValues.filter fun a => ¬ IsReserved a.1 := by
      simpa using ⟨ha, hr⟩
    obtain ⟨f, hf⟩ := exists_mapM_eq_ok_iff.1 ⟨_, h.filters⟩ _ hm
    exact ⟨.filter f, by rw [readSetting_of_not_reserved hr]; exact map_eq_ok_iff.2 ⟨f, hf, rfl⟩⟩

theorem compile_eq_ok_iff_readFrom : compile r p options = .ok q ↔ ReadFrom r options p q := by
  refine ⟨readFrom_of_compile, fun h => ?_⟩
  obtain ⟨q', hq'⟩ := exists_compile_eq_ok_iff.2 fun a ha =>
    exists_compileKey_eq_ok_iff.2 (h.exists_readSetting ha)
  rw [hq', (readFrom_of_compile hq').unique h]

theorem mem_filters_iff (h : compile r p options = .ok q) {f : Filter} : f ∈ q.filters ↔
    ∃ a ∈ p.firstValues, ¬ IsReserved a.1 ∧ Filter.ofParam r a.1 a.2 = .ok f := by
  rw [mem_iff_of_mapM_eq_ok (readFrom_of_compile h).filters]
  simp only [List.mem_filter, decide_eq_true_eq, and_assoc]

end RecordQuery.Query
