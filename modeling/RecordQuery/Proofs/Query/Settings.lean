import Mathlib.Tactic.SplitIfs
import RecordQuery.Query

/-!
# Parameters as settings

Each parameter is read on its own into a `Setting`, without a view of the query so far, and a
query is compiled by reading all parameters and then putting the settings into the start query one
after the other (`compile_eq`). A field of the query that only one key can set is what that key
set, or what it was at the start (`SetBy.foldl_put_of_mem`).
-/

namespace RecordQuery

/-! ## Reading one after the other -/

section Generic

variable {α β γ ε : Type}

theorem map_eq_ok_iff {f : α → β} {x : Except ε α} {y : β} :
    x.map f = .ok y ↔ ∃ a, x = .ok a ∧ f a = y := by
  cases x <;> simp [Except.map]

theorem bind_eq_ok_iff {f : α → Except ε β} {x : Except ε α} {y : β} :
    x >>= f = .ok y ↔ ∃ a, x = .ok a ∧ f a = .ok y := by
  cases x <;> simp [bind, Except.bind]

theorem bind_eq_error_iff {f : α → Except ε β} {x : Except ε α} {e : ε} :
    x >>= f = .error e ↔ x = .error e ∨ ∃ a, x = .ok a ∧ f a = .error e := by
  cases x <;> simp [bind, Except.bind]

/-- A fold whose steps read each item on its own reads all items first. -/
theorem foldlM_map_eq (f : α → Except ε β) (g : γ → β → γ) :
    ∀ (xs : List α) (c : γ),
      xs.foldlM (fun c x => (f x).map (g c)) c = (xs.mapM f).map fun ys => ys.foldl g c
  | [], c => rfl
  | x :: xs, c => by
      rw [List.foldlM_cons, List.mapM_cons]
      cases hx : f x with
      | error e => rfl
      | ok y =>
          show xs.foldlM (fun c x => (f x).map (g c)) (g c y) = _
          rw [foldlM_map_eq f g xs]
          cases hxs : xs.mapM f with
          | error e => rfl
          | ok ys => rfl

theorem mapM_cons_eq_ok_iff {f : α → Except ε β} {x : α} {xs : List α} {zs : List β} :
    (x :: xs).mapM f = .ok zs ↔ ∃ y ys, f x = .ok y ∧ xs.mapM f = .ok ys ∧ zs = y :: ys := by
  simp only [List.mapM_cons, bind_eq_ok_iff, pure, Except.pure, Except.ok.injEq]
  constructor
  · rintro ⟨y, hy, ys, hys, rfl⟩
    exact ⟨y, ys, hy, hys, rfl⟩
  · rintro ⟨y, ys, hy, hys, rfl⟩
    exact ⟨y, hy, ys, hys, rfl⟩

theorem exists_mapM_eq_ok_iff {f : α → Except ε β} :
    ∀ {xs : List α}, (∃ ys, xs.mapM f = .ok ys) ↔ ∀ x ∈ xs, ∃ y, f x = .ok y
  | [] => by simp [pure, Except.pure]
  | x :: xs => by
      rw [List.forall_mem_cons, ← @exists_mapM_eq_ok_iff f xs]
      constructor
      · rintro ⟨zs, h⟩
        obtain ⟨y, ys, hy, hys, -⟩ := mapM_cons_eq_ok_iff.1 h
        exact ⟨⟨y, hy⟩, ys, hys⟩
      · rintro ⟨⟨y, hy⟩, ys, hys⟩
        exact ⟨y :: ys, mapM_cons_eq_ok_iff.2 ⟨y, ys, hy, hys, rfl⟩⟩

theorem mem_iff_of_mapM_eq_ok {f : α → Except ε β} {y : β} :
    ∀ {xs : List α} {ys : List β}, xs.mapM f = .ok ys → (y ∈ ys ↔ ∃ x ∈ xs, f x = .ok y)
  | [], ys, h => by
      cases h
      simp
  | x :: xs, zs, h => by
      obtain ⟨z, ys, hz, hys, rfl⟩ := mapM_cons_eq_ok_iff.1 h
      simp only [List.mem_cons, exists_eq_or_imp, mem_iff_of_mapM_eq_ok hys, hz, Except.ok.injEq,
        @eq_comm _ z]

theorem mapM_eq_error_iff {f : α → Except ε β} {e : ε} :
    ∀ {xs : List α}, xs.mapM f = .error e ↔
      ∃ pre x post, xs = pre ++ x :: post ∧ (∀ y ∈ pre, ∃ z, f y = .ok z) ∧ f x = .error e
  | [] => by simp [pure, Except.pure]
  | x :: xs => by
      rw [List.mapM_cons]
      cases hx : f x with
      | error e' =>
          constructor
          · intro h
            cases h
            exact ⟨[], x, xs, rfl, by simp, hx⟩
          · rintro ⟨pre, y, post, hsplit, hpre, hy⟩
            cases pre with
            | nil =>
                cases hsplit
                rw [hx] at hy
                cases hy
                rfl
            | cons z pre =>
                cases hsplit
                obtain ⟨w, hw⟩ := hpre x (List.mem_cons_self ..)
                rw [hx] at hw
                cases hw
      | ok y =>
          have hrest : (do let y ← Except.ok y; let ys ← xs.mapM f; pure (y :: ys)) = .error e ↔
              xs.mapM f = .error e := by
            cases hxs : xs.mapM f <;> simp [bind, Except.bind, pure, Except.pure]
          rw [hrest, @mapM_eq_error_iff f e xs]
          constructor
          · rintro ⟨pre, z, post, rfl, hpre, hz⟩
            refine ⟨x :: pre, z, post, rfl, ?_, hz⟩
            exact List.forall_mem_cons.2 ⟨⟨y, hx⟩, hpre⟩
          · rintro ⟨pre, z, post, hsplit, hpre, hz⟩
            cases pre with
            | nil =>
                cases hsplit
                rw [hx] at hz
                cases hz
            | cons w pre =>
                cases hsplit
                exact ⟨pre, z, post, rfl, (List.forall_mem_cons.1 hpre).2, hz⟩

end Generic

namespace Query

variable (r : Registry) (options : Options)

/-! ## Settings -/

inductive Setting where
  | sort (o : Order)
  | page (n : Nat)
  | limit (n : Nat)
  | filter (f : Filter)

def Setting.filter? : Setting → Option Filter
  | .filter f => some f
  | _ => none

def readSetting : String × String → Except QueryError Setting
  | (key, raw) =>
    if key = sortKey then (readSort r raw).map .sort
    else if key = pageKey then (readPositive pageKey raw).map .page
    else if key = limitKey then (readLimit options raw).map .limit
    else (Filter.ofParam r key raw).map .filter

def put (q : Query) : Setting → Query
  | .sort o => { q with sort := some o }
  | .page page => { q with page }
  | .limit limit => { q with limit }
  | .filter f => { q with filters := q.filters ++ [f] }

/-- The query of no parameters, before the default order. -/
def start : Query := { limit := options.defaultLimit }

def finish (q : Query) : Query := { q with sort := q.sort.or options.defaultSort }

theorem add_eq (q : Query) : ∀ a : String × String,
    add r options q a = (readSetting r options a).map q.put
  | (key, raw) => by
      unfold add readSetting
      dsimp only
      split_ifs
      · cases readSort r raw <;> rfl
      · cases readPositive pageKey raw <;> rfl
      · cases readLimit options raw <;> rfl
      · cases Filter.ofParam r key raw <;> rfl

theorem compile_eq (p : Params) : compile r p options =
    (p.firstValues.mapM (readSetting r options)).map fun ss =>
      finish options (ss.foldl put (start options)) := by
  have hadd : add r options = fun q a => (readSetting r options a).map q.put :=
    funext fun q => funext fun a => add_eq r options q a
  unfold compile
  rw [hadd, foldlM_map_eq]
  cases p.firstValues.mapM (readSetting r options) <;> rfl

variable {r options}

theorem compile_eq_ok_iff {p : Params} {q : Query} : compile r p options = .ok q ↔
    ∃ ss, p.firstValues.mapM (readSetting r options) = .ok ss ∧
      finish options (ss.foldl put (start options)) = q := by
  rw [compile_eq, map_eq_ok_iff]

def IsReserved (key : String) : Prop := key = sortKey ∨ key = pageKey ∨ key = limitKey

theorem readSetting_of_not_reserved {key : String} (h : ¬ IsReserved key) (raw : String) :
    readSetting r options (key, raw) = (Filter.ofParam r key raw).map .filter := by
  simp only [IsReserved, not_or] at h
  rw [readSetting, if_neg h.1, if_neg h.2.1, if_neg h.2.2]

theorem readSetting_eq_ok {a : String × String} {s : Setting}
    (h : readSetting r options a = .ok s) :
    (a.1 = sortKey ∧ ∃ o, readSort r a.2 = .ok o ∧ s = .sort o) ∨
    (a.1 = pageKey ∧ ∃ n, readPositive pageKey a.2 = .ok n ∧ s = .page n) ∨
    (a.1 = limitKey ∧ ∃ n, readLimit options a.2 = .ok n ∧ s = .limit n) ∨
    (¬ IsReserved a.1 ∧ ∃ f, Filter.ofParam r a.1 a.2 = .ok f ∧ s = .filter f) := by
  obtain ⟨key, raw⟩ := a
  by_cases hr : IsReserved key
  · rcases hr with rfl | rfl | rfl
    · obtain ⟨o, ho, rfl⟩ := map_eq_ok_iff.1 h
      exact .inl ⟨rfl, o, ho, rfl⟩
    · obtain ⟨n, hn, rfl⟩ := map_eq_ok_iff.1 h
      exact .inr (.inl ⟨rfl, n, hn, rfl⟩)
    · obtain ⟨n, hn, rfl⟩ := map_eq_ok_iff.1 h
      exact .inr (.inr (.inl ⟨rfl, n, hn, rfl⟩))
  · rw [readSetting_of_not_reserved hr] at h
    obtain ⟨f, hf, rfl⟩ := map_eq_ok_iff.1 h
    exact .inr (.inr (.inr ⟨hr, f, hf, rfl⟩))

/-! ## The fields of a query -/

theorem filters_foldl_put : ∀ (ss : List Setting) (q : Query),
    (ss.foldl put q).filters = q.filters ++ ss.filterMap Setting.filter?
  | [], q => by simp
  | s :: ss, q => by
      rw [List.foldl_cons, filters_foldl_put ss, List.filterMap_cons]
      cases s <;> simp [put, Setting.filter?]

/-- A field of the query that one key sets and all others leave as it is. -/
structure SetBy {β : Type} (r : Registry) (options : Options) (key : String) (get : Query → β) :
    Prop where
  frame : ∀ (q : Query) {a s}, readSetting r options a = .ok s → a.1 ≠ key → get (q.put s) = get q
  set : ∀ (q q' : Query) {a s}, readSetting r options a = .ok s → a.1 = key →
    get (q.put s) = get (q'.put s)

theorem sort_setBy : SetBy r options sortKey Query.sort where
  frame q a s h hne := by
    obtain ⟨e, -⟩ | ⟨-, n, -, rfl⟩ | ⟨-, n, -, rfl⟩ | ⟨-, f, -, rfl⟩ := readSetting_eq_ok h
    · exact absurd e hne
    all_goals rfl
  set q q' a s h e := by
    obtain ⟨-, o, -, rfl⟩ | ⟨e', -⟩ | ⟨e', -⟩ | ⟨hr, -⟩ := readSetting_eq_ok h
    · rfl
    · exact absurd (e.symm.trans e') (by decide)
    · exact absurd (e.symm.trans e') (by decide)
    · exact absurd (.inl e) hr

theorem page_setBy : SetBy r options pageKey Query.page where
  frame q a s h hne := by
    obtain ⟨-, o, -, rfl⟩ | ⟨e, -⟩ | ⟨-, n, -, rfl⟩ | ⟨-, f, -, rfl⟩ := readSetting_eq_ok h
    · rfl
    · exact absurd e hne
    all_goals rfl
  set q q' a s h e := by
    obtain ⟨e', -⟩ | ⟨-, n, -, rfl⟩ | ⟨e', -⟩ | ⟨hr, -⟩ := readSetting_eq_ok h
    · exact absurd (e.symm.trans e') (by decide)
    · rfl
    · exact absurd (e.symm.trans e') (by decide)
    · exact absurd (.inr (.inl e)) hr

theorem limit_setBy : SetBy r options limitKey Query.limit where
  frame q a s h hne := by
    obtain ⟨-, o, -, rfl⟩ | ⟨-, n, -, rfl⟩ | ⟨e, -⟩ | ⟨-, f, -, rfl⟩ := readSetting_eq_ok h
    · rfl
    · rfl
    · exact absurd e hne
    · rfl
  set q q' a s h e := by
    obtain ⟨e', -⟩ | ⟨e', -⟩ | ⟨-, n, -, rfl⟩ | ⟨hr, -⟩ := readSetting_eq_ok h
    · exact absurd (e.symm.trans e') (by decide)
    · exact absurd (e.symm.trans e') (by decide)
    · rfl
    · exact absurd (.inr (.inr e)) hr

namespace SetBy

variable {β : Type} {key : String} {get : Query → β} (h : SetBy r options key get)

include h

theorem foldl_put_of_absent : ∀ {l : List (String × String)} {ss : List Setting} (q : Query),
    l.mapM (readSetting r options) = .ok ss → (∀ a ∈ l, a.1 ≠ key) →
      get (ss.foldl put q) = get q
  | [], ss, q, hss, _ => by
      cases hss
      rfl
  | a :: l, zs, q, hzs, hne => by
      obtain ⟨s, ss, hs, hss, rfl⟩ := mapM_cons_eq_ok_iff.1 hzs
      obtain ⟨ha, hl⟩ := List.forall_mem_cons.1 hne
      rw [List.foldl_cons, foldl_put_of_absent (q.put s) hss hl, h.frame q hs ha]

theorem foldl_put_of_mem (q' : Query) {a : String × String} {s : Setting} (ha : a.1 = key)
    (hs : readSetting r options a = .ok s) :
    ∀ {l : List (String × String)} {ss : List Setting} (q : Query),
      l.mapM (readSetting r options) = .ok ss → (l.Pairwise fun a b => a.1 ≠ b.1) → a ∈ l →
        get (ss.foldl put q) = get (q'.put s)
  | b :: l, zs, q, hzs, hd, hm => by
      obtain ⟨t, ss, ht, hss, rfl⟩ := mapM_cons_eq_ok_iff.1 hzs
      obtain ⟨hb, hl⟩ := List.pairwise_cons.1 hd
      rw [List.foldl_cons]
      rcases List.mem_cons.1 hm with rfl | hm
      · obtain rfl : s = t := Except.ok.inj (hs.symm.trans ht)
        have habsent : ∀ c ∈ l, c.1 ≠ key := fun c hc => ha ▸ (hb c hc).symm
        rw [h.foldl_put_of_absent (q.put s) hss habsent]
        exact h.set q q' hs ha
      · exact foldl_put_of_mem q' ha hs (q.put t) hss hl hm

end SetBy

end Query

end RecordQuery
