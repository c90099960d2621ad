import RecordQuery.Proofs.Literal
import RecordQuery.Proofs.Query.Reading

/-!
# Page numbers and limits

A count in a parameter is read when it is at least one and fits a word (`readPositive_eq_ok_iff`),
and a limit when the options allow it (`readLimit_eq_ok_iff`). The default limit is not held to
this: a compiled query has a limit that the options allow exactly when it was asked for one or the
default limit is one (`compile_allows_iff`).
-/

namespace RecordQuery

/-- The options allow pages of this size: there is room for an item, and no more than they set as
the greatest. -/
def Options.Allows (options : Options) (limit : ℕ) : Prop :=
  1 ≤ limit ∧ ∀ max ∈ options.maxLimit, limit ≤ max

instance (options : Options) (limit : ℕ) : Decidable (options.Allows limit) :=
  inferInstanceAs (Decidable (_ ∧ _))

namespace Query

variable {r : Registry} {options : Options} {p : Params} {q : Query}

/-! ## Counts in parameters -/

theorem holds_u64_iff {n : ℕ} : Width.u64.Holds n ↔ n ≤ maxCount := by
  have hmax : (Width.u64.greatest : ℤ) = (maxCount : ℕ) := by decide
  have hmin : Width.u64.least = 0 := rfl
  rw [Width.Holds, hmax, hmin]
  omega

theorem readPositive_eq_ok_iff {key raw : String} {m : ℕ} : readPositive key raw = .ok m ↔
    ∃ n, Sized.read .u64 raw = some n ∧ 1 ≤ n.value ∧ m = n.value.toNat := by
  unfold readPositive
  cases Sized.read .u64 raw with
  | none => simp
  | some n =>
      by_cases hn : 1 ≤ n.value
      · simp [hn, eq_comm]
      · simp [hn]

theorem one_le_of_readPositive {key raw : String} {m : ℕ} (h : readPositive key raw = .ok m) :
    1 ≤ m := by
  obtain ⟨n, -, hn, rfl⟩ := readPositive_eq_ok_iff.1 h
  omega

theorem readPositive_toString_eq_ok_iff {key : String} {n m : ℕ} :
    readPositive key (toString n) = .ok m ↔ 1 ≤ n ∧ n ≤ maxCount ∧ m = n := by
  rw [readPositive_eq_ok_iff, Sized.read_toString]
  by_cases hn : n ≤ maxCount
  · rw [dif_pos (holds_u64_iff.2 hn)]
    simp only [Option.some.injEq, exists_eq_left', Int.toNat_natCast]
    omega
  · rw [dif_neg (mt holds_u64_iff.1 hn)]
    simp [hn]

/-! ## Limits -/

theorem readLimit_eq_ok_iff {raw : String} {limit : ℕ} : readLimit options raw = .ok limit ↔
    readPositive limitKey raw = .ok limit ∧ ∀ max ∈ options.maxLimit, limit ≤ max := by
  unfold readLimit
  rw [bind_eq_ok_iff]
  cases options.maxLimit with
  | none => simp
  | some max =>
      constructor
      · rintro ⟨m, hm, hmax⟩
        dsimp only at hmax
        split at hmax
        · cases hmax
        · rename_i hle
          cases hmax
          exact ⟨hm, fun _ h => Option.some.inj h ▸ not_lt.1 hle⟩
      · rintro ⟨hm, hmax⟩
        exact ⟨limit, hm, if_neg (not_lt.2 (hmax max rfl))⟩

theorem allows_of_readLimit {raw : String} {limit : ℕ} (h : readLimit options raw = .ok limit) :
    options.Allows limit := by
  obtain ⟨hpositive, hmax⟩ := readLimit_eq_ok_iff.1 h
  exact ⟨one_le_of_readPositive hpositive, hmax⟩

theorem readLimit_toString {L limit : ℕ} (h : readLimit options (toString L) = .ok limit) :
    limit = L ∧ 1 ≤ L := by
  obtain ⟨hpos, -, rfl⟩ := readPositive_toString_eq_ok_iff.1 (readLimit_eq_ok_iff.1 h).1
  exact ⟨rfl, hpos⟩

/-! ## Compiled queries -/

theorem one_le_page_of_compile (h : compile r p options = .ok q) : 1 ≤ q.page := by
  have hread := (readFrom_of_compile h).page
  unfold FieldReads at hread
  cases hraw : p.get? pageKey with
  | some raw =>
      rw [hraw] at hread
      exact one_le_of_readPositive hread
  | none =>
      rw [hraw] at hread
      exact hread.ge

/-- The page number of a compiled query is at least one. Its limit is one that the options allow
exactly when the parameters ask for a limit or the options allow their own default. -/
theorem compile_allows_iff (r : Registry) (options : Options) (p : Params) {q : Query}
    (h : compile r p options = .ok q) :
    1 ≤ q.page ∧ (options.Allows q.limit ↔
      (∃ raw, p.get? limitKey = some raw) ∨ options.Allows options.defaultLimit) := by
  refine ⟨one_le_page_of_compile h, ?_⟩
  have hread := (readFrom_of_compile h).limit
  unfold FieldReads at hread
  cases hraw : p.get? limitKey with
  | some raw =>
      rw [hraw] at hread
      exact iff_of_true (allows_of_readLimit hread) (.inl ⟨raw, rfl⟩)
  | none =>
      rw [hraw] at hread
      simp only [hread, reduceCtorEq, exists_false, false_or]

/-- The limit is read from a parameter, next to a default that is too great. -/
theorem compile_allows_iff_asked :
    let options : Options := { defaultLimit := 50, maxLimit := some 10 }
    let p := Params.ofPairs [("limit", "10"), ("page", "3")]
    ∃ q, compile ⟨[]⟩ p options = .ok q ∧ 1 ≤ q.page ∧ options.Allows q.limit := by
  intro options p
  obtain ⟨q, hq, hget⟩ : ∃ q, compile ⟨[]⟩ p options = .ok q ∧ p.get? limitKey = some "10" :=
    ⟨_, rfl, rfl⟩
  obtain ⟨hpage, hlimit⟩ := compile_allows_iff ⟨[]⟩ options p hq
  exact ⟨q, hq, hpage, hlimit.2 (.inl ⟨_, hget⟩)⟩

/-- Options that only set the greatest limit give a greater one by default, which they refuse when
it is asked for. A default of zero gives an empty page and says that there is a next one. -/
theorem compile_default_not_allowed :
    let bounded : Options := { maxLimit := some 10 }
    let empty : Options := { defaultLimit := 0 }
    let records : List Record := [⟨.never, []⟩]
    (∃ q, compile ⟨[]⟩ .empty bounded = .ok q ∧ q.limit = 20 ∧ ¬ bounded.Allows q.limit) ∧
      compile ⟨[]⟩ (.single limitKey "20") bounded = .error (.limitExceeded 20 10) ∧
      ∃ q, compile ⟨[]⟩ .empty empty = .ok q ∧ ¬ empty.Allows q.limit ∧
        (q.execute records).items = [] ∧ (q.execute records).hasNext = true :=
  ⟨⟨_, rfl, rfl, by decide⟩, rfl, ⟨_, rfl, by decide, rfl, rfl⟩⟩

end Query

end RecordQuery
