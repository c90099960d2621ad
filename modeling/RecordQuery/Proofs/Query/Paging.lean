import RecordQuery.Proofs.Page
import RecordQuery.Proofs.Query.Counts
import RecordQuery.Proofs.Query.Results

/-!
# Reading a result page by page

Asking for another page compiles to the same query with another page number (`compile_set_page`),
so each page is cut from the same result (`fetchPage_eq_ok_iff`). Going from page to page reads the
whole result once (`walk_reads_result`).
-/

namespace RecordQuery.Query

variable {r : Registry} {options : Options} {p : Params} {q : Query} {α : Type}

/-! ## Another page of a query -/

theorem FieldReads.set_of_ne {β : Type} {key k : String} {read : String → Except QueryError β}
    {standard b : β} (raw : String) (hk : k ≠ key) :
    FieldReads (p.set key raw) k read standard b ↔ FieldReads p k read standard b :=
  FieldReads.congr (Params.get?_set_of_ne p raw hk)

theorem FieldReads.set_self_iff {β : Type} {key : String} {read : String → Except QueryError β}
    {standard b : β} {raw : String} :
    FieldReads (p.set key raw) key read standard b ↔ read raw = .ok b := by
  unfold FieldReads
  rw [Params.get?_set_self]

theorem filter_firstValues_set {key : String} (hkey : IsReserved key) (raw : String) :
    ((p.set key raw).firstValues.filter fun a => ¬ IsReserved a.1) =
      p.firstValues.filter fun a => ¬ IsReserved a.1 :=
  Params.filter_firstValues_congr (fun key => ¬ IsReserved key) fun _ hk =>
    Params.get?_set_of_ne p raw fun e => hk (e ▸ hkey)

theorem compile_set_page {raw : String} {n : ℕ} (h : compile r p options = .ok q)
    (hn : readPositive pageKey raw = .ok n) :
    compile r (p.set pageKey raw) options = .ok { q with page := n } := by
  have hread := readFrom_of_compile h
  refine compile_eq_ok_iff_readFrom.2 ⟨?_, ?_, ?_, ?_⟩
  · rw [filter_firstValues_set (.inr (.inl rfl))]
    exact hread.filters
  · exact (FieldReads.set_of_ne raw (by decide)).2 hread.sort
  · exact FieldReads.set_self_iff.2 hn
  · exact (FieldReads.set_of_ne raw (by decide)).2 hread.limit

/-- The page with a number of the result, for parameters that ask for that page. -/
def fetchPage (r : Registry) (options : Options) (p : Params) (record : α → Record)
    (items : List α) (n : ℕ) : Except QueryError (Page α) :=
  (compile r (p.set pageKey (toString n)) options).map (·.executeBy record items)

theorem fetchPage_eq_ok_iff {record : α → Record} {items : List α} {n : ℕ} {page : Page α}
    (h : compile r p options = .ok q) : fetchPage r options p record items n = .ok page ↔
      1 ≤ n ∧ n ≤ maxCount ∧ page = .ofList (q.applyBy record items) n q.limit := by
  rw [fetchPage, map_eq_ok_iff]
  constructor
  · rintro ⟨q', hq', rfl⟩
    have hpage := FieldReads.set_self_iff.1 (readFrom_of_compile hq').page
    obtain ⟨hn, hmax, hpage'⟩ := readPositive_toString_eq_ok_iff.1 hpage
    rw [hpage'] at hpage
    obtain rfl := Except.ok.inj (hq'.symm.trans (compile_set_page h hpage))
    exact ⟨hn, hmax, rfl⟩
  · rintro ⟨hn, hmax, rfl⟩
    exact ⟨_, compile_set_page h (readPositive_toString_eq_ok_iff.2 ⟨hn, hmax, rfl⟩), rfl⟩

theorem hasNext_iff_fetchPage_succ {record : α → Record} {items : List α} {n : ℕ} {page : Page α}
    (h : compile r p options = .ok q) (hresult : (q.applyBy record items).length ≤ maxCount)
    (hlimit : 1 ≤ q.limit) (hpage : fetchPage r options p record items n = .ok page) :
    page.hasNext = true ↔
      ∃ next, fetchPage r options p record items (n + 1) = .ok next ∧ next.items ≠ [] := by
  obtain ⟨hn, hmax, rfl⟩ := (fetchPage_eq_ok_iff h).1 hpage
  rw [Page.hasNext_ofList_iff hresult hn]
  constructor
  · intro hnext
    -- a page before the end has a number that can be counted on
    have hsucc : n + 1 ≤ maxCount := by
      have := Nat.le_mul_of_pos_right n hlimit
      omega
    exact ⟨_, (fetchPage_eq_ok_iff h).2 ⟨by omega, hsucc, rfl⟩,
      (Page.items_ofList_ne_nil_iff hresult hlimit).2 hnext⟩
  · rintro ⟨next, hnext, hne⟩
    obtain ⟨-, -, rfl⟩ := (fetchPage_eq_ok_iff h).1 hnext
    exact (Page.items_ofList_ne_nil_iff hresult hlimit).1 hne

/-! ## All pages of a result -/

/-- Going from the first page to the next one as long as there is one reads the whole result in
order, on full pages up to the last one. A collection has no more items than can be counted. -/
theorem walk_reads_result (r : Registry) (options : Options) (p : Params) (L : ℕ)
    (record : α → Record) (items : List α) (hlen : items.length ≤ maxCount) {q : Query}
    (hq : compile r (p.set limitKey (toString L)) options = .ok q) :
    let fetch := fetchPage r options (p.set limitKey (toString L)) record items
    let result := q.applyBy record items
    (∃ pages, (∀ ps, Page.Walk fetch 1 ps ↔ ps = pages) ∧
      pages.length = max 1 (result.length ⌈/⌉ L) ∧
      pages.flatMap (·.items) = result ∧
      (∀ page ∈ pages.dropLast, page.items.length = L) ∧
      ∀ page ∈ pages, page.total = result.length) ∧
    result.length = q.predicate.count (items.map record) ∧
    ∀ n page, fetch n = .ok page →
      (page.hasNext = true ↔ ∃ next, fetch (n + 1) = .ok next ∧ next.items ≠ []) := by
  intro fetch result
  obtain ⟨hlimit, hL⟩ :=
    readLimit_toString (FieldReads.set_self_iff.1 (readFrom_of_compile hq).limit)
  subst hlimit
  have hresult : result.length ≤ maxCount := (length_applyBy_le q record items).trans hlen
  have hwalk : Page.Walk fetch 1 (Page.pagesOf result q.limit) :=
    Page.walk_pagesOf hresult hL fun n hn hmax => (fetchPage_eq_ok_iff hq).2 ⟨hn, hmax, rfl⟩
  refine ⟨⟨Page.pagesOf result q.limit, fun ps => ⟨fun h => h.unique hwalk, fun h => h ▸ hwalk⟩,
    Page.length_pagesOf, Page.flatMap_items_pagesOf hresult hL,
    fun page hpage => Page.length_items_of_mem_dropLast hresult hL hpage,
    fun page hpage => Page.total_of_mem_pagesOf hpage⟩, length_applyBy q record items, ?_⟩
  exact fun n page hpage => hasNext_iff_fetchPage_succ hq hresult hL hpage

/-- Four of five records match, so two pages of two hold them all and none follows. -/
theorem walk_reads_result_ages :
    let fields : List Descriptor := [
      { path := .parse "age", kind := .integer .u8, filterable := true, sortable := true }]
    let p := Params.ofPairs [("age_gte", "20"), ("sort", "-age")]
    let aged : Int → Record := fun n => ⟨.never, [("age", .number (.double (.ofInt .double n)))]⟩
    let items := [30, 20, 30, 40, 10]
    items.length ≤ maxCount ∧ ∃ q, compile ⟨fields⟩ (p.set limitKey (toString 2)) {} = .ok q ∧
      q.applyBy aged items = [40, 30, 30, 20] ∧
      ∃ pages, Page.Walk (fetchPage ⟨fields⟩ {} (p.set limitKey (toString 2)) aged items) 1 pages ∧
        pages.length = 2 ∧ pages.flatMap (·.items) = [40, 30, 30, 20] := by
  intro fields p aged items
  obtain ⟨q, hq, hresult⟩ : ∃ q, compile ⟨fields⟩ (p.set limitKey (toString 2)) {} = .ok q ∧
      q.applyBy aged items = [40, 30, 30, 20] := ⟨_, rfl, by decide +kernel⟩
  have hlen : items.length ≤ maxCount := by decide
  obtain ⟨⟨pages, hwalk, hpages, hitems, -, -⟩, -, -⟩ :=
    walk_reads_result ⟨fields⟩ {} p 2 aged items hlen hq
  rw [hresult] at hpages hitems
  exact ⟨hlen, q, hq, hresult, pages, (hwalk pages).2 rfl, hpages, hitems⟩

end RecordQuery.Query
