import RecordQuery.Condition
import RecordQuery.Proofs.Calendar.Alphabet

/-!
# The marks of a written date

A text that is read by a layout has each of the layout's marks (`Layout.exists_mark_of_readFrom`).
So a plain date is not read as a date with a time, which has the letter T in it, and a text that
names a timestamp names the same instant as a date (`readers_agree`).
-/

namespace RecordQuery.Calendar

variable {layout : Layout} {p p' : Parts} {cs rest : List Char} {s : String} {t : Instant}

/-! ## Marks that cannot be missing -/

theorem Item.take_mark_eq_some_iff {choices : List Char} :
    (mark choices).take p cs = some (p', rest) ↔ p' = p ∧ ∃ c ∈ choices, cs = c :: rest := by
  constructor
  · intro h
    cases cs with
    | nil => cases h
    | cons c cs =>
        have h : (if c ∈ choices then some (p, cs) else none) = some (p', rest) := h
        split at h
        · rename_i hc
          cases h
          exact ⟨rfl, c, hc, rfl⟩
        · cases h
  · rintro ⟨rfl, c, hc, rfl⟩
    exact if_pos hc

namespace Layout

theorem exists_mark_of_readFrom {choices : List Char} (hmark : .mark choices ∈ layout)
    (h : layout.readFrom p cs = some p') : ∃ c ∈ choices, c ∈ cs := by
  induction layout generalizing p cs with
  | nil => cases hmark
  | cons item items ih =>
      obtain ⟨⟨p₁, rest⟩, htake, hrest⟩ := Option.bind_eq_some_iff.1 h
      rcases List.mem_cons.1 hmark with rfl | hmark
      · obtain ⟨-, c, hc, rfl⟩ := Item.take_mark_eq_some_iff.1 htake
        exact ⟨c, hc, List.mem_cons_self⟩
      · obtain ⟨c, hc, hmem⟩ := ih hmark hrest
        obtain ⟨taken, rfl, -⟩ := Item.takes_of_take htake
        exact ⟨c, hc, List.mem_append_right _ hmem⟩

theorem instant?_eq_none_of_mark {c : Char} (hmark : .mark [c] ∈ layout) (hc : c ∉ s.toList) :
    layout.instant? s = none := by
  rw [Option.eq_none_iff_forall_ne_some]
  intro t ht
  obtain ⟨p, hp, -⟩ := Option.bind_eq_some_iff.1 ht
  obtain ⟨c', hc', hmem⟩ := exists_mark_of_readFrom hmark hp
  rw [List.mem_singleton.1 hc'] at hmem
  exact hc hmem

end Layout

/-! ## The two readers -/

/-- The first layout that reads a text decides. -/
theorem readDate_eq_some (before after : List Layout)
    (hlayouts : dateLayouts = before ++ layout :: after)
    (hrefused : ∀ earlier ∈ before, earlier.instant? s = none) (ht : layout.instant? s = some t) :
    readDate s = some t :=
  List.findSome?_eq_some_iff.2 ⟨before, layout, after, hlayouts, ht, hrefused⟩

/-- A plain date has no letter T, so it is not read as a date with a time. -/
theorem dateTime_eq_none_of_yearFirst (h : Layout.yearFirst.instant? s = some t) :
    Layout.dateTime.instant? s = none := by
  have hmark : .mark ['T'] ∈ Layout.dateTime := by simp [Layout.dateTime]
  have hletter : ¬ Layout.yearFirst.HasLetter 'T' := by decide
  exact Layout.instant?_eq_none_of_mark hmark fun hmem =>
    hletter (Layout.hasLetter_of_instant? h 'T' hmem)

theorem readTimestamp_eq_some_iff : readTimestamp s = some t ↔
    Layout.internet.instant? s = some t ∨
      Layout.internet.instant? s = none ∧ Layout.yearFirst.instant? s = some t := by
  simp only [readTimestamp, timestampLayouts, List.findSome?_cons, List.findSome?_nil]
  cases Layout.internet.instant? s <;> cases Layout.yearFirst.instant? s <;> simp

theorem readDate_of_readTimestamp (h : readTimestamp s = some t) : readDate s = some t := by
  rcases readTimestamp_eq_some_iff.1 h with hinternet | ⟨hrefused, hplain⟩
  · exact readDate_eq_some [] _ rfl nofun hinternet
  · refine readDate_eq_some [.internet, .dateTime] _ rfl ?_ hplain
    exact List.forall_mem_cons.2
      ⟨hrefused, List.forall_mem_singleton.2 (dateTime_eq_none_of_yearFirst hplain)⟩

/-- A text that names a timestamp in a query is a date for the same instant, so a field that holds
the text is tested and compared as if it held the instant. -/
theorem readers_agree {raw : String} {t : Instant} (h : readTimestamp raw = some t) :
    readDate raw = some t ∧ Condition.instant? (.string raw) = Condition.instant? (.timestamp t) ∧
      ∀ u, (Value.string raw).compare (.timestamp u) =
        (Value.timestamp t).compare (.timestamp u) := by
  have hdate := readDate_of_readTimestamp h
  refine ⟨hdate, hdate, fun u => ?_⟩
  change (readDate raw).map (Instant.compare · u) = some (t.compare u)
  rw [hdate]
  rfl

/-- A timestamp with an offset, and a plain date with a sign, short numbers and a blank. -/
theorem readers_agree_march :
    let evening : Instant := ⟨1709249400, 0, by decide, by decide, by decide, by decide⟩
    let midnight : Instant := ⟨1709251200, 0, by decide, by decide, by decide, by decide⟩
    readTimestamp "2024-03-01T01:30:00+02:00" = some evening ∧
      readDate "2024-03-01T01:30:00+02:00" = some evening ∧
      readTimestamp "+2024-3- 1" = some midnight ∧ readDate "+2024-3- 1" = some midnight := by
  intro evening midnight
  have hevening : readTimestamp "2024-03-01T01:30:00+02:00" = some evening := by decide +kernel
  have hmidnight : readTimestamp "+2024-3- 1" = some midnight := by decide +kernel
  exact ⟨hevening, (readers_agree hevening).1, hmidnight, (readers_agree hmidnight).1⟩

end RecordQuery.Calendar
