import Mathlib.Data.Fintype.Card
import Mathlib.Data.Fintype.EquivFin
import RecordQuery.Proofs.Equality.Symmetry

/-!
# The order of entries

Mappings are compared entry by entry, up to the first entry that is not found with an equal value,
and the answer is that of this entry: not equal, or none if the values do not compare. Where the
keys of two mappings are equal in pairs (`Paired`), the order of the entries and of the mappings
matters to the answer exactly when one entry does not compare and another one is not equal
(`equals_mapping_unordered_iff`). A key that is equal to two keys of the other mapping makes the
answer depend on the order of the mappings as well (`equals_mapping_ordered`).
-/

namespace RecordQuery.Value

variable {xs xs' ys ys' : List (Value × Value)} {a b : Value × Value} {r : Option Bool}

theorem equals_mapping (xs ys : List (Value × Value)) : (mapping xs).equals (mapping ys) =
    if xs.length = ys.length then equalEntries xs ys else some false :=
  equals_eq _ _

/-! ## One entry -/

def Meets (a b : Value × Value) : Prop := b.1.equals a.1 = some true

/-- The key of an entry is equal to no more than one key of a mapping. -/
def MeetsOnce (a : Value × Value) (ys : List (Value × Value)) : Prop :=
  ys.Pairwise fun b c => ¬ (Meets a b ∧ Meets a c)

theorem MeetsOnce.perm (h : MeetsOnce a ys) (hys : ys'.Perm ys) : MeetsOnce a ys' :=
  (hys.pairwise_iff fun hbc hcb => hbc hcb.symm).2 h

theorem equalEntry_cons_of_meets (h : Meets a b) (ys : List (Value × Value)) :
    equalEntry (b :: ys) a.1 a.2 = a.2.equals b.2 := by
  rw [equalEntry]
  exact if_pos h

theorem equalEntry_cons_of_not_meets (h : ¬ Meets a b) (ys : List (Value × Value)) :
    equalEntry (b :: ys) a.1 a.2 = equalEntry ys a.1 a.2 := by
  rw [equalEntry]
  exact if_neg h

theorem equalEntry_of_meets : ∀ {ys : List (Value × Value)}, MeetsOnce a ys → b ∈ ys → Meets a b →
    equalEntry ys a.1 a.2 = a.2.equals b.2
  | c :: ys, honce, hb, hmeets => by
      obtain ⟨hhead, htail⟩ := List.pairwise_cons.1 honce
      rcases List.mem_cons.1 hb with rfl | hb
      · exact equalEntry_cons_of_meets hmeets ys
      · rw [equalEntry_cons_of_not_meets fun hc => hhead b hb ⟨hc, hmeets⟩]
        exact equalEntry_of_meets htail hb hmeets

theorem equalEntry_of_forall_not_meets : ∀ {ys : List (Value × Value)}, (∀ b ∈ ys, ¬ Meets a b) →
    equalEntry ys a.1 a.2 = some false
  | [], _ => by rw [equalEntry]
  | c :: ys, h => by
      obtain ⟨hc, hys⟩ := List.forall_mem_cons.1 h
      rw [equalEntry_cons_of_not_meets hc]
      exact equalEntry_of_forall_not_meets hys

theorem equalEntry_perm (h : MeetsOnce a ys) (hys : ys'.Perm ys) :
    equalEntry ys' a.1 a.2 = equalEntry ys a.1 a.2 := by
  by_cases hmeets : ∃ b ∈ ys, Meets a b
  · obtain ⟨b, hb, hmeets⟩ := hmeets
    rw [equalEntry_of_meets h hb hmeets,
      equalEntry_of_meets (h.perm hys) (hys.mem_iff.2 hb) hmeets]
  · push Not at hmeets
    rw [equalEntry_of_forall_not_meets hmeets,
      equalEntry_of_forall_not_meets fun b hb => hmeets b (hys.mem_iff.1 hb)]

/-! ## All entries -/

def HasAnswer (xs ys : List (Value × Value)) (r : Option Bool) : Prop :=
  ∃ a ∈ xs, equalEntry ys a.1 a.2 = r

theorem equalEntries_cons (a : Value × Value) (xs ys : List (Value × Value)) :
    equalEntries (a :: xs) ys =
      if equalEntry ys a.1 a.2 = some true then equalEntries xs ys
      else equalEntry ys a.1 a.2 := by
  rw [equalEntries]
  rcases equalEntry ys a.1 a.2 with _ | _ | _ <;> rfl

theorem equalEntries_eq_true_iff : ∀ {xs : List (Value × Value)},
    equalEntries xs ys = some true ↔ ∀ a ∈ xs, equalEntry ys a.1 a.2 = some true
  | [] => by simp [equalEntries]
  | a :: xs => by
      rw [equalEntries_cons, List.forall_mem_cons, ← equalEntries_eq_true_iff]
      split_ifs with h <;> simp [h]

theorem hasAnswer_of_equalEntries : ∀ {xs : List (Value × Value)}, equalEntries xs ys = r →
    r ≠ some true → HasAnswer xs ys r
  | [], h, hr => by
      rw [equalEntries] at h
      exact absurd h.symm hr
  | a :: xs, h, hr => by
      rw [equalEntries_cons] at h
      split_ifs at h
      · obtain ⟨c, hc, hanswer⟩ := hasAnswer_of_equalEntries h hr
        exact ⟨c, List.mem_cons_of_mem _ hc, hanswer⟩
      · exact ⟨a, List.mem_cons_self, h⟩

/-- One entry does not compare and another one is not equal. -/
def Torn (xs ys : List (Value × Value)) : Prop :=
  HasAnswer xs ys none ∧ HasAnswer xs ys (some false)

theorem eq_none_or_eq_false (h : r ≠ some true) : r = none ∨ r = some false := by
  rcases r with _ | _ | _
  · exact .inl rfl
  · exact .inr rfl
  · exact absurd rfl h

/-- Where no two entries fail in different ways, the answer is that of any entry that fails. -/
theorem equalEntries_eq_iff (h : ¬ Torn xs ys) (hr : r ≠ some true) :
    equalEntries xs ys = r ↔ HasAnswer xs ys r := by
  refine ⟨fun heq => hasAnswer_of_equalEntries heq hr, fun hanswer => ?_⟩
  have ⟨a, ha, heq⟩ := hanswer
  have hne : equalEntries xs ys ≠ some true := fun htrue =>
    hr (heq.symm.trans (equalEntries_eq_true_iff.1 htrue a ha))
  have hfirst : HasAnswer xs ys (equalEntries xs ys) := hasAnswer_of_equalEntries rfl hne
  rcases eq_none_or_eq_false hr with rfl | rfl <;> rcases eq_none_or_eq_false hne with hs | hs
  · exact hs
  · exact absurd ⟨hanswer, hs ▸ hfirst⟩ h
  · exact absurd ⟨hs ▸ hfirst, hanswer⟩ h
  · exact hs

/-- Mappings whose entries fail in the same ways, which are no two, have the same answer. -/
theorem equalEntries_congr (h : ¬ Torn xs ys)
    (hanswers : ∀ r ≠ some true, HasAnswer xs' ys' r ↔ HasAnswer xs ys r) :
    equalEntries xs' ys' = equalEntries xs ys := by
  have h' : ¬ Torn xs' ys' := fun ⟨hnone, hfalse⟩ =>
    h ⟨(hanswers none nofun).1 hnone, (hanswers (some false) nofun).1 hfalse⟩
  by_cases htrue : equalEntries xs ys = some true
  · by_contra hne
    rw [htrue] at hne
    have hanswer := (hanswers _ hne).1 (hasAnswer_of_equalEntries rfl hne)
    exact hne ((equalEntries_eq_iff h hne).2 hanswer ▸ htrue)
  · rw [equalEntries_eq_iff h' htrue, hanswers _ htrue, ← equalEntries_eq_iff h htrue]

/-! ## Other orders -/

theorem hasAnswer_perm (honce : ∀ a ∈ xs, MeetsOnce a ys) (hxs : xs'.Perm xs) (hys : ys'.Perm ys) :
    HasAnswer xs' ys' r ↔ HasAnswer xs ys r := by
  unfold HasAnswer
  simp only [hxs.mem_iff]
  exact exists_congr fun a => and_congr_right fun ha => by rw [equalEntry_perm (honce a ha) hys]

/-- An entry can be moved to the front, where it gives the answer if it fails. -/
theorem exists_perm_of_hasAnswer (h : HasAnswer xs ys r) (hr : r ≠ some true) :
    ∃ xs', xs'.Perm xs ∧ equalEntries xs' ys = r := by
  obtain ⟨a, ha, rfl⟩ := h
  obtain ⟨front, rest, rfl⟩ := List.append_of_mem ha
  refine ⟨a :: (front ++ rest), List.perm_middle.symm, ?_⟩
  rw [equalEntries_cons, if_neg hr]

theorem equals_mapping_perm_iff (honce : ∀ a ∈ xs, MeetsOnce a ys)
    (hlength : xs.length = ys.length) :
    (∀ xs' ys', xs'.Perm xs → ys'.Perm ys →
      (mapping xs').equals (mapping ys') = (mapping xs).equals (mapping ys)) ↔ ¬ Torn xs ys := by
  have hequals : ∀ {xs' ys'}, xs'.Perm xs → ys'.Perm ys →
      (mapping xs').equals (mapping ys') = equalEntries xs' ys' := fun hxs hys => by
    rw [equals_mapping, if_pos ((hxs.length_eq.trans hlength).trans hys.length_eq.symm)]
  constructor
  · rintro hperm ⟨hnone, hfalse⟩
    obtain ⟨zs, hzs, heq⟩ := exists_perm_of_hasAnswer hnone nofun
    obtain ⟨zs', hzs', heq'⟩ := exists_perm_of_hasAnswer hfalse nofun
    have hsame := (hperm zs ys hzs (.refl ys)).trans (hperm zs' ys hzs' (.refl ys)).symm
    rw [hequals hzs (.refl ys), hequals hzs' (.refl ys), heq, heq'] at hsame
    cases hsame
  · intro htorn xs' ys' hxs hys
    rw [hequals hxs hys, hequals (.refl xs) (.refl ys)]
    exact equalEntries_congr htorn fun r _ => hasAnswer_perm honce hxs hys

/-! ## The other way round -/

/-- Equality puts keys of two mappings in pairs: it is the same both ways between them, and no key
is equal to two keys of the other mapping. Nor does it matter for two values under equal keys which
one comes first. -/
structure Paired (xs ys : List (Value × Value)) : Prop where
  meets_comm : ∀ a ∈ xs, ∀ b ∈ ys, Meets a b ↔ Meets b a
  left_once : ∀ a ∈ xs, MeetsOnce a ys
  right_once : ∀ b ∈ ys, MeetsOnce b xs
  equals_comm : ∀ a ∈ xs, ∀ b ∈ ys, Meets a b → b.2.equals a.2 = a.2.equals b.2

theorem Paired.symm (h : Paired xs ys) : Paired ys xs where
  meets_comm b hb a ha := (h.meets_comm a ha b hb).symm
  left_once := h.right_once
  right_once := h.left_once
  equals_comm b hb a ha hmeets := (h.equals_comm a ha b hb ((h.meets_comm a ha b hb).2 hmeets)).symm

def UnequalKeys (xs : List (Value × Value)) : Prop :=
  xs.Pairwise fun a b => a.1.equals b.1 ≠ some true

/-- Unequal keys are equal to no more than one key of the other mapping, where equality goes through
from key to key. -/
theorem UnequalKeys.meetsOnce (hys : UnequalKeys ys)
    (hthrough : ∀ b ∈ ys, ∀ c ∈ ys, Meets a b → Meets a c → b.1.equals c.1 = some true) :
    MeetsOnce a ys :=
  List.Pairwise.imp_of_mem (fun hb hc hne hmeets => hne (hthrough _ hb _ hc hmeets.1 hmeets.2)) hys

theorem hasAnswer_iff (honce : ∀ a ∈ xs, MeetsOnce a ys) : HasAnswer xs ys r ↔
    (∃ a ∈ xs, ∃ b ∈ ys, Meets a b ∧ a.2.equals b.2 = r) ∨
      r = some false ∧ ∃ a ∈ xs, ∀ b ∈ ys, ¬ Meets a b := by
  constructor
  · rintro ⟨a, ha, rfl⟩
    by_cases hmeets : ∃ b ∈ ys, Meets a b
    · obtain ⟨b, hb, hmeets⟩ := hmeets
      exact .inl ⟨a, ha, b, hb, hmeets, (equalEntry_of_meets (honce a ha) hb hmeets).symm⟩
    · push Not at hmeets
      exact .inr ⟨equalEntry_of_forall_not_meets hmeets, a, ha, hmeets⟩
  · rintro (⟨a, ha, b, hb, hmeets, rfl⟩ | ⟨rfl, a, ha, hnone⟩)
    · exact ⟨a, ha, equalEntry_of_meets (honce a ha) hb hmeets⟩
    · exact ⟨a, ha, equalEntry_of_forall_not_meets hnone⟩

theorem MeetsOnce.place_unique (h : MeetsOnce a ys) {i j : Fin ys.length}
    (hi : Meets a (ys.get i)) (hj : Meets a (ys.get j)) : i = j := by
  have honce := List.pairwise_iff_get.1 h
  rcases lt_trichotomy i j with hlt | heq | hlt
  · exact absurd ⟨hi, hj⟩ (honce i j hlt)
  · exact heq
  · exact absurd ⟨hj, hi⟩ (honce j i hlt)

/-- If one of two mappings of the same length has a key without a partner, so has the other. -/
theorem Paired.exists_unmet (h : Paired xs ys) (hlength : xs.length = ys.length)
    (hunmet : ∃ a ∈ xs, ∀ b ∈ ys, ¬ Meets a b) : ∃ b ∈ ys, ∀ a ∈ xs, ¬ Meets b a := by
  by_contra hall
  push Not at hall
  -- otherwise the partners stand in as many places as there are, which leaves none without
  have hpartner : ∀ j, ∃ i, Meets (xs.get i) (ys.get j) := fun j => by
    obtain ⟨a, ha, hmeets⟩ := hall (ys.get j) (ys.get_mem j)
    obtain ⟨i, rfl⟩ := List.mem_iff_get.1 ha
    exact ⟨i, (h.meets_comm _ ha _ (ys.get_mem j)).2 hmeets⟩
  choose partner hpartner using hpartner
  have hinjective : Function.Injective partner := fun j j' heq =>
    (h.left_once _ (xs.get_mem _)).place_unique (hpartner j) (heq ▸ hpartner j')
  have hsurjective : Function.Surjective partner :=
    ((Fintype.bijective_iff_injective_and_card partner).2 ⟨hinjective, by simp [hlength]⟩).2
  obtain ⟨a, ha, hnone⟩ := hunmet
  obtain ⟨i, rfl⟩ := List.mem_iff_get.1 ha
  obtain ⟨j, rfl⟩ := hsurjective i
  exact hnone _ (ys.get_mem j) (hpartner j)

theorem Paired.hasAnswer_swap (h : Paired xs ys) (hlength : xs.length = ys.length)
    (hanswer : HasAnswer xs ys r) : HasAnswer ys xs r := by
  rw [hasAnswer_iff h.right_once]
  rcases (hasAnswer_iff h.left_once).1 hanswer with ⟨a, ha, b, hb, hmeets, rfl⟩ | ⟨hr, hunmet⟩
  · exact .inl ⟨b, hb, a, ha, (h.meets_comm a ha b hb).1 hmeets, h.equals_comm a ha b hb hmeets⟩
  · exact .inr ⟨hr, h.exists_unmet hlength hunmet⟩

theorem Paired.equals_swap (h : Paired xs ys) (htorn : ¬ Torn xs ys) :
    (mapping ys).equals (mapping xs) = (mapping xs).equals (mapping ys) := by
  rw [equals_mapping, equals_mapping]
  by_cases hlength : xs.length = ys.length
  · rw [if_pos hlength, if_pos hlength.symm]
    exact equalEntries_congr htorn fun r _ =>
      ⟨h.symm.hasAnswer_swap hlength.symm, h.hasAnswer_swap hlength⟩
  · rw [if_neg hlength, if_neg (Ne.symm hlength)]

/-- A value of the first mapping does not compare with the value under an equal key of the second
one, while another one is not equal to that value, or has a key that is not found. -/
def Mixed (xs ys : List (Value × Value)) : Prop :=
  (∃ a ∈ xs, ∃ b ∈ ys, Meets a b ∧ a.2.equals b.2 = none) ∧
    ((∃ a ∈ xs, ∃ b ∈ ys, Meets a b ∧ a.2.equals b.2 = some false) ∨
      ∃ a ∈ xs, ∀ b ∈ ys, ¬ Meets a b)

theorem torn_iff_mixed (honce : ∀ a ∈ xs, MeetsOnce a ys) : Torn xs ys ↔ Mixed xs ys := by
  unfold Torn Mixed
  simp only [hasAnswer_iff honce, reduceCtorEq, false_and, or_false, true_and]

/-- Two mappings whose keys are equal in pairs have one answer, whatever the order of their entries
is and whichever of them comes first, unless they are of the same length and one entry does not
compare while another one is not equal. -/
theorem equals_mapping_unordered_iff {xs ys : List (Value × Value)} (h : Paired xs ys) :
    ((∀ xs' ys', xs'.Perm xs → ys'.Perm ys →
        (mapping xs').equals (mapping ys') = (mapping xs).equals (mapping ys)) ∧
      (mapping ys).equals (mapping xs) = (mapping xs).equals (mapping ys)) ↔
      ¬ (xs.length = ys.length ∧ Mixed xs ys) := by
  rw [← torn_iff_mixed h.left_once]
  by_cases hlength : xs.length = ys.length
  · rw [equals_mapping_perm_iff h.left_once hlength, and_iff_right hlength]
    exact and_iff_left_of_imp h.equals_swap
  · refine iff_of_true ⟨fun xs' ys' hxs hys => ?_, ?_⟩ fun hboth => hlength hboth.1
    · have hlength' : xs'.length ≠ ys'.length := by rwa [hxs.length_eq, hys.length_eq]
      rw [equals_mapping, equals_mapping, if_neg hlength, if_neg hlength']
    · rw [equals_mapping, equals_mapping, if_neg hlength, if_neg (Ne.symm hlength)]

/-! ## Texts and instants as keys -/

theorem equals_string (s t : String) : (string s).equals (string t) = some (decide (s = t)) := by
  have hequals : (string s).equals (string t) = some (Text.compareBytes s t == .eq) :=
    equals_eq_map_compare _ (.string t)
  rw [hequals, Option.some.injEq, Bool.eq_iff_iff, beq_iff_eq, decide_eq_true_iff,
    Text.compareBytes_eq_iff]

theorem equals_string_eq_true_iff {s t : String} :
    (string s).equals (string t) = some true ↔ s = t := by
  rw [equals_string, Option.some.injEq, decide_eq_true_iff]

def TextKeys (xs : List (Value × Value)) : Prop := ∀ a ∈ xs, ∃ s, a.1 = string s

theorem TextKeys.meetsOnce (hxs : TextKeys xs) (hys : TextKeys ys) (hunequal : UnequalKeys ys)
    (ha : a ∈ xs) : MeetsOnce a ys := by
  refine hunequal.meetsOnce fun b hb c hc hab hac => ?_
  obtain ⟨s, hs⟩ := hxs a ha
  obtain ⟨t, ht⟩ := hys b hb
  obtain ⟨u, hu⟩ := hys c hc
  rw [Meets, ht, hs, equals_string_eq_true_iff] at hab
  rw [Meets, hu, hs, equals_string_eq_true_iff] at hac
  rw [ht, hu, equals_string_eq_true_iff, hab, hac]

theorem TextKeys.paired (hxs : TextKeys xs) (hys : TextKeys ys) (hux : UnequalKeys xs)
    (huy : UnequalKeys ys)
    (hvalues : ∀ a ∈ xs, ∀ b ∈ ys, Meets a b → b.2.equals a.2 = a.2.equals b.2) : Paired xs ys where
  meets_comm a ha b hb := by
    obtain ⟨s, hs⟩ := hxs a ha
    obtain ⟨t, ht⟩ := hys b hb
    rw [Meets, Meets, hs, ht, equals_string_eq_true_iff, equals_string_eq_true_iff, eq_comm]
  left_once _ ha := hxs.meetsOnce hys huy ha
  right_once _ hb := hys.meetsOnce hxs hux hb
  equals_comm := hvalues

/-- The entries of both mappings are in different orders, one text has no partner, and one value is
not equal: all orders say so. -/
theorem equals_mapping_unordered_texts :
    let xs : List (Value × Value) := [
      (.string "age", .number (.integer ⟨.u8, 30, by decide⟩)), (.string "nick", .null),
      (.string "paid", .bool true)]
    let ys : List (Value × Value) := [
      (.string "paid", .bool false), (.string "name", .string "Ana"),
      (.string "age", .present (.number (.integer ⟨.i64, 30, by decide⟩)))]
    UnequalKeys xs ∧ UnequalKeys ys ∧ Paired xs ys ∧ ¬ (xs.length = ys.length ∧ Mixed xs ys) ∧
      (mapping xs).equals (mapping ys) = some false ∧
      (mapping xs.reverse).equals (mapping ys.reverse) = some false ∧
      (mapping ys).equals (mapping xs) = some false := by
  intro xs ys
  have hxs : UnequalKeys xs := by simp [xs, UnequalKeys, equals_string]
  have hys : UnequalKeys ys := by simp [ys, UnequalKeys, equals_string]
  have htexts : TextKeys xs ∧ TextKeys ys := by simp [xs, ys, TextKeys]
  have hlacks : (∀ a ∈ xs, a.2.Lacks IsMapping) ∧ ∀ b ∈ ys, b.2.Lacks IsMapping := by
    simp [xs, ys, IsScalar.lacks_iff, IsScalar.number, IsScalar.string, IsScalar.bool, IsMapping]
  have hpaired : Paired xs ys := htexts.1.paired htexts.2 hxs hys fun a ha b hb _ =>
    equals_comm a.2 b.2 (hlacks.1 a ha) (hlacks.2 b hb)
  have hage : (number (.integer ⟨.u8, 30, by decide⟩)).equals
      (present (number (.integer ⟨.i64, 30, by decide⟩))) = some true := equals_eq _ _
  have hpaid : (bool true).equals (bool false) = some false := equals_eq _ _
  have hmixed : ¬ (xs.length = ys.length ∧ Mixed xs ys) := by
    simp [xs, ys, Mixed, Meets, equals_string, hage, hpaid]
  have hequals : (mapping xs).equals (mapping ys) = some false := by
    simp [xs, ys, equals_mapping, equalEntries, equalEntry, equals_string, hage]
  obtain ⟨hperm, hswap⟩ := (equals_mapping_unordered_iff hpaired).2 hmixed
  exact ⟨hxs, hys, hpaired, hmixed, hequals,
    (hperm _ _ (List.reverse_perm xs) (List.reverse_perm ys)).trans hequals, hswap.trans hequals⟩

/-- It depends on the order of the entries whether one that does not compare or one that is not
equal comes first. And two texts for one day are both found under its instant, so that the other
instant is looked for only if the instants come first. -/
theorem equals_mapping_ordered :
    let byte : (n : Int) → Width.u8.Holds n → Value := fun n h =>
      .present (.number (.integer ⟨.u8, n, h⟩))
    let xs : List (Value × Value) := [
      (.string "age", .null), (.string "level", byte 1 (by decide))]
    let ys : List (Value × Value) := [
      (.string "age", byte 30 (by decide)), (.string "level", byte 2 (by decide))]
    let day : Value := .timestamp ⟨1709251200, 0, by decide, by decide, by decide, by decide⟩
    let days : List (Value × Value) := [
      (.string "2024-03-01", .bool true), (.string "03/01/2024", .bool true)]
    let instants : List (Value × Value) := [(day, .bool true), (.timestamp .epoch, .bool true)]
    UnequalKeys xs ∧ UnequalKeys ys ∧ UnequalKeys days ∧ UnequalKeys instants ∧
      (mapping xs).equals (mapping ys) = none ∧
      (mapping xs.reverse).equals (mapping ys) = some false ∧
      (mapping ys.reverse).equals (mapping xs) = some false ∧
      (mapping days).equals (mapping instants) = some true ∧
      (mapping instants).equals (mapping days) = some false := by
  intro byte xs ys day days instants
  have hage : null.equals (byte 30 (by decide)) = none := equals_eq _ _
  have hlevel : (byte 1 (by decide)).equals (byte 2 (by decide)) = some false := equals_eq _ _
  have hlevel' : (byte 2 (by decide)).equals (byte 1 (by decide)) = some false := equals_eq _ _
  have hsame : (bool true).equals (bool true) = some true := equals_eq _ _
  have hday : ∀ s ∈ ["2024-03-01", "03/01/2024"], day.equals (string s) = some true ∧
      (string s).equals day = some true ∧
      (string s).equals (timestamp .epoch) = some false := by
    simp only [equals_eq]
    decide +kernel
  simp only [List.forall_mem_cons, List.not_mem_nil, false_imp_iff, implies_true, and_true] at hday
  obtain ⟨⟨hfirst, hfirst', hepoch⟩, hsecond, -, hepoch'⟩ := hday
  have hinstants : day.equals (timestamp .epoch) = some false :=
    (equals_eq _ _).trans (by decide +kernel)
  refine ⟨?_, ?_, ?_, ?_, ?_, ?_, ?_, ?_, ?_⟩
  · simp [xs, UnequalKeys, equals_string]
  · simp [ys, UnequalKeys, equals_string]
  · simp [days, UnequalKeys, equals_string]
  · simp [instants, UnequalKeys, hinstants]
  · simp [xs, ys, equals_mapping, equalEntries, equalEntry, equals_string, hage]
  · simp [xs, ys, equals_mapping, equalEntries, equalEntry, equals_string, hlevel]
  · simp [xs, ys, equals_mapping, equalEntries, equalEntry, equals_string, hlevel']
  · simp [days, instants, equals_mapping, equalEntries, equalEntry, hfirst, hsecond, hsame]
  · simp [days, instants, equals_mapping, equalEntries, equalEntry, hfirst', hepoch, hepoch', hsame]

end RecordQuery.Value
