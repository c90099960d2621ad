import Mathlib.Data.List.Nodup
import RecordQuery.Options

/-!
# Options as documents

What is written for an order or for options is read back as the same order and options
(`Order.ofJson?_toJson`, `Options.ofJson?_toJson`). In an object, each option is read from its own
member or keeps its default, wherever the member stands and whatever else is in the object
(`Options.ofJson?_of_holds`).
-/

namespace RecordQuery

/-! ## Members of objects -/

namespace Json

variable {members : List (String × Json)} {name : String} {j : Json}

theorem member?_eq_none (h : ∀ m ∈ members, m.1 ≠ name) : member? members name = none := by
  rw [member?, Option.map_eq_none_iff, List.find?_eq_none]
  intro m hm
  simpa using h m (List.mem_reverse.1 hm)

theorem member?_eq_some (hmem : (name, j) ∈ members)
    (honly : ∀ m ∈ members, m.1 = name → m.2 = j) : member? members name = some j := by
  rw [member?]
  cases hfind : members.reverse.find? (·.1 == name) with
  | none =>
      have hne := List.find?_eq_none.1 hfind (name, j) (List.mem_reverse.2 hmem)
      simp at hne
  | some m =>
      have hm : m ∈ members := List.mem_reverse.1 (List.mem_of_find?_eq_some hfind)
      have hname : m.1 = name := by simpa using List.find?_some hfind
      rw [Option.map_some, honly m hm hname]

end Json

/-! ## Orders -/

theorem Direction.ofJson?_toJson (d : Direction) : ofJson? d.toJson = some d := by
  cases d <;> rfl

theorem FieldPath.ofJson?_toJson (p : FieldPath) : ofJson? p.toJson = some p := by
  rw [toJson, ofJson?, parse_display]

theorem Order.ofJson?_toJson (o : Order) : ofJson? o.toJson = some o := by
  have hfield : Json.member? [("field", o.field.toJson), ("dir", o.direction.toJson)] "field" =
      some o.field.toJson := rfl
  have hdir : Json.member? [("field", o.field.toJson), ("dir", o.direction.toJson)] "dir" =
      some o.direction.toJson := rfl
  rw [toJson, ofJson?, hfield, hdir, Option.bind_some, Option.bind_some,
    FieldPath.ofJson?_toJson, Direction.ofJson?_toJson]
  rfl

/-! ## Single options -/

theorem countOfJson?_integer {n : ℕ} (h : n ≤ maxCount) : countOfJson? (.integer n) = some n := by
  rw [countOfJson?, if_pos ⟨Int.natCast_nonneg n, Int.ofNat_le.2 h⟩, Int.toNat_natCast]

def optionalToJson {α : Type} (write : α → Json) : Option α → Json
  | none => .null
  | some a => write a

theorem optionalOfJson?_optionalToJson {α : Type} {read : Json → Option α} {write : α → Json}
    {o : Option α} (hnull : ∀ a, write a ≠ .null) (hread : ∀ a ∈ o, read (write a) = some a) :
    optionalOfJson? read (optionalToJson write o) = some o := by
  cases o with
  | none => rfl
  | some a =>
      have h := hread a rfl
      rw [optionalToJson]
      cases hw : write a with
      | null => exact absurd hw (hnull a)
      | _ =>
          rw [hw] at h
          rw [optionalOfJson?, h]
          · rfl
          · exact Json.noConfusion

namespace Options

/-! ## Objects that hold options -/

/-- The limits are counts. -/
structure Fits (o : Options) : Prop where
  defaultLimit : o.defaultLimit ≤ maxCount
  maxLimit : ∀ n ∈ o.maxLimit, n ≤ maxCount

def members (o : Options) : List (String × Json) := [
  ("default_limit", .integer o.defaultLimit),
  ("max_limit", optionalToJson (fun n : ℕ => .integer n) o.maxLimit),
  ("default_sort", optionalToJson Order.toJson o.defaultSort)]

theorem toJson_eq (o : Options) : o.toJson = .object o.members := by
  obtain ⟨defaultLimit, maxLimit, defaultSort⟩ := o
  cases maxLimit <;> cases defaultSort <;> rfl

theorem nodup_members (o : Options) : (o.members.map (·.1)).Nodup := by
  change ["default_limit", "max_limit", "default_sort"].Nodup
  decide

/-- The members are those that are written for the given options of `o`, in any order and among
members that are no options. -/
def Holds (members : List (String × Json)) (o : Options) (given : List String) : Prop :=
  ∃ written others, o.toJson = .object written ∧ (∀ m ∈ others, m.1 ∉ written.map (·.1)) ∧
    members.Perm (written.filter (fun m => m.1 ∈ given) ++ others)

/-- The named options as in `o` and the others as in `base`. -/
def replace (base o : Options) (given : List String) : Options where
  defaultLimit := if "default_limit" ∈ given then o.defaultLimit else base.defaultLimit
  maxLimit := if "max_limit" ∈ given then o.maxLimit else base.maxLimit
  defaultSort := if "default_sort" ∈ given then o.defaultSort else base.defaultSort

variable {o : Options} {members : List (String × Json)} {given : List String}

theorem Holds.mem_iff (h : Holds members o given) {m : String × Json}
    (hm : m.1 ∈ o.members.map (·.1)) : m ∈ members ↔ m ∈ o.members ∧ m.1 ∈ given := by
  obtain ⟨written, others, hwritten, hothers, hperm⟩ := h
  obtain rfl : o.members = written := by simpa [toJson_eq] using hwritten
  rw [hperm.mem_iff, List.mem_append, List.mem_filter, decide_eq_true_eq]
  constructor
  · rintro (h | h)
    · exact h
    · exact absurd hm (hothers m h)
  · exact .inl

theorem Holds.member? (h : Holds members o given) {name : String} {j : Json}
    (hj : (name, j) ∈ o.members) :
    Json.member? members name = if name ∈ given then some j else none := by
  have hname : name ∈ o.members.map (·.1) := List.mem_map_of_mem (f := (·.1)) hj
  split
  · rename_i hgiven
    refine Json.member?_eq_some ((h.mem_iff hname).2 ⟨hj, hgiven⟩) fun m hm hmname => ?_
    obtain ⟨hmem, -⟩ := (h.mem_iff (hmname ▸ hname)).1 hm
    exact congrArg (·.2) (List.inj_on_of_nodup_map o.nodup_members hmem hj hmname)
  · rename_i hgiven
    refine Json.member?_eq_none fun m hm hmname => hgiven ?_
    exact hmname ▸ ((h.mem_iff (hmname ▸ hname)).1 hm).2

theorem memberOr_ite {α : Type} {read : Json → Option α} {j : Json} {a : α} (h : read j = some a)
    (standard : α) (p : Prop) [Decidable p] :
    memberOr read standard (if p then some j else none) = some (if p then a else standard) := by
  split
  · exact h
  · rfl

theorem ofJson?_of_holds (ho : o.Fits) (h : Holds members o given) :
    ofJson? (.object members) = some (replace {} o given) := by
  have hlimit : countOfJson? (.integer o.defaultLimit) = some o.defaultLimit :=
    countOfJson?_integer ho.defaultLimit
  have hmax : optionalOfJson? countOfJson? (optionalToJson (fun n : ℕ => .integer n) o.maxLimit) =
      some o.maxLimit :=
    optionalOfJson?_optionalToJson (fun _ => Json.noConfusion) fun n hn =>
      countOfJson?_integer (ho.maxLimit n hn)
  have hsort : optionalOfJson? Order.ofJson? (optionalToJson Order.toJson o.defaultSort) =
      some o.defaultSort :=
    optionalOfJson?_optionalToJson (fun _ => Json.noConfusion) fun s _ => Order.ofJson?_toJson s
  rw [ofJson?, h.member? List.mem_cons_self, h.member? (List.mem_cons_of_mem _ List.mem_cons_self),
    h.member? (List.mem_cons_of_mem _ (List.mem_cons_of_mem _ List.mem_cons_self)), ofMembers?,
    memberOr_ite hlimit, memberOr_ite hmax, memberOr_ite hsort]
  rfl

theorem ofJson?_toJson (ho : o.Fits) : ofJson? o.toJson = some o := by
  have hall : Holds o.members o (o.members.map (·.1)) := by
    refine ⟨o.members, [], o.toJson_eq, fun m hm => absurd hm List.not_mem_nil, ?_⟩
    rw [List.append_nil, List.filter_eq_self.2]
    intro m hm
    exact decide_eq_true (List.mem_map_of_mem hm)
  rw [toJson_eq, ofJson?_of_holds ho hall]
  rfl

/-- Orders and options are read back from what is written for them. An object with the documents of
some of the options, in any order and among members of other names, is read as the defaults with
just these options in place of theirs. -/
theorem documents_read_back :
    (∀ o : Order, Order.ofJson? o.toJson = some o) ∧
    (∀ o : Options, o.Fits → ofJson? o.toJson = some o) ∧
    ∀ (o : Options) (given : List String) (members : List (String × Json)), o.Fits →
      Holds members o given → ofJson? (.object members) = some (replace {} o given) :=
  ⟨Order.ofJson?_toJson, fun _ => ofJson?_toJson, fun _ _ _ => ofJson?_of_holds⟩

/-- Two of three options, behind members of other names, one of which differs only in case. -/
theorem documents_read_back_partly :
    let sort : Order := ⟨.parse ".home..city", .descending⟩
    let o : Options := { defaultLimit := 7, maxLimit := some maxCount, defaultSort := some sort }
    let given := ["default_sort", "max_limit"]
    let members : List (String × Json) := [
      ("theme", .array [.null]), ("Default_Limit", .integer 3),
      ("default_sort", .object [("field", .string ".home..city"), ("dir", .string "desc")]),
      ("max_limit", .integer 18446744073709551615)]
    o.Fits ∧ Holds members o given ∧ ofJson? o.toJson = some o ∧
      ofJson? (.object members) = some
        { defaultLimit := 20, maxLimit := some maxCount, defaultSort := some sort } := by
  intro sort o given members
  have ho : o.Fits := ⟨by decide, by decide⟩
  have hholds : Holds members o given := by
    refine ⟨o.members, [members[1], members[0]], o.toJson_eq, ?_, (List.reverse_perm members).symm⟩
    decide
  obtain ⟨-, hback, hpartly⟩ := documents_read_back
  exact ⟨ho, hholds, hback o ho, hpartly o given members ho hholds⟩

end Options

end RecordQuery
