import Mathlib.Data.List.Nodup
import Mathlib.Data.List.Perm.Basic
import Mathlib.Data.List.Perm.Subperm
import PlanarLP.Proofs.DocumentGrammar
import PlanarLP.Proofs.ReportedProblem

set_option autoImplicit false

namespace PlanarLP

open Json (Form Members Writes)

namespace Json

-- The members of a record in some order, with members of other names among them.
inductive SameRecord (names : List String) : Json → Json → Prop
  | same (json : Json) : SameRecord names json json
  | members (ms ms' : List (Option String × Json)) (extra : Members) : (∀ m ∈ extra, m.1 ∉ names) →
      ms'.Perm (ms ++ extra.map entry) → SameRecord names (.object ms) (.object ms')

end Json

open Json (SameRecord)

namespace ProblemFile

inductive SameMember : Option String × Json → Option String × Json → Prop
  | same (member : Option String × Json) : SameMember member member
  | constraints (items items' : List Json) : List.Forall₂ (SameRecord ["a", "b", "c", "direction"]) items items' →
      SameMember (some "constraints", .array items) (some "constraints", .array items')
  | objective (value value' : Json) : SameRecord ["g", "h"] value value' →
      SameMember (some "objective", value) (some "objective", value')
  | bounds (value value' : Json) : SameRecord ["x_max", "y_max"] value value' →
      SameMember (some "bounds", value) (some "bounds", value')

def Rearranged (members members' : List (Option String × Json)) : Prop :=
  ∃ middle, List.Forall₂ SameMember members middle ∧ middle.Perm members'

inductive Spoilt : List (Option String × Json) → List (Option String × Json) → Prop
  | inserted (before after : List (Option String × Json)) (extra : Option String × Json) :
      Spoilt (before ++ after) (before ++ extra :: after)
  | dropped (before after : List (Option String × Json)) (gone : Option String × Json) :
      Spoilt (before ++ gone :: after) (before ++ after)
  | miscounted (before after : List (Option String × Json)) (value other : Json) :
      (∀ first second, other ≠ .array [first, second]) →
      Spoilt (before ++ (some "constraints", value) :: after) (before ++ (some "constraints", other) :: after)

end ProblemFile

open ProblemFile (SameMember Rearranged Spoilt)

section Members

theorem named_perm (ms : List (Option String × Json)) (target : Members) (permuted : ms.Perm (target.map Json.entry)) :
    ∃ named : Members, ms = named.map Json.entry ∧ named.Perm target := by
  have given : List.Forall₂ (fun m n => m = Json.entry n) (target.map Json.entry) target := by
    rw [List.forall₂_map_left_iff]
    exact List.forall₂_same.mpr fun _ _ => rfl
  obtain ⟨named, same, order⟩ := List.perm_comp_forall₂ permuted given
  refine ⟨named, ?_, order⟩
  rwa [← List.forall₂_eq_eq_eq, List.forall₂_map_right_iff]

theorem lookup_iff (members : Members) (distinct : (members.map (·.1)).Nodup) (name : String) (value : Json) :
    members.lookup name = some value ↔ (name, value) ∈ members := by
  refine ⟨fun found => ?_, record_member members distinct name value⟩
  obtain ⟨before, after, rfl, -⟩ := List.lookup_eq_some_iff.mp found
  exact List.mem_append_cons_self

theorem lookup_perm (members others : Members) (distinct : (members.map (·.1)).Nodup) (permuted : others.Perm members)
    (name : String) : others.lookup name = members.lookup name := by
  refine Option.ext fun value => ?_
  rw [lookup_iff others ((permuted.map _).nodup_iff.mpr distinct), lookup_iff members distinct, permuted.mem_iff]

end Members

section Records

variable (names : List String)

theorem record_rearranged (ms ms' : List (Option String × Json)) (extra : Members) (unknown : ∀ m ∈ extra, m.1 ∉ names)
    (permuted : ms'.Perm (ms ++ extra.map Json.entry)) (known : Members)
    (read : (Json.object ms).members? names false = some known) :
    ∃ known', (Json.object ms').members? names false = some known' ∧
      ∀ name, known'.lookup name = known.lookup name := by
  obtain ⟨named, rfl, shown, -, once⟩ := (members_iff names false ms known).mp read
  rw [← List.map_append] at permuted
  obtain ⟨named', rfl, order⟩ := named_perm ms' _ permuted
  have none : extra.filter (fun m => names.contains m.1) = [] :=
    List.filter_eq_nil_iff.mpr fun m member listed => unknown m member (List.contains_iff_mem.mp listed)
  have same := order.filter fun m => names.contains m.1
  rw [List.filter_append, none, List.append_nil, shown] at same
  refine ⟨_, (members_iff names false _ _).mpr ⟨named', rfl, rfl, nofun, (same.map _).nodup_iff.mpr once⟩, ?_⟩
  exact lookup_perm known _ once same

variable {α : Type} [Form α] (fields : Members → Option α)
  (form : ∀ json, Form.read? json = (json.members? names false).bind fields)
  (looked : ∀ members others : Members, (∀ name, members.lookup name = others.lookup name) →
    fields members = fields others)
include form looked

-- A record's value depends on no more than what its members are by name.
theorem same_record_read (json json' : Json) (same : SameRecord names json json') (value : α)
    (read : Form.read? json = some value) : Form.read? json' = some value := by
  cases same with
  | same => exact read
  | members ms ms' extra unknown permuted =>
      rw [form] at read ⊢
      obtain ⟨known, given, found⟩ := Option.bind_eq_some_iff.mp read
      obtain ⟨known', given', same⟩ := record_rearranged names ms ms' extra unknown permuted known given
      rw [given', Option.bind_some, looked known' known same]
      exact found

end Records

section Forms

variable (json json' : Json)

theorem same_constraint_read (same : SameRecord ["a", "b", "c", "direction"] json json') (c : Constraint Float)
    (read : Form.read? json = some c) : Form.read? json' = some c := by
  refine same_record_read _ _ (fun _ => rfl) (fun members others same => ?_) json json' same c read
  simp only [Members.field?, same]

theorem same_objective_read (same : SameRecord ["g", "h"] json json') (o : Objective Float)
    (read : Form.read? json = some o) : Form.read? json' = some o := by
  refine same_record_read _ _ (fun _ => rfl) (fun members others same => ?_) json json' same o read
  simp only [Members.field?, same]

theorem same_bounds_read (same : SameRecord ["x_max", "y_max"] json json') (b : Bounds Float)
    (read : Form.read? json = some b) : Form.read? json' = some b := by
  refine same_record_read _ _ (fun _ => rfl) (fun members others same => ?_) json json' same b read
  simp only [Members.field?, same]

theorem same_constraints_read (items items' : List Json)
    (same : List.Forall₂ (SameRecord ["a", "b", "c", "direction"]) items items') (cs : List (Constraint Float))
    (read : Form.read? (Json.array items) = some cs) : Form.read? (Json.array items') = some cs := by
  change items.mapM Form.read? = some cs at read
  change items'.mapM Form.read? = some cs
  rw [map_read_iff] at read ⊢
  induction same generalizing cs with
  | nil => exact read
  | cons first _ ih =>
      obtain ⟨c, others, given, later, rfl⟩ := List.forall₂_cons_left_iff.mp read
      exact .cons (same_constraint_read _ _ first c given) (ih others later)

end Forms

namespace ProblemFile

def names : List String := ["goal", "constraints", "objective", "bounds"]

def written (goal constraints objective bounds : Json) : Members :=
  [("goal", goal), ("constraints", constraints), ("objective", objective), ("bounds", bounds)]

end ProblemFile

section Acceptance

variable (file : ProblemFile)

theorem of_json_iff (json : Json) :
    ProblemFile.ofJson? json = some file ↔ ∃ members, json.members? ProblemFile.names true = some members ∧
      members.field? "goal" = some file.goal ∧
      members.field? "constraints" = some [file.first, file.second] ∧
      members.field? "objective" = some file.objective ∧ members.field? "bounds" = some file.bounds := by
  unfold ProblemFile.ofJson?
  simp only [Option.bind_eq_bind, Option.bind_eq_some_iff]
  refine exists_congr fun members => and_congr Iff.rfl ?_
  constructor
  · rintro ⟨constraints, given, read⟩
    split at read
    · simp only [Option.bind_eq_some_iff] at read
      obtain ⟨goal, goalRead, objective, objectiveRead, bounds, boundsRead, same⟩ := read
      obtain ⟨⟩ := same
      exact ⟨goalRead, given, objectiveRead, boundsRead⟩
    · exact nomatch read
  · rintro ⟨goal, constraints, objective, bounds⟩
    exact ⟨_, constraints, by simp [goal, objective, bounds]⟩

theorem names_distinct : ProblemFile.names.Nodup := by decide

theorem field_iff {α : Type} [Form α] (members : Members) (distinct : (members.map (·.1)).Nodup) (name : String)
    (value : α) : members.field? name = some value ↔ ∃ json, (name, json) ∈ members ∧ Form.read? json = some value := by
  unfold Members.field?
  simp only [Option.bind_eq_some_iff, lookup_iff members distinct]

theorem strict_iff (ms : List (Option String × Json)) (members : Members) :
    (Json.object ms).members? ProblemFile.names true = some members ↔
      ms = members.map Json.entry ∧ (∀ m ∈ members, m.1 ∈ ProblemFile.names) ∧ (members.map (·.1)).Nodup := by
  rw [members_iff]
  constructor
  · rintro ⟨named, rfl, rfl, counted, once⟩
    have all := List.length_filter_eq_length_iff.mp (counted rfl)
    rw [List.filter_eq_self.mpr all] at once ⊢
    exact ⟨rfl, fun m member => List.contains_iff_mem.mp (all m member), once⟩
  · rintro ⟨rfl, known, once⟩
    have all := List.filter_eq_self.mpr fun m member => List.contains_iff_mem.mpr (known m member)
    exact ⟨members, rfl, all, fun _ => rfl, once⟩

theorem of_object_iff (ms : List (Option String × Json)) :
    ProblemFile.ofJson? (.object ms) = some file ↔ ∃ g c o b,
      ms.Perm ((ProblemFile.written g c o b).map Json.entry) ∧ Form.read? g = some file.goal ∧
        Form.read? c = some [file.first, file.second] ∧ Form.read? o = some file.objective ∧
        Form.read? b = some file.bounds := by
  simp only [of_json_iff, strict_iff]
  constructor
  · rintro ⟨members, ⟨rfl, known, once⟩, goal, constraints, objective, bounds⟩
    obtain ⟨g, goalMember, goalRead⟩ := (field_iff members once _ _).mp goal
    obtain ⟨c, constraintsMember, constraintsRead⟩ := (field_iff members once _ _).mp constraints
    obtain ⟨o, objectiveMember, objectiveRead⟩ := (field_iff members once _ _).mp objective
    obtain ⟨b, boundsMember, boundsRead⟩ := (field_iff members once _ _).mp bounds
    have all : ProblemFile.written g c o b ⊆ members := by
      simp [ProblemFile.written, goalMember, constraintsMember, objectiveMember, boundsMember]
    have distinct : (ProblemFile.written g c o b).Nodup := List.Nodup.of_map Prod.fst names_distinct
    have few : members.length ≤ (ProblemFile.written g c o b).length := by
      have within := (List.subperm_of_subset once (List.forall_mem_map.mpr known)).length_le
      rwa [List.length_map] at within
    have permuted := (List.subperm_of_subset distinct all).perm_of_length_le few
    exact ⟨g, c, o, b, permuted.symm.map _, goalRead, constraintsRead, objectiveRead, boundsRead⟩
  · rintro ⟨g, c, o, b, permuted, goalRead, constraintsRead, objectiveRead, boundsRead⟩
    obtain ⟨members, rfl, order⟩ := named_perm ms _ permuted
    have named : (members.map (·.1)).Perm ProblemFile.names := order.map (·.1)
    have once := named.nodup_iff.mpr names_distinct
    have field {α : Type} [Form α] (name : String) (json : Json) (value : α)
        (listed : (name, json) ∈ ProblemFile.written g c o b) (read : Form.read? json = some value) :
        members.field? name = some value :=
      (field_iff members once name value).mpr ⟨json, order.mem_iff.mpr listed, read⟩
    refine ⟨members, ⟨rfl, fun m member => named.subset (List.mem_map_of_mem member), once⟩, ?_⟩
    exact ⟨field _ g _ (by simp [ProblemFile.written]) goalRead,
      field _ c _ (by simp [ProblemFile.written]) constraintsRead,
      field _ o _ (by simp [ProblemFile.written]) objectiveRead,
      field _ b _ (by simp [ProblemFile.written]) boundsRead⟩

end Acceptance

section Layout

structure ReadsAlike (m m' : Option String × Json) : Prop where
  name : m'.1 = m.1
  goal : m.1 = some "goal" → ∀ x : Goal, Form.read? m.2 = some x → Form.read? m'.2 = some x
  constraints : m.1 = some "constraints" →
    ∀ x : List (Constraint Float), Form.read? m.2 = some x → Form.read? m'.2 = some x
  objective : m.1 = some "objective" → ∀ x : Objective Float, Form.read? m.2 = some x → Form.read? m'.2 = some x
  bounds : m.1 = some "bounds" → ∀ x : Bounds Float, Form.read? m.2 = some x → Form.read? m'.2 = some x

theorem same_member_alike (m m' : Option String × Json) (same : SameMember m m') : ReadsAlike m m' := by
  cases same with
  | same => exact ⟨rfl, fun _ _ => id, fun _ _ => id, fun _ _ => id, fun _ _ => id⟩
  | constraints items items' each =>
      exact ⟨rfl, by simp, fun _ => same_constraints_read items items' each, by simp, by simp⟩
  | objective value value' each =>
      exact ⟨rfl, by simp, by simp, fun _ => same_objective_read value value' each, by simp⟩
  | bounds value value' each =>
      exact ⟨rfl, by simp, by simp, by simp, fun _ => same_bounds_read value value' each⟩

variable (file : ProblemFile) (ms ms' : List (Option String × Json))

theorem rearranged_read (read : ProblemFile.ofJson? (.object ms) = some file) (same : Rearranged ms ms') :
    ProblemFile.ofJson? (.object ms') = some file := by
  obtain ⟨middle, each, permuted⟩ := same
  rw [of_object_iff] at read ⊢
  obtain ⟨g, c, o, b, order, goal, constraints, objective, bounds⟩ := read
  obtain ⟨written, related, order'⟩ := List.perm_comp_forall₂ order.symm each
  have alike := related.imp same_member_alike
  simp only [ProblemFile.written, Json.entry, List.map_cons, List.map_nil, List.forall₂_cons_left_iff,
    List.forall₂_nil_left_iff] at alike
  obtain ⟨⟨_, g'⟩, _, first, ⟨⟨_, c'⟩, _, second, ⟨⟨_, o'⟩, _, third, ⟨⟨_, b'⟩, _, fourth, rfl, rfl⟩, rfl⟩, rfl⟩,
    rfl⟩ := alike
  cases first.name
  cases second.name
  cases third.name
  cases fourth.name
  exact ⟨g', c', o', b', (order'.trans permuted).symm, first.goal rfl _ goal, second.constraints rfl _ constraints,
    third.objective rfl _ objective, fourth.bounds rfl _ bounds⟩

theorem members_counted (read : ProblemFile.ofJson? (.object ms) = some file) : ms.length = 4 := by
  obtain ⟨g, c, o, b, order, -⟩ := (of_object_iff file ms).mp read
  exact order.length_eq

theorem constraints_counted (read : ProblemFile.ofJson? (.object ms) = some file) (value : Json)
    (member : (some "constraints", value) ∈ ms) : ∃ first second, value = .array [first, second] := by
  obtain ⟨g, c, o, b, order, -, constraints, -⟩ := (of_object_iff file ms).mp read
  have same : value = c := by simpa [ProblemFile.written, Json.entry] using order.mem_iff.mp member
  rw [← same] at constraints
  cases value with
  | array items =>
      change items.mapM Form.read? = some [file.first, file.second] at constraints
      rw [map_read_iff] at constraints
      obtain ⟨first, _, -, later, rfl⟩ := List.forall₂_cons_right_iff.mp constraints
      obtain ⟨second, _, -, none, rfl⟩ := List.forall₂_cons_right_iff.mp later
      rw [List.forall₂_nil_right_iff.mp none]
      exact ⟨first, second, rfl⟩
  | _ => cases constraints

theorem spoilt_unread (read : ProblemFile.ofJson? (.object ms) = some file) (spoilt : Spoilt ms ms') :
    ProblemFile.ofJson? (.object ms') = none := by
  refine Option.eq_none_iff_forall_ne_some.mpr fun other given => ?_
  have before := members_counted file ms read
  have after := members_counted other ms' given
  cases spoilt with
  | inserted | dropped =>
      simp only [List.length_append, List.length_cons] at before after
      omega
  | miscounted _ _ _ value different =>
      obtain ⟨first, second, same⟩ := constraints_counted other _ given value List.mem_append_cons_self
      exact different first second same

end Layout

theorem layout_immaterial (text : String) (file : ProblemFile) (accepted : ProblemFile.parse? text = some file) :
    ∃ json, (∀ other, Writes other text ↔ other = json) ∧ ∀ members, json = .object members →
      (∀ members' text', Rearranged members members' → Writes (.object members') text' →
        ProblemFile.parse? text' = some file) ∧
      ∀ members' text', Spoilt members members' → Writes (.object members') text' →
        ProblemFile.parse? text' = none := by
  obtain ⟨json, parsed, read⟩ := Option.bind_eq_some_iff.mp accepted
  refine ⟨json, fun other => ?_, ?_⟩
  · rw [← parse_iff, parsed, Option.some_inj, eq_comm]
  · rintro members rfl
    refine ⟨fun members' text' same written => ?_, fun members' text' spoilt written => ?_⟩
    · rw [ProblemFile.parse?, (parse_iff text' _).mpr written]
      exact rearranged_read file members members' read same
    · rw [ProblemFile.parse?, (parse_iff text' _).mpr written]
      exact spoilt_unread file members members' read spoilt

section Reversal

def plainFile : String :=
  "\x7b\"goal\":\"both\",\"constraints\":[\x7b\"a\":4,\"b\":3,\"c\":24,\"direction\":\"le\"\x7d,[2,5,20,\"ge\"]]," ++
    "\"objective\":\x7b\"g\":7,\"h\":5\x7d,\"bounds\":[10,8]\x7d"

def reversedFile : String :=
  "\x7b \"bounds\": [10, 8],\n\"objective\": \x7b\"h\": 5, \"g\": 7\x7d,\n\"constraints\": [\x7b" ++
    "\"note\": [null, \x7b\"\\ud800\": true\x7d], \"direction\": \"le\", \"c\": 24, \"b\": 3, \"a\": 4\x7d,\r\t" ++
    "[2, 5, 20, \"ge\"]], \"goal\": \"both\" \x7d\n"

def remarkedFile : String :=
  "\x7b\"note\":null,\"goal\":\"both\",\"constraints\":[\x7b\"a\":4,\"b\":3,\"c\":24,\"direction\":\"le\"\x7d," ++
    "[2,5,20,\"ge\"]],\"objective\":\x7b\"g\":7,\"h\":5\x7d,\"bounds\":[10,8]\x7d"

def fileMembers (constraint objective : List (Option String × Json)) : List (Option String × Json) :=
  (ProblemFile.written (.text "both")
    (.array [.object constraint, .array [Json.ofIndex 2, Json.ofIndex 5, Json.ofIndex 20, .text "ge"]])
    (.object objective) (.array [Json.ofIndex 10, Json.ofIndex 8])).map Json.entry

def constraintMembers : List (Option String × Json) :=
  [(some "a", Json.ofIndex 4), (some "b", Json.ofIndex 3), (some "c", Json.ofIndex 24), (some "direction", .text "le")]

def objectiveMembers : List (Option String × Json) := [(some "g", Json.ofIndex 7), (some "h", Json.ofIndex 5)]

def remark : Members := [("note", .array [.null, .object [(none, .bool true)]])]

theorem layout_immaterial_reversed :
    ∃ file, ProblemFile.parse? plainFile = some file ∧ ProblemFile.parse? reversedFile = some file ∧
      ProblemFile.parse? remarkedFile = none := by
  have read : (ProblemFile.parse? plainFile).isSome = true := by decide +kernel
  obtain ⟨file, accepted⟩ := Option.isSome_iff_exists.mp read
  obtain ⟨json, unique, layouts⟩ := layout_immaterial plainFile file accepted
  have written (text : String) (json : Json) (tokens : Json.tokens? text.toList = some json.tokens) :
      Writes json text := (parse_iff text json).mp ((parse_tokens text json).mpr tokens)
  have plain := (unique (.object (fileMembers constraintMembers objectiveMembers))).mp (written _ _ (by decide +kernel))
  obtain ⟨same, spoilt⟩ := layouts _ plain.symm
  have middle : List.Forall₂ SameMember (fileMembers constraintMembers objectiveMembers)
      (fileMembers (constraintMembers ++ remark.map Json.entry).reverse objectiveMembers.reverse) := by
    refine .cons (.same _) (.cons (.constraints _ _ ?_) (.cons (.objective _ _ ?_) (.cons (.same _) .nil)))
    · exact .cons (.members _ _ remark (by decide) (List.reverse_perm _)) (.cons (.same _) .nil)
    · exact .members _ _ [] nofun (by simp)
  refine ⟨file, accepted, same _ _ ⟨_, middle, (List.reverse_perm _).symm⟩ (written _ _ (by decide +kernel)), ?_⟩
  exact spoilt _ _ (.inserted [] _ (some "note", .null)) (written _ _ (by decide +kernel))

end Reversal

end PlanarLP
