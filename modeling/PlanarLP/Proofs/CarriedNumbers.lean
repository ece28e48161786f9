import PlanarLP.Forms
import PlanarLP.Proofs.DocumentText
import PlanarLP.Proofs.WrittenNumbers

set_option autoImplicit false

namespace PlanarLP

namespace Json

inductive Step where
  | member (name : String)
  | item (index : Nat)
deriving DecidableEq, Repr

def step? (json : Json) (step : Step) : Option Json :=
  match step, json with
  | .member name, .object members => members.lookup (some name)
  | .item index, .array items => items[index]?
  | _, _ => none

def at? : Json → List Step → Option Json
  | json, [] => some json
  | json, step :: path => (json.step? step).bind fun inner => inner.at? path

abbrev Numbers := List (List Step × Float)

namespace Numbers

def under (step : Step) (numbers : Numbers) : Numbers := numbers.map fun (path, x) => (step :: path, x)

def member (name : String) (numbers : Numbers) : Numbers := numbers.under (.member name)

def single (x : Float) : Numbers := [([], x)]

def record (members : List (String × Numbers)) : Numbers :=
  members.flatMap fun (name, numbers) => numbers.member name

def optional {α : Type} (numbers : α → Numbers) (value : Option α) : Numbers := value.elim [] numbers

def items {α : Type} (numbers : α → Numbers) (values : List α) : Numbers :=
  values.zipIdx.flatMap fun (value, i) => (numbers value).under (.item i)

def All (numbers : Numbers) (P : Float → Prop) : Prop := ∀ place ∈ numbers, P place.2

end Numbers

def readOptional? {α : Type} [Form α] : Json → Option (Option α)
  | .null => some none
  | json => (Form.read? json).map some

def ReadsBack (x : Float) : Prop := (ofDouble x).double? = some x

instance (numbers : Numbers) (P : Float → Prop) [DecidablePred P] : Decidable (numbers.All P) :=
  inferInstanceAs (Decidable (∀ place ∈ numbers, P place.2))

instance : DecidablePred ReadsBack := fun x => inferInstanceAs (Decidable ((ofDouble x).double? = some x))

-- What a document keeps of a value with the given numbers and indices.
structure Carries {α : Type} (read? : Json → Option α) (json : Json) (value : α) (numbers : Numbers)
    (indices : List Nat) : Prop where
  proper : json.Proper
  placed : ∀ path x, (path, x) ∈ numbers → json.at? path = some (ofDouble x)
  recovered : (∀ i ∈ indices, i < UInt64.size) → numbers.All ReadsBack → read? json = some value
  finite : ∀ w, read? json = some w → numbers.All fun x => x.isFinite = true

end Json

open Json (Carries Numbers ReadsBack Form)

theorem all_append (first second : Numbers) (P : Float → Prop) :
    Numbers.All (first ++ second) P ↔ first.All P ∧ second.All P := List.forall_mem_append

theorem all_under (step : Json.Step) (numbers : Numbers) (P : Float → Prop) :
    (numbers.under step).All P ↔ numbers.All P := List.forall_mem_map

theorem all_member (name : String) (numbers : Numbers) (P : Float → Prop) :
    (numbers.member name).All P ↔ numbers.All P := all_under _ numbers P

theorem all_record_cons (name : String) (numbers : Numbers) (members : List (String × Numbers)) (P : Float → Prop) :
    (Numbers.record ((name, numbers) :: members)).All P ↔ numbers.All P ∧ (Numbers.record members).All P := by
  rw [Numbers.record, List.flatMap_cons, all_append, all_member]
  rfl

theorem mem_items {α : Type} (numbers : α → Numbers) (values : List α) (place : List Json.Step × Float) :
    place ∈ Numbers.items numbers values ↔
      ∃ i value, values[i]? = some value ∧ place ∈ (numbers value).under (.item i) := by
  simp only [Numbers.items, List.mem_flatMap, Prod.exists, List.mem_zipIdx_iff_getElem?]
  exact exists_comm

theorem all_items {α : Type} (numbers : α → Numbers) (values : List α) (P : Float → Prop) :
    (Numbers.items numbers values).All P ↔ ∀ value ∈ values, (numbers value).All P := by
  constructor
  · intro all value member
    obtain ⟨i, found⟩ := List.mem_iff_getElem?.mp member
    rw [← all_under (.item i)]
    exact fun place inside => all place ((mem_items numbers values place).mpr ⟨i, value, found, inside⟩)
  · intro all place member
    obtain ⟨i, value, found, inside⟩ := (mem_items numbers values place).mp member
    exact (all_under (.item i) _ P).mpr (all value (List.mem_of_getElem? found)) place inside

theorem number_carried (x : Float) : Carries Json.double? (Json.ofDouble x) x (.single x) [] where
  proper := by
    rcases double_written x with ⟨n, proper, written⟩ | written
    · rw [written, Json.Proper]
      exact proper
    · rw [written]
      trivial
  placed path y member := by
    obtain ⟨rfl, rfl⟩ := Prod.mk.inj (List.mem_singleton.mp member)
    rfl
  recovered _ back := back ([], x) (List.mem_singleton.mpr rfl)
  finite w read place member := by
    rw [List.mem_singleton.mp member]
    by_contra infinite
    rw [infinite_written x (Bool.eq_false_iff.mpr infinite)] at read
    cases read

theorem unnumbered_carried {α : Type} {read? : Json → Option α} {json : Json} {value : α} {indices : List Nat}
    (proper : json.Proper) (recovered : (∀ i ∈ indices, i < UInt64.size) → read? json = some value) :
    Carries read? json value [] indices :=
  ⟨proper, nofun, fun fits _ => recovered fits, fun _ _ => nofun⟩

theorem index_written_proper (n : Nat) : (Json.ofIndex n).Proper := by
  rw [Json.ofIndex, Json.Proper]
  exact index_proper n

theorem index_carried (n : Nat) : Carries Json.index? (Json.ofIndex n) n [] [n] :=
  unnumbered_carried (index_written_proper n) fun fits => index_recovered n (fits n (List.mem_singleton.mpr rfl))

theorem proper_items_iff (items : List Json) : Json.ProperItems items ↔ ∀ item ∈ items, item.Proper := by
  induction items with
  | nil => simp [Json.ProperItems]
  | cons item items ih => simp [Json.ProperItems, ih]

theorem proper_members_iff (members : List (Option String × Json)) :
    Json.ProperMembers members ↔ ∀ member ∈ members, member.2.Proper := by
  induction members with
  | nil => simp [Json.ProperMembers]
  | cons member members ih => simp [Json.ProperMembers, ih]

theorem map_read_iff {α β : Type} (read? : β → Option α) (items : List β) (values : List α) :
    items.mapM read? = some values ↔ List.Forall₂ (fun item value => read? item = some value) items values := by
  induction items generalizing values with
  | nil =>
    rw [List.mapM_nil, List.forall₂_nil_left_iff]
    exact ⟨fun same => (Option.some.inj same).symm, fun none => none ▸ rfl⟩
  | cons item items ih =>
    rw [List.mapM_cons, List.forall₂_cons_left_iff]
    simp only [Option.bind_eq_bind, Option.bind_eq_some_iff, ih]
    constructor
    · rintro ⟨value, first, others, later, ⟨⟩⟩
      exact ⟨value, others, first, later, rfl⟩
    · rintro ⟨value, others, first, later, rfl⟩
      exact ⟨value, first, others, later, rfl⟩

theorem map_read {α β : Type} (read? : β → Option α) (write : α → β) (values : List α)
    (each : ∀ value ∈ values, read? (write value) = some value) : (values.map write).mapM read? = some values := by
  rw [map_read_iff, List.forall₂_map_left_iff]
  exact List.forall₂_same.mpr each

theorem map_reads {α β : Type} (read? : β → Option α) (items : List β) (values : List α)
    (read : items.mapM read? = some values) : ∀ item ∈ items, ∃ value, read? item = some value := by
  rw [map_read_iff] at read
  induction read with
  | nil => exact nofun
  | cons first _ ih => exact List.forall_mem_cons.mpr ⟨⟨_, first⟩, ih⟩

section

variable {α : Type} [Form α] {numbers : α → Numbers} {indices : α → List Nat}

theorem list_carried (values : List α)
    (each : ∀ value ∈ values, Carries Form.read? (Form.write value) value (numbers value) (indices value)) :
    Carries Form.read? (Form.write values) values (Numbers.items numbers values) (values.flatMap indices) where
  proper := by
    change (Json.array (values.map Form.write)).Proper
    rw [Json.Proper, proper_items_iff, List.forall_mem_map]
    exact fun value member => (each value member).proper
  placed path x member := by
    obtain ⟨i, value, found, inside⟩ := (mem_items numbers values _).mp member
    obtain ⟨⟨inner, y⟩, place, same⟩ := List.mem_map.mp inside
    obtain ⟨rfl, rfl⟩ := Prod.mk.inj same
    have placed := (each value (List.mem_of_getElem? found)).placed inner y place
    change ((values.map Form.write)[i]?.bind fun item => item.at? inner) = _
    rw [List.getElem?_map, found]
    exact placed
  recovered fits back := by
    rw [all_items] at back
    refine map_read Form.read? Form.write values fun value member => ?_
    exact (each value member).recovered (fun i inside => fits i (List.mem_flatMap.mpr ⟨value, member, inside⟩))
      (back value member)
  finite others read := by
    rw [all_items]
    intro value member
    obtain ⟨w, found⟩ := map_reads Form.read? _ others read _ (List.mem_map_of_mem member)
    exact (each value member).finite w found

theorem unindexed_list_carried (values : List α)
    (each : ∀ value ∈ values, Carries Form.read? (Form.write value) value (numbers value) []) :
    Carries Form.read? (Form.write values) values (Numbers.items numbers values) [] := by
  have none : (values.flatMap fun _ => ([] : List Nat)) = [] := List.flatMap_eq_nil_iff.mpr fun _ _ => rfl
  rw [← none]
  exact list_carried values each

theorem optional_carried (value : Option α) (shown : ∀ v ∈ value, Form.write v ≠ .null)
    (each : ∀ v ∈ value, Carries Form.read? (Form.write v) v (numbers v) (indices v)) :
    Carries Json.readOptional? (Json.writeOptional value) value (.optional numbers value) (value.elim [] indices) := by
  cases value with
  | none => exact ⟨trivial, nofun, fun _ _ => rfl, fun _ _ => nofun⟩
  | some v =>
    have present : Json.readOptional? (Form.write v) = (Form.read? (Form.write v) : Option α).map some := by
      have notNull := shown v rfl
      revert notNull
      cases Form.write v <;> first | exact fun _ => rfl | exact fun notNull => absurd rfl notNull
    have carried := each v rfl
    refine ⟨carried.proper, carried.placed, fun fits back => ?_, fun w read => ?_⟩
    · exact present.trans (congrArg (Option.map some) (carried.recovered fits back))
    · obtain ⟨u, found, _⟩ := Option.map_eq_some_iff.mp (present.symm.trans read)
      exact carried.finite u found

theorem unindexed_optional_carried (value : Option α) (shown : ∀ v ∈ value, Form.write v ≠ .null)
    (each : ∀ v ∈ value, Carries Form.read? (Form.write v) v (numbers v) []) :
    Carries Json.readOptional? (Json.writeOptional value) value (.optional numbers value) [] := by
  have none : (value.elim [] fun _ => ([] : List Nat)) = [] := by cases value <;> rfl
  rw [← none]
  exact optional_carried value shown each

end

namespace Json

structure Part where
  name : String
  json : Json
  numbers : Numbers
  indices : List Nat
  proper : json.Proper
  placed : ∀ path x, (path, x) ∈ numbers → json.at? path = some (ofDouble x)

def Carries.part {α : Type} {read? : Json → Option α} {json : Json} {value : α} {numbers : Numbers} {indices : List Nat}
    (carries : Carries read? json value numbers indices) (name : String) : Part :=
  ⟨name, json, numbers, indices, carries.proper, carries.placed⟩

abbrev Parts := List Part

namespace Parts

def json (parts : Parts) : Json := record (parts.map fun part => (part.name, part.json))

def numbers (parts : Parts) : Numbers := .record (parts.map fun part => (part.name, part.numbers))

def indices (parts : Parts) : List Nat := parts.flatMap (·.indices)

end Parts

def entry (member : String × Json) : Option String × Json := (some member.1, member.2)

structure Gathers {α : Type} (parts : Parts) (read : Option α) (value : α) : Prop where
  recovered : (∀ i ∈ parts.indices, i < UInt64.size) → parts.numbers.All ReadsBack → read = some value
  finite : ∀ w, read = some w → parts.numbers.All fun x => x.isFinite = true

end Json

open Json (Part Parts Gathers)

theorem record_proper (members : List (String × Json)) :
    (Json.record members).Proper ↔ ∀ member ∈ members, member.2.Proper := by
  rw [Json.record, Json.Proper, proper_members_iff]
  exact List.forall_mem_map

theorem record_member (members : List (String × Json)) (names : (members.map (·.1)).Nodup) (name : String)
    (json : Json) (listed : (name, json) ∈ members) : members.lookup name = some json := by
  induction members with
  | nil => exact absurd listed List.not_mem_nil
  | cons first members ih =>
    rw [List.map_cons, List.nodup_cons] at names
    rcases List.mem_cons.mp listed with rfl | later
    · exact List.lookup_cons_self
    · have other : (name == first.1) = false :=
        beq_eq_false_iff_ne.mpr fun same => names.1 (same ▸ List.mem_map_of_mem later)
      rw [List.lookup_cons, other]
      exact ih names.2 later

theorem record_step (members : List (String × Json)) (name : String) :
    (Json.record members).step? (.member name) = members.lookup name := by
  change (members.map Json.entry).lookup (some name) = _
  induction members with
  | nil => rfl
  | cons first members ih =>
    rw [List.map_cons, List.lookup_cons, List.lookup_cons, ih]
    rfl

theorem parts_proper (parts : Parts) : parts.json.Proper := by
  rw [Parts.json, record_proper, List.forall_mem_map]
  exact fun part _ => part.proper

theorem parts_lookup (parts : Parts) (names : (parts.map (·.name)).Nodup) (part : Part) (member : part ∈ parts) :
    parts.json.step? (.member part.name) = some part.json := by
  rw [Parts.json, record_step]
  refine record_member _ ?_ _ _ (List.mem_map.mpr ⟨part, member, rfl⟩)
  rw [List.map_map]
  exact names

theorem parts_placed (parts : Parts) (names : (parts.map (·.name)).Nodup) (path : List Json.Step) (x : Float)
    (member : (path, x) ∈ parts.numbers) : parts.json.at? path = some (Json.ofDouble x) := by
  obtain ⟨⟨name, numbers⟩, mapped, inside⟩ := List.mem_flatMap.mp member
  obtain ⟨part, listed, named⟩ := List.mem_map.mp mapped
  obtain ⟨rfl, rfl⟩ := Prod.mk.inj named
  obtain ⟨⟨inner, y⟩, place, same⟩ := List.mem_map.mp inside
  obtain ⟨rfl, rfl⟩ := Prod.mk.inj same
  rw [Json.at?, parts_lookup parts names part listed]
  exact part.placed inner y place

theorem gathers_nil {α : Type} (value : α) : Gathers [] (some value) value := ⟨fun _ _ => rfl, fun _ _ => nofun⟩

theorem gathers_cons {α β : Type} {read? : Json → Option β} {json : Json} {b : β} {numbers : Numbers}
    {indices : List Nat} {parts : Parts} {k : β → Option α} {f : β → α} (name : String)
    (first : Carries read? json b numbers indices) (rest : ∀ c, Gathers parts (k c) (f c)) :
    Gathers (first.part name :: parts) ((read? json).bind k) (f b) := by
  constructor
  · intro fits back
    rw [Parts.indices, List.flatMap_cons, List.forall_mem_append] at fits
    rw [Parts.numbers, List.map_cons, all_record_cons] at back
    rw [first.recovered fits.1 back.1]
    exact (rest b).recovered fits.2 back.2
  · intro w read
    obtain ⟨c, head, tail⟩ := Option.bind_eq_some_iff.mp read
    rw [Parts.numbers, List.map_cons, all_record_cons]
    exact ⟨first.finite c head, (rest c).finite w tail⟩

theorem record_carried {α : Type} {read? : Json → Option α} {parts : Parts} {read : Option α} {value : α}
    (gathers : Gathers parts read value) (names : (parts.map (·.name)).Nodup) (same : read? parts.json = read) :
    Carries read? parts.json value parts.numbers parts.indices where
  proper := parts_proper parts
  placed := parts_placed parts names
  recovered fits back := same.trans (gathers.recovered fits back)
  finite w read := gathers.finite w (same.symm.trans read)

end PlanarLP
