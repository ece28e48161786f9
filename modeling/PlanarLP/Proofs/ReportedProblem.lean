import PlanarLP.Forms
import PlanarLP.Proofs.CarriedForms
import PlanarLP.Report.Text

set_option autoImplicit false

namespace PlanarLP

open Json (Form Layout Numbers ReadsBack)

def Problem.file (goal : Goal) (problem : Problem Float) : ProblemFile :=
  ⟨goal, problem.first, problem.second, problem.objective, problem.bounds⟩

namespace ProblemFile

variable (file : ProblemFile)

def constraints : List (Constraint Float) := [file.first, file.second]

def numbers : Numbers := .record
  [("constraints", .items Constraint.numbers file.constraints), ("objective", file.objective.numbers),
    ("bounds", file.bounds.numbers)]

def members : List (String × Json) :=
  [("goal", Form.write file.goal), ("constraints", Form.write file.constraints),
    ("objective", Form.write file.objective), ("bounds", Form.write file.bounds)]

end ProblemFile

def Json.withName? (entry : Option String × Json) : Option (String × Json) := entry.1.map (·, entry.2)

theorem named_iff (members : List (Option String × Json)) (named : Json.Members) :
    members.mapM Json.withName? = some named ↔ members = named.map Json.entry := by
  have each (member : Option String × Json) (entry : String × Json) :
      Json.withName? member = some entry ↔ member = Json.entry entry := by
    obtain ⟨name, value⟩ := member
    cases name <;> simp [Json.withName?, Json.entry, Prod.ext_iff]
  rw [map_read_iff, ← List.forall₂_eq_eq_eq, List.forall₂_map_right_iff]
  simp only [each]

theorem members_iff (names : List String) (strict : Bool) (members : List (Option String × Json))
    (known : Json.Members) :
    (Json.object members).members? names strict = some known ↔
      ∃ named : Json.Members, members = named.map Json.entry ∧
        named.filter (fun member => names.contains member.1) = known ∧
        (strict = true → known.length = named.length) ∧ (known.map (·.1)).Nodup := by
  change ((members.mapM Json.withName?).bind fun named =>
    let known := named.filter fun member => names.contains member.1
    if strict && known.length != named.length then none
    else if (known.map (·.1)).Nodup then some known else none) = some known ↔ _
  rw [Option.bind_eq_some_iff]
  refine exists_congr fun named => and_congr (named_iff members named) ?_
  dsimp only
  generalize named.filter (fun member => names.contains member.1) = found
  constructor
  · intro read
    split at read
    · exact nomatch read
    · rename_i counted
      split at read
      · cases read
        exact ⟨rfl, fun all => by simpa [all] using counted, ‹_›⟩
      · exact nomatch read
  · rintro ⟨rfl, counted, once⟩
    rw [if_neg (by simpa using counted), if_pos once]

theorem strict_members (names : List String) (members : List (String × Json)) (distinct : names.Nodup)
    (permuted : (members.map (·.1)).Perm names) : (Json.record members).members? names true = some members := by
  have known : members.filter (fun member => names.contains member.1) = members :=
    List.filter_eq_self.mpr fun member inside =>
      List.contains_iff_mem.mpr (permuted.subset (List.mem_map_of_mem inside))
  exact (members_iff names true _ members).mpr ⟨members, rfl, known, fun _ => rfl, permuted.nodup_iff.mpr distinct⟩

theorem file_problem (goal : Goal) (problem : Problem Float) : (problem.file goal).problem = .ok problem := by
  unfold ProblemFile.problem Problem.make
  split
  · rfl
  · rename_i fault found
    cases problem.valid.symm.trans found

theorem file_members_proper (file : ProblemFile) : ∀ member ∈ file.members, member.2.Proper := by
  simp only [ProblemFile.members, List.forall_mem_cons]
  exact ⟨(goal_carried file.goal).proper, (constraints_carried file.constraints).proper,
    (objective_carried file.objective).proper, (bounds_carried file.bounds).proper, nofun⟩

section Document

variable (goal : Goal) (problem : Problem Float) (solution : Solution Float) (plot : Option (Plot Float))

theorem document_proper : (Report.document goal problem solution plot).Proper := by
  have shown : problem.json.Proper := (record_proper (problem.file goal).members.tail).mpr fun member inside =>
    file_members_proper (problem.file goal) member (List.mem_of_mem_tail inside)
  rw [Report.document, record_proper, List.forall_mem_append, List.forall_mem_map]
  simp only [List.forall_mem_cons]
  exact ⟨⟨(goal_carried goal).proper, shown, (solution_carried solution).proper, nofun⟩,
    fun plot _ => (plot_carried plot).proper⟩

theorem document_parsed :
    Json.parse? (Report.documentText goal problem solution plot) = some (Report.document goal problem solution plot) :=
  parse_print _ _ (document_proper goal problem solution plot)

end Document

section Reading

variable (file : ProblemFile) (members : List (String × Json)) (permuted : members.Perm file.members)
include permuted

theorem file_written (layout : Layout) :
    Json.parse? (String.ofList ((Json.record members).print layout)) = some (.record members) :=
  parse_print layout _ ((record_proper members).mpr fun member inside =>
    file_members_proper file member (permuted.subset inside))

theorem file_read (back : file.numbers.All ReadsBack) : ProblemFile.ofJson? (.record members) = some file := by
  have distinct : (file.members.map (·.1)).Nodup :=
    show ["goal", "constraints", "objective", "bounds"].Nodup by decide
  have names := permuted.map (·.1)
  have field {α : Type} [Form α] (name : String) (value : α) (listed : (name, Form.write value) ∈ file.members)
      (read : Form.read? (Form.write value) = some value) : Json.Members.field? members name = some value := by
    rw [Json.Members.field?, record_member members (names.nodup_iff.mpr distinct) name _ (permuted.symm.subset listed)]
    exact read
  simp only [ProblemFile.numbers, all_record_cons] at back
  obtain ⟨constraintsBack, objectiveBack, boundsBack, _⟩ := back
  have goalRead := field "goal" file.goal (by simp [ProblemFile.members])
    ((goal_carried file.goal).recovered nofun nofun)
  have constraintsRead := field "constraints" file.constraints (by simp [ProblemFile.members])
    ((constraints_carried file.constraints).recovered nofun constraintsBack)
  have objectiveRead := field "objective" file.objective (by simp [ProblemFile.members])
    ((objective_carried file.objective).recovered nofun objectiveBack)
  have boundsRead := field "bounds" file.bounds (by simp [ProblemFile.members])
    ((bounds_carried file.bounds).recovered nofun boundsBack)
  have read := strict_members _ members distinct names
  change Json.members? ["goal", "constraints", "objective", "bounds"] true _ = _ at read
  simp only [ProblemFile.ofJson?, read, Option.bind_eq_bind, Option.bind_some, goalRead, constraintsRead, objectiveRead,
    boundsRead]
  rfl

theorem file_parsed (text : String) (written : Json.parse? text = some (.record members))
    (back : file.numbers.All ReadsBack) : ProblemFile.parse? text = some file := by
  rw [ProblemFile.parse?, written]
  exact file_read file members permuted back

end Reading

theorem reported_problem_read (goal : Goal) (problem : Problem Float) (solution : Solution Float)
    (plot : Option (Plot Float)) (back : (problem.file goal).numbers.All ReadsBack) :
    ∃ document g c o b, Json.parse? (Report.documentText goal problem solution plot) = some document ∧
      document.at? [.member "goal"] = some g ∧
      document.at? [.member "problem", .member "constraints"] = some c ∧
      document.at? [.member "problem", .member "objective"] = some o ∧
      document.at? [.member "problem", .member "bounds"] = some b ∧
      ∀ members, members.Perm [("goal", g), ("constraints", c), ("objective", o), ("bounds", b)] →
        (∀ layout, Json.parse? (String.ofList ((Json.record members).print layout)) = some (.record members)) ∧
          ∀ text, Json.parse? text = some (.record members) →
            ∃ file, ProblemFile.parse? text = some file ∧ file.goal = goal ∧ file.problem = .ok problem := by
  refine ⟨_, Form.write goal, Form.write problem.constraints, Form.write problem.objective, Form.write problem.bounds,
    document_parsed goal problem solution plot, rfl, rfl, rfl, rfl, ?_⟩
  intro members permuted
  refine ⟨file_written (problem.file goal) members permuted, fun text written => ?_⟩
  exact ⟨problem.file goal, file_parsed (problem.file goal) members permuted text written back, rfl,
    file_problem goal problem⟩

def steep : Problem Float where
  first := ⟨⟨-0.0, 1e300, 0.1⟩, .le⟩
  second := ⟨⟨1e-9, -2.5, 3⟩, .ge⟩
  objective := ⟨-0.0, 7⟩
  bounds := ⟨10, 8.25⟩
  valid := by decide +kernel

theorem reported_problem_read_steep :
    ∃ document g c o b,
      Json.parse? (Report.documentText .both steep (steep.solve .both defaultTolerance) none) = some document ∧
      document.at? [.member "goal"] = some g ∧
      document.at? [.member "problem", .member "constraints"] = some c ∧
      document.at? [.member "problem", .member "objective"] = some o ∧
      document.at? [.member "problem", .member "bounds"] = some b ∧
      ∀ layout, ∃ file, ProblemFile.parse? (String.ofList
          ((Json.record [("bounds", b), ("objective", o), ("constraints", c), ("goal", g)]).print layout)) = some file ∧
        file.goal = .both ∧ file.problem = .ok steep := by
  obtain ⟨document, g, c, o, b, parsed, goal, constraints, objective, bounds, read⟩ :=
    reported_problem_read .both steep (steep.solve .both defaultTolerance) none (by decide +kernel)
  refine ⟨document, g, c, o, b, parsed, goal, constraints, objective, bounds, fun layout => ?_⟩
  obtain ⟨written, reads⟩ := read _
    (List.reverse_perm [("goal", g), ("constraints", c), ("objective", o), ("bounds", b)])
  exact reads _ (written layout)

end PlanarLP
