import PlanarLP.Proofs.CarriedNumbers

set_option autoImplicit false

namespace PlanarLP

open Json (Carries Numbers Parts Form)

section Numbers

variable (p : Point Float) (b : Bounds Float) (o : Objective Float) (c : Constraint Float) (v : Vertex Float)
  (e : Extremum Float) (s : Solution Float) (line : Polyline Float) (column : Column Float) (isoline : Isoline Float)
  (plot : Plot Float)

def Point.numbers : Numbers := .record [("x", .single p.x), ("y", .single p.y)]

def Bounds.numbers : Numbers := .record [("x_max", .single b.xMax), ("y_max", .single b.yMax)]

def Objective.numbers : Numbers := .record [("g", .single o.g), ("h", .single o.h)]

def Constraint.numbers : Numbers :=
  .record [("a", .single c.boundary.a), ("b", .single c.boundary.b), ("c", .single c.boundary.c)]

def Vertex.numbers : Numbers := .record [("point", v.point.numbers), ("objective_value", .single v.value)]

def Extremum.numbers : Numbers := .record [("point", e.point.numbers), ("objective_value", .single e.value)]

def Solution.numbers : Numbers := .record
  [("vertices", .items Vertex.numbers s.vertices), ("maximum", .optional Extremum.numbers s.maximum),
    ("minimum", .optional Extremum.numbers s.minimum)]

def Polyline.numbers : Numbers := .record [("points", .items Point.numbers line.points)]

def Column.numbers : Numbers :=
  .record [("x", .single column.x), ("lower", .single column.lower), ("upper", .single column.upper)]

def Isoline.numbers : Numbers := .record [("level", .single isoline.level), ("line", isoline.line.numbers)]

def Plot.numbers : Numbers := .record
  [("bounds", plot.bounds.numbers), ("constraint_lines", .items Polyline.numbers plot.boundaries),
    ("feasible_band", .items Column.numbers plot.band), ("isolines", .items Isoline.numbers plot.isolines),
    ("optimal_lines", .items Isoline.numbers plot.optimalLines), ("vertices", .items Point.numbers plot.vertices),
    ("maximum", .optional Point.numbers plot.maximum), ("minimum", .optional Point.numbers plot.minimum)]

end Numbers

def Limit.indices : Limit → List Nat
  | .constraint index => [index]
  | .bound => []

def Origin.indices : Origin → List Nat
  | .intercept _ limit => limit.indices
  | .intersection i j => [i, j]

def Vertex.indices (v : Vertex Float) : List Nat := v.origin.indices

def Extremum.indices (e : Extremum Float) : List Nat := [e.index]

def Solution.indices (s : Solution Float) : List Nat :=
  [s.vertices.flatMap Vertex.indices, s.maximum.elim [] Extremum.indices, s.minimum.elim [] Extremum.indices].flatten

theorem status_carried (status : Status) : Carries Form.read? (Form.write status) status [] [] :=
  unnumbered_carried trivial fun _ => by cases status <;> rfl

theorem goal_carried (goal : Goal) : Carries Form.read? (Form.write goal) goal [] [] :=
  unnumbered_carried trivial fun _ => by cases goal <;> rfl

theorem direction_carried (direction : Direction) : Carries Form.read? (Form.write direction) direction [] [] :=
  unnumbered_carried trivial fun _ => by cases direction <;> rfl

theorem limit_carried (limit : Limit) : Carries Form.read? (Form.write limit) limit [] limit.indices := by
  cases limit with
  | bound => exact unnumbered_carried trivial fun _ => rfl
  | constraint index =>
    refine unnumbered_carried ⟨index_written_proper index, trivial⟩ fun fits => ?_
    exact congrArg (Option.map Limit.constraint) (index_recovered index (fits index List.mem_cons_self))

theorem origin_carried (origin : Origin) : Carries Form.read? (Form.write origin) origin [] origin.indices := by
  cases origin with
  | intercept axis limit =>
    have carried := limit_carried limit
    have recovered fits := congrArg (Option.map (Origin.intercept axis)) (carried.recovered fits nofun)
    cases axis <;> exact unnumbered_carried ⟨carried.proper, trivial⟩ recovered
  | intersection i j =>
    refine unnumbered_carried ⟨⟨index_written_proper i, index_written_proper j, trivial⟩, trivial⟩ fun fits => ?_
    have first := index_recovered i (fits i List.mem_cons_self)
    have second := index_recovered j (fits j (List.mem_cons_of_mem i List.mem_cons_self))
    change Origin.intersection <$> (Json.ofIndex i).index? <*> (Json.ofIndex j).index? = _
    rw [first, second]
    rfl

theorem point_carried (p : Point Float) : Carries Form.read? (Form.write p) p p.numbers [] :=
  record_carried
    (gathers_cons "x" (number_carried p.x) fun x =>
      gathers_cons "y" (number_carried p.y) fun y => gathers_nil (⟨x, y⟩ : Point Float))
    (show ["x", "y"].Nodup by decide) rfl

theorem bounds_carried (b : Bounds Float) : Carries Form.read? (Form.write b) b b.numbers [] :=
  record_carried
    (gathers_cons "x_max" (number_carried b.xMax) fun xMax =>
      gathers_cons "y_max" (number_carried b.yMax) fun yMax => gathers_nil (⟨xMax, yMax⟩ : Bounds Float))
    (show ["x_max", "y_max"].Nodup by decide) rfl

theorem objective_carried (o : Objective Float) : Carries Form.read? (Form.write o) o o.numbers [] :=
  record_carried
    (gathers_cons "g" (number_carried o.g) fun g =>
      gathers_cons "h" (number_carried o.h) fun h => gathers_nil (⟨g, h⟩ : Objective Float))
    (show ["g", "h"].Nodup by decide) rfl

theorem constraint_carried (c : Constraint Float) : Carries Form.read? (Form.write c) c c.numbers [] :=
  record_carried
    (gathers_cons "a" (number_carried c.boundary.a) fun a =>
      gathers_cons "b" (number_carried c.boundary.b) fun b =>
        gathers_cons "c" (number_carried c.boundary.c) fun c' =>
          gathers_cons "direction" (direction_carried c.direction) fun direction =>
            gathers_nil (⟨⟨a, b, c'⟩, direction⟩ : Constraint Float))
    (show ["a", "b", "c", "direction"].Nodup by decide) rfl

theorem constraints_carried (constraints : List (Constraint Float)) :
    Carries Form.read? (Form.write constraints) constraints (.items Constraint.numbers constraints) [] :=
  unindexed_list_carried constraints fun c _ => constraint_carried c

theorem vertex_carried (v : Vertex Float) : Carries Form.read? (Form.write v) v v.numbers v.indices := by
  have indices : v.origin.indices ++ [] = v.indices := List.append_nil _
  rw [← indices]
  exact record_carried
    (gathers_cons "point" (point_carried v.point) fun point =>
      gathers_cons "objective_value" (number_carried v.value) fun value =>
        gathers_cons "provenance" (origin_carried v.origin) fun origin =>
          gathers_nil (⟨point, value, origin⟩ : Vertex Float))
    (show ["point", "objective_value", "provenance"].Nodup by decide) rfl

theorem extremum_carried (e : Extremum Float) : Carries Form.read? (Form.write e) e e.numbers e.indices :=
  record_carried
    (gathers_cons "index" (index_carried e.index) fun index =>
      gathers_cons "point" (point_carried e.point) fun point =>
        gathers_cons "objective_value" (number_carried e.value) fun value =>
          gathers_nil (⟨index, point, value⟩ : Extremum Float))
    (show ["index", "point", "objective_value"].Nodup by decide) rfl

theorem solution_carried (s : Solution Float) : Carries Form.read? (Form.write s) s s.numbers s.indices :=
  record_carried
    (gathers_cons "status" (status_carried s.status) fun status =>
      gathers_cons "vertices" (list_carried s.vertices fun v _ => vertex_carried v) fun vertices =>
        gathers_cons "maximum" (optional_carried s.maximum nofun fun e _ => extremum_carried e) fun maximum =>
          gathers_cons "minimum" (optional_carried s.minimum nofun fun e _ => extremum_carried e) fun minimum =>
            gathers_nil (⟨status, vertices, maximum, minimum⟩ : Solution Float))
    (show ["status", "vertices", "maximum", "minimum"].Nodup by decide)
    (by obtain ⟨status, vertices, maximum, minimum⟩ := s; cases maximum <;> cases minimum <;> rfl)

theorem points_carried (points : List (Point Float)) :
    Carries Form.read? (Form.write points) points (.items Point.numbers points) [] :=
  unindexed_list_carried points fun p _ => point_carried p

theorem optional_point_carried (p : Option (Point Float)) :
    Carries Json.readOptional? (Json.writeOptional p) p (.optional Point.numbers p) [] :=
  unindexed_optional_carried p nofun fun p _ => point_carried p

theorem polyline_carried (line : Polyline Float) : Carries Form.read? (Form.write line) line line.numbers [] :=
  record_carried
    (gathers_cons "points" (points_carried line.points) fun points => gathers_nil (⟨points⟩ : Polyline Float))
    (show ["points"].Nodup by decide) rfl

theorem polylines_carried (lines : List (Polyline Float)) :
    Carries Form.read? (Form.write lines) lines (.items Polyline.numbers lines) [] :=
  unindexed_list_carried lines fun line _ => polyline_carried line

theorem column_carried (column : Column Float) :
    Carries Form.read? (Form.write column) column column.numbers [] :=
  record_carried
    (gathers_cons "x" (number_carried column.x) fun x =>
      gathers_cons "lower" (number_carried column.lower) fun lower =>
        gathers_cons "upper" (number_carried column.upper) fun upper =>
          gathers_nil (⟨x, lower, upper⟩ : Column Float))
    (show ["x", "lower", "upper"].Nodup by decide) rfl

theorem band_carried (band : List (Column Float)) :
    Carries Form.read? (Form.write band) band (.items Column.numbers band) [] :=
  unindexed_list_carried band fun column _ => column_carried column

theorem isoline_carried (isoline : Isoline Float) :
    Carries Form.read? (Form.write isoline) isoline isoline.numbers [] :=
  record_carried
    (gathers_cons "level" (number_carried isoline.level) fun level =>
      gathers_cons "line" (polyline_carried isoline.line) fun line => gathers_nil (⟨level, line⟩ : Isoline Float))
    (show ["level", "line"].Nodup by decide) rfl

theorem isolines_carried (isolines : List (Isoline Float)) :
    Carries Form.read? (Form.write isolines) isolines (.items Isoline.numbers isolines) [] :=
  unindexed_list_carried isolines fun isoline _ => isoline_carried isoline

theorem plot_carried (plot : Plot Float) : Carries Form.read? (Form.write plot) plot plot.numbers [] :=
  record_carried
    (gathers_cons "bounds" (bounds_carried plot.bounds) fun bounds =>
      gathers_cons "constraint_lines" (polylines_carried plot.boundaries) fun boundaries =>
        gathers_cons "feasible_band" (band_carried plot.band) fun band =>
          gathers_cons "isolines" (isolines_carried plot.isolines) fun isolines =>
            gathers_cons "optimal_lines" (isolines_carried plot.optimalLines) fun lines =>
              gathers_cons "vertices" (points_carried plot.vertices) fun vertices =>
                gathers_cons "maximum" (optional_point_carried plot.maximum) fun maximum =>
                  gathers_cons "minimum" (optional_point_carried plot.minimum) fun minimum =>
                    gathers_nil (⟨bounds, boundaries, band, isolines, lines, vertices, maximum, minimum⟩ : Plot Float))
    (show ["bounds", "constraint_lines", "feasible_band", "isolines", "optimal_lines", "vertices", "maximum",
      "minimum"].Nodup by decide)
    (by
      obtain ⟨bounds, boundaries, band, isolines, lines, vertices, maximum, minimum⟩ := plot
      cases maximum <;> cases minimum <;> rfl)

end PlanarLP
