import HubScript.Proofs.SensorCalls

/-!
# The names of sensor methods

A sensor method is recognised by the text of its chain of attributes alone: the names are joined by
dots and the result is looked up. Names have no dots themselves, so the dots of the text tell how
long the chain is, and the methods that are looked up have one each. Only an attribute of a name is
recognised.
-/
namespace HubScript.Expr

/-- The names of a chain of attributes, whatever the chain starts from. -/
def chainNames : Expr → List String
  | .name id => [id]
  | .attribute object field => chainNames object ++ [field]
  | _ => []

theorem dotted?_eq_chainNames {e : Expr} {names : List String} (h : e.dotted? = some names) :
    names = e.chainNames := by
  fun_induction dotted? e generalizing names with
  | case1 id => exact (Option.some.inj h).symm
  | case2 object field ih =>
    obtain ⟨first, hfirst, rfl⟩ := Option.map_eq_some_iff.mp h
    rw [chainNames, ih hfirst]
  | case3 => cases h

theorem dotted?_eq_singleton {e : Expr} {id : String} (h : e.dotted? = some [id]) :
    e = .name id := by
  fun_induction dotted? e with
  | case1 other =>
    obtain rfl := List.head_eq_of_cons_eq (Option.some.inj h)
    rfl
  | case2 object field _ =>
    obtain ⟨first, hfirst, hnames⟩ := Option.map_eq_some_iff.mp h
    have hempty : first = [] := by simpa using congrArg List.length hnames
    exact absurd hempty (Hub.dotted?_ne_nil hfirst)
  | case3 => cases h

theorem dotted?_eq_pair {e : Expr} {object method : String}
    (h : e.dotted? = some [object, method]) : e = .attribute (.name object) method := by
  fun_induction dotted? e with
  | case1 id => cases h
  | case2 inner field _ =>
    obtain ⟨first, hfirst, hnames⟩ := Option.map_eq_some_iff.mp h
    have hsplit : first ++ [field] = [object] ++ [method] := hnames
    obtain ⟨rfl, hfield⟩ := List.append_inj' hsplit rfl
    obtain rfl := List.head_eq_of_cons_eq hfield
    rw [dotted?_eq_singleton hfirst]
  | case3 => cases h

/-- Names without dots are joined by one dot less than there are names. -/
theorem count_dot_intercalate {names : List String} (hne : names ≠ [])
    (h : ∀ name ∈ names, '.' ∉ name.toList) :
    (".".intercalate names).toList.count '.' + 1 = names.length := by
  induction names with
  | nil => exact absurd rfl hne
  | cons name rest ih =>
    obtain ⟨hname, hrest⟩ := List.forall_mem_cons.mp h
    have hnone : name.toList.count '.' = 0 := List.count_eq_zero.mpr hname
    cases rest with
    | nil => simp [hnone]
    | cons next rest =>
      have hlater := ih (List.cons_ne_nil next rest) hrest
      have hdot : ".".toList.count '.' = 1 := by decide
      rw [String.intercalate_cons_cons, String.toList_append, String.toList_append,
        List.count_append, List.count_append, hnone, hdot, List.length_cons, ← hlater]
      omega

theorem count_dot_sensorMethod {method : String} (h : method ∈ sensorMethods) :
    method.toList.count '.' = 1 := by
  have hall : sensorMethods.all (fun method => method.toList.count '.' == 1) = true := by decide
  exact eq_of_beq (List.all_eq_true.mp hall method h)

/-- A chain of names without dots, over any expression and of any length, is a sensor method exactly
if it is one attribute of a name and the two are joined to a method that is known. -/
theorem isSensorMethod_iff_pair {e : Expr} (h : ∀ name ∈ e.chainNames, '.' ∉ name.toList) :
    e.isSensorMethod = true ↔ ∃ object method, e = .attribute (.name object) method ∧
      object ++ "." ++ method ∈ sensorMethods := by
  constructor
  · intro hmethod
    obtain ⟨names, hchain, hknown⟩ := Hub.isSensorMethod_eq_true hmethod
    have hdots := count_dot_intercalate (Hub.dotted?_ne_nil hchain)
      (dotted?_eq_chainNames hchain ▸ h)
    rw [count_dot_sensorMethod hknown] at hdots
    obtain ⟨object, method, rfl⟩ := List.length_eq_two.mp hdots.symm
    refine ⟨object, method, dotted?_eq_pair hchain, ?_⟩
    rwa [String.intercalate_cons_cons, String.intercalate_singleton] at hknown
  · rintro ⟨object, method, rfl, hknown⟩
    have hchain : (Expr.attribute (.name object) method).dotted? = some [object, method] := rfl
    rw [isSensorMethod, hchain, List.contains_iff_mem, String.intercalate_cons_cons,
      String.intercalate_singleton]
    exact hknown

/-- The angle as a method of the sensor. -/
def gyroAngle : Expr := .attribute (.name "gyro_sensor") "get_angle"

/-- The angle as a method of a sensor that belongs to something else. -/
def robotAngle : Expr := .attribute (.attribute (.name "robot") "gyro_sensor") "get_angle"

theorem isSensorMethod_gyroAngle :
    (∀ name ∈ gyroAngle.chainNames, '.' ∉ name.toList) ∧ gyroAngle.isSensorMethod = true ∧
      (∀ name ∈ robotAngle.chainNames, '.' ∉ name.toList) ∧
      robotAngle.isSensorMethod = false := by
  have hgyro : ∀ name ∈ gyroAngle.chainNames, '.' ∉ name.toList := by decide
  have hrobot : ∀ name ∈ robotAngle.chainNames, '.' ∉ name.toList := by decide
  refine ⟨hgyro, ?_, hrobot, ?_⟩
  · exact (isSensorMethod_iff_pair hgyro).mpr ⟨"gyro_sensor", "get_angle", rfl, by decide⟩
  · rw [Bool.eq_false_iff, ne_eq, isSensorMethod_iff_pair hrobot]
    rintro ⟨object, method, hsame, -⟩
    cases hsame

end HubScript.Expr
