import HubScript.Proofs.MainBlock

/-!
# Instructions in any order

A program is made from a list of instructions, and the order in which they arrive does not show in
it. The opening depends on which motors and sensors occur somewhere in the forest, and motors are
set up in the order of their names. The main function has its instructions in the order of their
places, which is the only one there is when no two of them share their place.
-/
namespace HubScript.Hub

section Places

variable {a b : Form}

theorem placeOf_eq_of_inOrder (hab : inOrder a b = true) (hba : inOrder b a = true) :
    placeOf a = placeOf b := by
  simp only [inOrder, Bool.or_eq_true, Bool.and_eq_true, decide_eq_true_eq, beq_iff_eq] at hab hba
  exact Prod.ext (by omega) (by omega)

/-- Forms with different places are sorted into one list, however they arrive. -/
theorem mergeSort_eq_of_perm {forms moved : List Form} (h : moved.Perm forms)
    (hplaces : (forms.map placeOf).Nodup) : moved.mergeSort inOrder = forms.mergeSort inOrder := by
  have hsorted (items : List Form) : (items.mergeSort inOrder).Pairwise (inOrder · · = true) :=
    List.pairwise_mergeSort inOrder_trans inOrder_total items
  have hperm : (moved.mergeSort inOrder).Perm (forms.mergeSort inOrder) :=
    (List.mergeSort_perm moved _).trans (h.trans (List.mergeSort_perm forms _).symm)
  refine hperm.eq_of_pairwise (fun a b ha hb hab hba => ?_) (hsorted moved) (hsorted forms)
  have hmem : a ∈ forms := h.mem_iff.mp (List.mem_mergeSort.mp ha)
  exact List.inj_on_of_nodup_map hplaces hmem (List.mem_mergeSort.mp hb)
    (placeOf_eq_of_inOrder hab hba)

end Places

section Opening

variable {instrs moved : List Instruction} {needs needs' : Needs} {motors motors' : List String}

/-- The sensors and the motors that are set up are those of the forest in any order. -/
theorem SetsUp.of_perm (h : moved.Perm instrs) (hmoved : SetsUp moved needs' motors')
    (hinstrs : SetsUp instrs needs motors) :
    (∀ sensor, needs'.sensor sensor = needs.sensor sensor) ∧ motors' = motors := by
  have hnested := nestedAll_perm h
  refine ⟨fun sensor => ?_, ?_⟩
  · rw [hmoved.sensors, hinstrs.sensors]
    exact hnested.any_eq
  · have hnames : motors'.Perm motors := by
      refine (List.perm_ext_iff_of_nodup hmoved.named.nodup hinstrs.named.nodup).mpr fun name => ?_
      simp only [hmoved.named.mem_iff, hinstrs.named.mem_iff, hnested.mem_iff]
    exact hnames.eq_of_pairwise (fun _ _ _ _ hab hba => absurd hba (lt_asymm hab)) hmoved.sorted
      hinstrs.sorted

/-- An opening shows the sensors that are needed and the motors in the order of their names. The
order in which the motors were found is only asked whether there are any. -/
theorem openingOf_congr (settings : Settings)
    (hsensors : ∀ sensor, needs'.sensor sensor = needs.sensor sensor)
    (hmotors : needs'.motors.isEmpty = needs.motors.isEmpty) (motors : List String) :
    openingOf settings needs' motors = openingOf settings needs motors := by
  have hcolor : needs'.color = needs.color := hsensors .color
  have hdistance : needs'.distance = needs.distance := hsensors .distance
  have hgyro : needs'.gyro = needs.gyro := hsensors .gyro
  have hir : needs'.ir = needs.ir := hsensors .ir
  simp only [openingOf, importLines, helperLines, sensorLines, hcolor, hdistance, hgyro, hir,
    hmotors]

theorem prelude_eq_of_perm (settings : Settings) (h : moved.Perm instrs) :
    prelude settings (formsOf moved) = prelude settings (formsOf instrs) := by
  obtain ⟨needs', motors', hmoved, hprelude'⟩ := prelude_sets_up settings moved
  obtain ⟨needs, motors, hinstrs, hprelude⟩ := prelude_sets_up settings instrs
  obtain ⟨hsensors, rfl⟩ := hmoved.of_perm h hinstrs
  have hmotors : needs'.motors.isEmpty = needs.motors.isEmpty := by
    rw [hmoved.motors_isEmpty, hinstrs.motors_isEmpty]
  rw [hprelude', hprelude, openingOf_congr settings hsensors hmotors]

end Opening

/-- Instructions with different places make the same program in whatever order they arrive, for all
settings and every source of comments; and where they make none, they fail in the same way. -/
theorem arrival_order_irrelevant (settings : Settings) (script : String)
    {instrs moved : List Instruction} (h : moved.Perm instrs)
    (hplaces : ((formsOf instrs).map placeOf).Nodup) :
    generate settings (formsOf moved) script = generate settings (formsOf instrs) script := by
  have hforms : (formsOf moved).Perm (formsOf instrs) := by
    rw [formsOf_eq_map, formsOf_eq_map]
    exact h.map _
  have hbody (scene : Scene) :
      bodyLines scene (formsOf moved) = bodyLines scene (formsOf instrs) := by
    rw [bodyLines, bodyLines, mergeSort_eq_of_perm hforms hplaces]
  rw [generate_eq settings (areNumbered_formsOf moved),
    generate_eq settings (areNumbered_formsOf instrs), prelude_eq_of_perm settings h]
  simp only [hbody]

/-- Two motors, a sensor and comments. -/
def detourScript : String :=
  "# off\nmotor_b.start(50)\nwhile x:\n    motor_a.stop()  # wait\ny = gyro_sensor.get_angle()\n"

def detourInstrs : List Instruction :=
  [.step (.startMotor "motor_b" (.known (.int 50))) ⟨false, some (.of 2 2)⟩,
    .block (.whileLoop "x") [.step (.stopMotor "motor_a") ⟨false, some (.of 4 4)⟩]
      ⟨false, some (.of 3 4)⟩,
    .step (.assign "y" (.text "gyro_sensor.get_angle()")) ⟨false, some (.of 5 5)⟩]

theorem arrival_order_detourInstrs :
    detourInstrs.reverse.Perm detourInstrs ∧ ((formsOf detourInstrs).map placeOf).Nodup ∧
      ∃ program, generate .standard (formsOf detourInstrs) detourScript = .ok program ∧
        generate .standard (formsOf detourInstrs.reverse) detourScript = .ok program := by
  have hperm : detourInstrs.reverse.Perm detourInstrs := List.reverse_perm detourInstrs
  have hplaces : ((formsOf detourInstrs).map placeOf).Nodup := by decide
  have hrow : InRow 1 (formsOf detourInstrs) :=
    .cons rfl rfl (by decide) (by decide)
      (.cons rfl rfl (by decide) (by decide) (.cons rfl rfl (by decide) (by decide) .nil))
  have hlines : (CommentTable.ofScript detourScript).toOption.any (fun table =>
      (mainLines ⟨.standard, table⟩ 1 (formsOf detourInstrs)).toOption.any fun body =>
        body.length == 5) = true := by
    decide +kernel
  obtain ⟨table, htable, hlines⟩ := exists_of_any hlines
  obtain ⟨body, hbody, -⟩ := exists_of_any hlines
  obtain ⟨opening, hopening⟩ := prelude_ok .standard detourInstrs
  have hmade : generate .standard (formsOf detourInstrs) detourScript =
      .ok (programText opening body) := by
    rw [generate_eq .standard (areNumbered_formsOf detourInstrs), htable, hopening]
    dsimp only
    rw [bodyLines, hrow.mergeSort_eq, hbody]
  refine ⟨hperm, hplaces, _, hmade, ?_⟩
  rw [arrival_order_irrelevant .standard detourScript hperm hplaces, hmade]

end HubScript.Hub
