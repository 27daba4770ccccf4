import KairosPersistence.OperatorEvidence

/-!
The models of the operator documents: what is read back is the model that was
dumped, and documents that compare equal are dumps of one model.
-/

namespace KairosPersistence

open PythonJson Jsonb

section Congruence

variable {fs gs : List (String × PyJson)} (h : dumps (.obj fs) = dumps (.obj gs))

theorem dumps_congr {t u : PyJson} (h : sortKeys t = sortKeys u) : dumps t = dumps u := by
  rw [dumps, dumps, h]

include h

theorem onlyFields_congr (names : List String) : onlyFields fs names = onlyFields gs names := by
  have hall (ps : List (String × PyJson)) :
      onlyFields ps names = (ps.map Prod.fst).all fun key => decide (key ∈ names) := by
    rw [List.all_map]
    rfl
  rw [hall, hall, (keys_perm h).all_eq]

theorem constantField_congr (key : String) (value : PyJson) :
    constantField fs key value = constantField gs key value := by
  have hall (ps : List (String × PyJson)) : constantField ps key value =
      (ps.map fun p => (p.1, sortKeys p.2)).all fun p => p.1 ≠ key || equal p.2 value := by
    rw [List.all_map, constantField]
    refine congrArg _ (funext fun p => ?_)
    simp only [Function.comp_apply, sortKeys, equal_orderKeys]
  rw [hall, hall, (fields_perm h).all_eq]

variable (hu : Json.UniqueKeys (Json.obj gs))
include hu

theorem strField_congr (key : String) : strField fs key = strField gs key := by
  have hfield := getField_congr h hu key
  unfold strField
  cases hx : getField fs key <;> cases hy : getField gs key <;> simp_all [sortKeys, Json.orderKeys]

theorem intField_congr (key : String) : intField fs key = intField gs key := by
  have hfield := getField_congr h hu key
  unfold intField
  cases hx : getField fs key <;> cases hy : getField gs key <;> simp_all [sortKeys, Json.orderKeys]

theorem natField_congr (key : String) : natField fs key = natField gs key := by
  rw [natField, natField, intField_congr h hu]

theorem optField_congr {α : Type} {read : List (String × PyJson) → String → Option α} (key : String)
    (hread : read fs key = read gs key) : optField read fs key = optField read gs key := by
  have hfield := getField_congr h hu key
  unfold optField
  rw [hread]
  cases hx : getField fs key <;> cases hy : getField gs key <;> simp_all [sortKeys, Json.orderKeys]

end Congruence

theorem CanaryScope.modelValidate_congr {t u : PyJson} (h : dumps t = dumps u) (hu : u.UniqueKeys) :
    CanaryScope.modelValidate t = CanaryScope.modelValidate u := by
  have hsorted := dumps_injective h
  cases u with
  | null | bool | num | str | arr => cases t <;> simp_all [sortKeys, Json.orderKeys, CanaryScope.modelValidate]
  | obj gs =>
    obtain ⟨fs, rfl⟩ := eq_obj_of_dumps h
    simp only [CanaryScope.modelValidate, onlyFields_congr h, constantField_congr h, strField_congr h hu]

theorem CanaryScope.modelValidate_modelDump {scope : CanaryScope} (h : scope.Valid) :
    CanaryScope.modelValidate scope.modelDump = some scope := by
  simp [CanaryScope.modelValidate, CanaryScope.modelDump, onlyFields, constantField, equal, numericValue, strField,
    getField, h]

theorem optField_str {fs : List (String × PyJson)} {key : String} {o : Option String} (h : getField fs key = optStr o) :
    optField strField fs key = some o := by
  unfold optField strField
  cases o <;> simp [h, optStr]

theorem optField_nat {fs : List (String × PyJson)} {key : String} {o : Option ℕ} (h : getField fs key = optNat o) :
    optField natField fs key = some o := by
  unfold optField natField intField
  cases o <;> simp [h, optNat]

theorem OperatorCommand.modelValidate_modelDump {command : OperatorCommand} (h : command.Valid)
    {fs : List (String × PyJson)} (hdumps : dumps (.obj fs) = dumps command.modelDump) (hu : command.modelDump.UniqueKeys) :
    OperatorCommand.modelValidate fs = some command := by
  have hscope : CanaryScope.modelValidate (getField fs "scope") = some command.scope := by
    rw [← CanaryScope.modelValidate_modelDump h.2.1]
    refine CanaryScope.modelValidate_congr (dumps_congr ?_) (@CanaryScope.plain command.scope 0).keys
    exact getField_congr hdumps hu "scope"
  rw [OperatorCommand.modelDump] at hdumps hu
  have haction : OperatorAction.ofText command.action.text = some command.action := by cases command.action <;> rfl
  have hsession := (optField_congr hdumps hu "session_id" (strField_congr hdumps hu _)).trans (optField_str rfl)
  have hexpires := (optField_congr hdumps hu "expires_at_ms" (natField_congr hdumps hu _)).trans (optField_nat rfl)
  rw [OperatorCommand.modelValidate, hscope, hsession, hexpires, onlyFields_congr hdumps]
  simp only [strField_congr hdumps hu, natField_congr hdumps hu]
  simp [onlyFields, strField, natField, intField, getField, haction, h]

theorem OperatorAdmission.modelValidate_modelDump {binding : OperatorAdmission} (h : binding.Valid)
    {fs : List (String × PyJson)} (hdumps : dumps (.obj fs) = dumps binding.modelDump) (hu : binding.modelDump.UniqueKeys) :
    OperatorAdmission.modelValidate fs = some binding := by
  rw [OperatorAdmission.modelDump] at hdumps hu
  rw [OperatorAdmission.modelValidate, onlyFields_congr hdumps]
  simp only [strField_congr hdumps hu, natField_congr hdumps hu, intField_congr hdumps hu]
  simp [onlyFields, strField, natField, intField, getField, h]

section Injectivity

theorem CanaryScope.modelDump_injective {a b : CanaryScope} (h : equal a.modelDump b.modelDump = true) : a = b := by
  obtain ⟨ea, aa, ra, ca, da⟩ := a
  obtain ⟨eb, ab, rb, cb, db⟩ := b
  simp [CanaryScope.modelDump, equal, equalFields] at h
  simp [h]

theorem optStr_injective {a b : Option String} (h : equal (optStr a) (optStr b) = true) : a = b := by
  cases a <;> cases b <;> simp_all [optStr, equal, numericValue]

theorem equal_str {a b : String} (h : equal (.str a) (.str b) = true) : a = b := by simpa [equal] using h

theorem equal_int {a b : ℤ} (h : equal (.num (.int a)) (.num (.int b)) = true) : a = b := by
  have hunits : ShortestDecimal.twoPower 1074 ≠ 0 := by
    rw [ShortestDecimal.twoPower]
    exact (Nat.two_pow_pos _).ne'
  simpa [equal, numericValue, hunits] using h

theorem optNat_injective {a b : Option ℕ} (h : equal (optNat a) (optNat b) = true) : a = b := by
  cases a with
  | none => cases b <;> simp_all [optNat, equal, numericValue]
  | some n =>
    cases b with
    | none => simp [optNat, equal, numericValue] at h
    | some m => exact congrArg some (Int.ofNat_inj.mp (equal_int h))

theorem OperatorAction.text_injective {a b : OperatorAction} (h : a.text = b.text) : a = b := by
  cases a <;> cases b <;> first | rfl | simp [OperatorAction.text] at h

theorem OperatorCommand.modelDump_injective {a b : OperatorCommand} (h : equal a.modelDump b.modelDump = true) :
    a = b := by
  have hid := equal_getField h ("command_id", .str a.commandId) (by simp)
  have hscope := equal_getField h ("scope", a.scope.modelDump) (by simp)
  have haction := equal_getField h ("action", .str a.action.text) (by simp)
  have hversion := equal_getField h ("expected_version", .num (.int a.expectedVersion)) (by simp)
  have hlabel := equal_getField h ("operator_label", .str a.operatorLabel) (by simp)
  have hsession := equal_getField h ("session_id", optStr a.sessionId) (by simp)
  have hexpires := equal_getField h ("expires_at_ms", optNat a.expiresAtMs) (by simp)
  cases a
  cases b
  rw [OperatorCommand.mk.injEq]
  exact ⟨equal_str hid, CanaryScope.modelDump_injective hscope, OperatorAction.text_injective (equal_str haction),
    Int.ofNat_inj.mp (equal_int hversion), equal_str hlabel, optStr_injective hsession, optNat_injective hexpires⟩

theorem OperatorAdmission.modelDump_injective {a b : OperatorAdmission} (h : equal a.modelDump b.modelDump = true) :
    a = b := by
  have hscope := equal_getField h ("scope_sha256", .str a.scopeSha256) (by simp)
  have hversion := equal_getField h ("control_version", .num (.int a.controlVersion)) (by simp)
  have hsession := equal_getField h ("session_id", .str a.sessionId) (by simp)
  have hdecision := equal_getField h ("decision_id", .str a.decisionId) (by simp)
  have hdigest := equal_getField h ("decision_sha256", .str a.decisionSha256) (by simp)
  have htrade := equal_getField h ("trade_id", .str a.tradeId) (by simp)
  have hexpires := equal_getField h ("expires_at_ms", .num (.int a.expiresAtMs)) (by simp)
  cases a
  cases b
  rw [OperatorAdmission.mk.injEq]
  exact ⟨equal_str hscope, Int.ofNat_inj.mp (equal_int hversion), equal_str hsession, equal_str hdecision,
    equal_str hdigest, equal_str htrade, equal_int hexpires⟩

end Injectivity

end KairosPersistence
