import KairosPersistence.OperatorControl

/-!
The evidence that the operator tables hold: small documents of integers and
texts, which are read back as they were written, and the models they stand for.
-/

namespace KairosPersistence

open PythonJson Jsonb
open Transactions (bind_ok found_ok require_ok require_pos ok_bind)

section Structure

/-- The bound of a document whose integers are in the range of a `BIGINT`. -/
def evidenceSize (t : PyJson) : ℕ := t.textBound fun _ => 20

theorem evidenceSize_pos (t : PyJson) : 0 < evidenceSize t := by
  cases t <;> simp [evidenceSize, Json.textBound]

theorem checkStructure_ok {nodes : ℕ} {pending : List (PyJson × ℕ)} (hnodes : nodes ≤ 10000)
    (hsum : (pending.map fun p => evidenceSize p.1).sum ≤ nodes)
    (hheight : ∀ p ∈ pending, p.2 ≤ 32 ∧ Json.HeightLE (32 - p.2) p.1) : checkStructure nodes pending = .ok () := by
  induction nodes generalizing pending with
  | zero =>
    cases pending with
    | nil => rfl
    | cons p pending =>
      have := evidenceSize_pos p.1
      simp only [List.map_cons, List.sum_cons] at hsum
      omega
  | succ nodes ih =>
    cases pending with
    | nil => rfl
    | cons p pending =>
      obtain ⟨item, depth⟩ := p
      have hpending (q : PyJson × ℕ) (hq : q ∈ pending) := hheight q (List.mem_cons_of_mem _ hq)
      obtain ⟨hdepth, hitem⟩ := hheight (item, depth) List.mem_cons_self
      have hpos := evidenceSize_pos item
      simp only [List.map_cons, List.sum_cons] at hsum
      have hskip : checkStructure nodes pending = .ok () := ih (by omega) (by omega) hpending
      -- the children of a container are one level deeper, and smaller together
      have hchildren (children : List PyJson) (hsmaller : (children.map evidenceSize).sum < evidenceSize item)
          (hlevel : depth < 32 ∧ ∀ x ∈ children, Json.HeightLE (32 - (depth + 1)) x) :
          checkStructure nodes ((children.map (·, depth + 1)).reverse ++ pending) = .ok () := by
        refine ih (by omega) ?_ fun q hq => ?_
        · simp only [List.map_append, List.map_reverse, List.map_map, List.sum_append, List.sum_reverse]
          have hmap : (children.map ((fun p : PyJson × ℕ => evidenceSize p.1) ∘ fun x => (x, depth + 1))) =
              children.map evidenceSize := rfl
          rw [hmap]
          omega
        · rcases List.mem_append.mp hq with hq | hq
          · obtain ⟨x, hx, rfl⟩ := List.mem_map.mp (List.mem_reverse.mp hq)
            exact ⟨hlevel.1, hlevel.2 x hx⟩
          · exact hpending q hq
      cases item with
      | null | bool | num =>
        rw [checkStructure, if_neg (by omega)]
        · exact hskip
        all_goals simp
      | str s =>
        have := (JsonText.utf8ByteSize_ofList s.toList).trans_le (JsonText.byteSize_le _)
        rw [String.ofList_toList, String.length_toList] at this
        simp only [evidenceSize, Json.textBound] at hsum
        rw [checkStructure, if_neg (by omega)]
        rw [if_neg (by unfold maxPayloadBytes; omega)]
        exact hskip
      | arr items =>
        have hless : (items.map evidenceSize).sum + items.length < evidenceSize (.arr items) :=
          Json.sum_textBound_arr items
        rw [checkStructure, if_neg (by omega)]
        rw [if_neg (by omega)]
        refine hchildren items (by omega) ?_
        cases hn : 32 - depth with
        | zero => rw [hn] at hitem; exact hitem.elim
        | succ n =>
          rw [hn] at hitem
          rw [show 32 - (depth + 1) = n by omega]
          exact ⟨by omega, hitem⟩
      | obj fields =>
        have hless : ((fields.map Prod.snd).map evidenceSize).sum + fields.length < evidenceSize (.obj fields) := by
          rw [List.map_map]
          exact Json.sum_textBound_obj fields
        rw [checkStructure, if_neg (by omega)]
        rw [if_neg (by omega)]
        refine hchildren (fields.map Prod.snd) (by omega) ?_
        cases hn : 32 - depth with
        | zero => rw [hn] at hitem; exact hitem.elim
        | succ n =>
          rw [hn] at hitem
          rw [show 32 - (depth + 1) = n by omega]
          exact ⟨by omega, List.forall_mem_map.mpr hitem⟩

end Structure

/-- Numbers are integers of the range of a `BIGINT`. -/
structure Plain (height : ℕ) (t : PyJson) : Prop where
  keys : t.UniqueKeys
  integers : ∀ n ∈ t.numbers, ∃ i : ℤ, n = .int i ∧ i.natAbs < 2 ^ 63
  height : t.HeightLE height

namespace Plain

variable {height : ℕ}

theorem null : Plain height .null := ⟨trivial, by simp [Json.numbers], by cases height <;> trivial⟩

theorem str (s : String) : Plain height (.str s) := ⟨trivial, by simp [Json.numbers], by cases height <;> trivial⟩

theorem int {i : ℤ} (h : i.natAbs < 2 ^ 63) : Plain height (.num (.int i)) :=
  ⟨trivial, by simpa [Json.numbers] using h, by cases height <;> trivial⟩

theorem optStr (o : Option String) : Plain height (KairosPersistence.optStr o) := by
  cases o with
  | none => exact null
  | some s => exact str s

theorem optNat {o : Option ℕ} (h : ∀ n ∈ o, n < 2 ^ 63) : Plain height (KairosPersistence.optNat o) := by
  cases o with
  | none => exact null
  | some n => exact int (h n rfl)

theorem obj {fields : List (String × PyJson)} (hkeys : (fields.map Prod.fst).Nodup)
    (h : ∀ p ∈ fields, Plain height p.2) : Plain (height + 1) (.obj fields) where
  keys := Json.uniqueKeys_obj.mpr ⟨hkeys, fun p hp => (h p hp).keys⟩
  integers n hn := by
    obtain ⟨p, hp, hn⟩ := Json.mem_numbersFields.mp hn
    exact (h p hp).integers n hn
  height p hp := (h p hp).height

end Plain

/-- A document that is read back as it was written. -/
structure Evidence (t : PyJson) : Prop extends Plain 32 t where
  object : ∃ fields, t = .obj fields
  size : evidenceSize t ≤ 10000

theorem Evidence.read {t : PyJson} (h : Evidence t) {column : JsonColumn} (hcolumn : jsonbIn (dumps t) = some column) :
    ∃ fields, readColumn column = some (.obj fields) ∧ dumps (.obj fields) = dumps t := by
  have hstable (n : PyNumber) (hn : n ∈ t.numbers) : Stable n := by
    obtain ⟨i, rfl, -⟩ := h.integers n hn
    trivial
  obtain ⟨reread, hread, hdumps⟩ := readColumn_stable hcolumn h.keys (nulFree_of_jsonbIn hcolumn) hstable
  obtain ⟨gs, rfl⟩ := h.object
  obtain ⟨fields, rfl⟩ := eq_obj_of_dumps hdumps
  exact ⟨fields, hread, hdumps⟩

theorem Evidence.payload {t : PyJson} (h : Evidence t) {column : JsonColumn}
    (hcolumn : jsonbIn (dumps t) = some column) :
    ∃ fields, operatorPayload column (digest t) = .ok fields ∧ readColumn column = some (.obj fields) ∧
      dumps (.obj fields) = dumps t := by
  obtain ⟨fields, hread, hdumps⟩ := h.read hcolumn
  have hsorted := dumps_injective hdumps
  have hheight : Json.HeightLE 32 (Json.obj fields) := by
    rw [← Json.heightLE_orderKeys (· ≤ ·) 32 (Json.obj fields)]
    have hsame : Json.orderKeys (· ≤ ·) (Json.obj fields) = Json.orderKeys (· ≤ ·) t := hsorted
    rw [hsame, Json.heightLE_orderKeys]
    exact h.height
  have hsize : evidenceSize (.obj fields) = evidenceSize t := by
    rw [evidenceSize, ← Json.textBound_orderKeys (· ≤ ·) (Json.obj fields)]
    have hsame : Json.orderKeys (· ≤ ·) (Json.obj fields) = Json.orderKeys (· ≤ ·) t := hsorted
    rw [hsame, Json.textBound_orderKeys]
    rfl
  have hstructure : checkStructure 10000 [(.obj fields, 0)] = .ok () := by
    refine checkStructure_ok le_rfl ?_ ?_
    · simpa [hsize] using h.size
    · simpa using hheight
  have hstored := byteSize_stored hcolumn
  have hcanonical := byteSize_dumps t
  have hnumbers (n : PyNumber) (hn : n ∈ t.numbers) : JsonText.numberSize (numberText n) ≤ 20 ∧
      JsonText.numberSize (numericOut (numericIn (numberText n))) ≤ 20 := by
    obtain ⟨i, rfl, hi⟩ := h.integers n hn
    rw [numberText, numericOut_intText]
    exact ⟨numberSize_intText_le hi, numberSize_intText_le hi⟩
  have hread20 := Json.textBound_mono t fun n hn => (hnumbers n hn).2
  have hdumps20 := Json.textBound_mono t fun n hn => (hnumbers n hn).1
  have hbound := h.size
  unfold evidenceSize at hbound
  refine ⟨fields, ?_, hread, hdumps⟩
  unfold operatorPayload
  rw [if_neg (by unfold maxPayloadBytes; omega), hread]
  dsimp only
  rw [hstructure, ok_bind, require_pos, ok_bind]
  · rfl
  · rw [hdumps, digest, digest, canonicalPayload, canonicalPayload, hdumps]
    exact ⟨by unfold maxPayloadBytes; omega, rfl⟩

theorem operatorPayload_ok {column : JsonColumn} {expectedSha : String} {fields : List (String × PyJson)}
    (h : operatorPayload column expectedSha = .ok fields) : readColumn column = some (.obj fields) := by
  unfold operatorPayload at h
  split at h
  · cases h
  split at h
  · rename_i gs hread
    obtain ⟨_, -, h⟩ := bind_ok h
    obtain ⟨_, -, h⟩ := bind_ok h
    rw [hread, Except.ok.inj h]
  · cases h

/-- What is read of a stored document compares as the document. -/
theorem Evidence.equal_read {t : PyJson} (h : Evidence t) {column : JsonColumn} {expectedSha : String}
    {fields : List (String × PyJson)} (hcolumn : jsonbIn (dumps t) = some column)
    (hread : operatorPayload column expectedSha = .ok fields) (u : PyJson) : equal (.obj fields) u = equal t u := by
  obtain ⟨gs, hgs, hdumps⟩ := h.read hcolumn
  rw [operatorPayload_ok hread, Option.some.injEq] at hgs
  rw [hgs]
  exact equal_congr hdumps u

section Documents

theorem isSha256_length {s : String} (h : isSha256 s = true) : s.length = 64 := by
  rw [isSha256, Bool.and_eq_true, decide_eq_true_eq] at h
  exact h.1

theorem isCanaryAccount_length {s : String} (h : isCanaryAccount s = true) : s.length ≤ 81 := by
  unfold isCanaryAccount at h
  split at h
  · cases h
  · rename_i c cs hcs
    simp only [Bool.and_eq_true, decide_eq_true_eq] at h
    have hlength := congrArg List.length hcs
    rw [List.length_drop, String.length_toList, List.length_cons] at hlength
    omega

theorem evidenceSize_optStr {o : Option String} (h : ∀ s ∈ o, isSha256 s = true) : evidenceSize (optStr o) ≤ 386 := by
  cases o with
  | none => decide
  | some s =>
    have := isSha256_length (h s rfl)
    simp only [optStr, evidenceSize, Json.textBound]
    omega

theorem evidenceSize_optNat (o : Option ℕ) : evidenceSize (optNat o) ≤ 20 := by
  cases o <;> simp [optNat, evidenceSize, Json.textBound]

theorem evidenceSize_nil : evidenceSize (.obj []) = 2 := rfl

theorem evidenceSize_cons (key : String) (value : PyJson) (fields : List (String × PyJson)) :
    evidenceSize (.obj ((key, value) :: fields)) =
      6 * key.toList.length + 6 + evidenceSize value + evidenceSize (.obj fields) := by
  simp only [evidenceSize, Json.textBound, Json.textBoundFields, String.length_toList]
  omega

theorem evidenceSize_str (s : String) : evidenceSize (.str s) = 6 * s.toList.length + 2 := by
  rw [evidenceSize, Json.textBound, String.length_toList]

theorem evidenceSize_num (n : PyNumber) : evidenceSize (.num n) = 20 := rfl

namespace CanaryScope

variable {scope : CanaryScope}

theorem plain (scope : CanaryScope) {height : ℕ} : Plain (height + 1) scope.modelDump :=
  Plain.obj (by simp) (by simp [Plain.str, Plain.int])

theorem evidenceSize_le (h : scope.Valid) : evidenceSize scope.modelDump ≤ 4000 := by
  obtain ⟨henvironment, haccount, -, hremote, -, -, hconfig, hcode⟩ := h
  have hshort : scope.environment.length ≤ 9 := by
    rcases henvironment with heq | heq <;> rw [heq] <;> decide
  have := isCanaryAccount_length haccount
  have := isSha256_length hconfig
  have := isSha256_length hcode
  simp only [modelDump, evidenceSize_cons, evidenceSize_nil, evidenceSize_str, evidenceSize_num, String.reduceToList,
    List.length_cons, List.length_nil]
  simp only [String.length_toList]
  omega

theorem evidence (h : scope.Valid) : Evidence scope.modelDump :=
  ⟨scope.plain, ⟨_, rfl⟩, (evidenceSize_le h).trans (by norm_num)⟩

end CanaryScope

theorem OperatorCommand.evidence {command : OperatorCommand} (h : command.Valid) {version : ℕ}
    (hversion : version = command.expectedVersion + 1) (hcolumns : bigintColumns version command.expiresAtMs = true) :
    Evidence command.modelDump := by
  obtain ⟨hid, hscope, hlabel, hsession, -⟩ := h
  rw [bigintColumns, Bool.and_eq_true, decide_eq_true_eq] at hcolumns
  have hlong : (command.expectedVersion : ℤ).natAbs < 2 ^ 63 := by
    unfold maxBigint at hcolumns
    omega
  have hexpires (n : ℕ) (hn : n ∈ command.expiresAtMs) : n < 2 ^ 63 := by
    have hall := hcolumns.2
    rw [Option.mem_def.mp hn, Option.all_some, decide_eq_true_eq, maxBigint] at hall
    omega
  refine ⟨Plain.obj (by simp) ?_, ⟨_, rfl⟩, ?_⟩
  · simp only [List.forall_mem_cons, List.not_mem_nil, false_implies, implies_true, and_true]
    exact ⟨.str _, command.scope.plain, .str _, .int hlong, .str _, .optStr _, .optNat hexpires⟩
  · have := isSha256_length hid
    have := CanaryScope.evidenceSize_le hscope
    have := evidenceSize_optStr hsession
    have := evidenceSize_optNat command.expiresAtMs
    have haction : command.action.text.length ≤ 6 := by cases command.action <;> decide
    have hshort : command.operatorLabel.length ≤ 64 := by
      simp only [isOperatorLabel, Bool.and_eq_true, decide_eq_true_eq] at hlabel
      exact hlabel.1.2
    simp only [modelDump, evidenceSize_cons, evidenceSize_nil, evidenceSize_str, evidenceSize_num,
      String.reduceToList, List.length_cons, List.length_nil]
    simp only [String.length_toList]
    omega

theorem commandEvent_evidence {commandSha256 previousSha256 : String} {version : ℕ} {observedAtMs : ℤ}
    (hcommand : commandSha256.length = 64) (hprevious : previousSha256.length = 64) (hversion : version ≤ maxBigint)
    (hobserved : observedAtMs.natAbs < 2 ^ 63) :
    Evidence (commandEvent commandSha256 version previousSha256 observedAtMs) := by
  have hlong : (version : ℤ).natAbs < 2 ^ 63 := by
    unfold maxBigint at hversion
    omega
  refine ⟨Plain.obj (by simp) ?_, ⟨_, rfl⟩, ?_⟩
  · simp only [List.forall_mem_cons, List.not_mem_nil, false_implies, implies_true, and_true]
    exact ⟨.str _, .str _, .str _, .int hlong, .str _, .int hobserved⟩
  · simp only [commandEvent, evidenceSize_cons, evidenceSize_nil, evidenceSize_str, evidenceSize_num,
      String.reduceToList, List.length_cons, List.length_nil]
    simp only [String.length_toList]
    omega

theorem OperatorAdmission.evidence {binding : OperatorAdmission} (h : binding.Valid)
    (hversion : binding.controlVersion ≤ maxBigint) (hexpires : binding.expiresAtMs ≤ maxBigint) :
    Evidence binding.modelDump := by
  obtain ⟨hscope, -, hsession, hdecision, hdigest, htrade, hpos⟩ := h
  have hlong : (binding.controlVersion : ℤ).natAbs < 2 ^ 63 := by
    unfold maxBigint at hversion
    omega
  have hexpiry : binding.expiresAtMs.natAbs < 2 ^ 63 := by
    unfold maxBigint at hexpires
    omega
  refine ⟨Plain.obj (by simp) ?_, ⟨_, rfl⟩, ?_⟩
  · simp only [List.forall_mem_cons, List.not_mem_nil, false_implies, implies_true, and_true]
    exact ⟨.str _, .int hlong, .str _, .str _, .str _, .str _, .int hexpiry⟩
  · have := isSha256_length hscope
    have := isSha256_length hsession
    have := isSha256_length hdecision
    have := isSha256_length hdigest
    have := isSha256_length htrade
    simp only [modelDump, evidenceSize_cons, evidenceSize_nil, evidenceSize_str, evidenceSize_num,
      String.reduceToList, List.length_cons, List.length_nil]
    simp only [String.length_toList]
    omega

end Documents

end KairosPersistence
