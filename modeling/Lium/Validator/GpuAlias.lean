import Lium.Validator.DuplicateExecutor

/-! # One executor per GPU

The pass of `keep_one_executor_per_gpu` in closed form. Which copy keeps a GPU depends on
nothing the pass writes, so a result is zeroed for the first GPU, in order, that it shares
and does not keep.
-/

namespace Lium.DuplicateExecutor

/-! ## What choosing a copy reads -/

def identity (node : ValidatedNode) : ExecutorSSHInfo × Bool := (node.executorInfo, node.isRented)

theorem isContested_congr (runtime : PyRuntime) {left right : ℕ → ValidatedNode}
    {copies : List ℕ} (same : ∀ id ∈ copies, identity (left id) = identity (right id)) :
    isContested runtime left copies = isContested runtime right copies := by
  have keys : (copies.map fun id => executorKey runtime (left id)) =
      copies.map fun id => executorKey runtime (right id) := by
    apply List.map_congr_left
    intro id member
    have info := congrArg Prod.fst (same id member)
    simp only [identity] at info
    rw [executorKey, executorKey, info]
  rw [isContested, isContested, keys]

/-! ## The copies of one GPU -/

theorem foldl_settleCopy (hotkey gpuUuid : String) (kept : ℕ) (copies : List ℕ)
    (state : (ℕ → ValidatedNode) × List ℕ) (id : ℕ) :
    (copies.foldl (settleCopy hotkey gpuUuid kept) state).1 id =
        (if id ∈ copies ∧ id ≠ kept ∧ (state.1 id).isRented = false ∧ id ∉ state.2 then
          zeroScore (state.1 id) (gpuAliasEvent hotkey gpuUuid (state.1 id) (state.1 kept))
        else state.1 id) ∧
      (id ∈ (copies.foldl (settleCopy hotkey gpuUuid kept) state).2 ↔
        id ∈ state.2 ∨ (id ∈ copies ∧ id ≠ kept ∧ (state.1 id).isRented = false)) := by
  induction copies generalizing state with
  | nil => simp
  | cons copy rest induction =>
    rw [List.foldl_cons]
    rcases induction (settleCopy hotkey gpuUuid kept state copy) with ⟨value, seen⟩
    rw [value, seen]
    by_cases stays : copy = kept ∨ (state.1 copy).isRented = true ∨ copy ∈ state.2
    · have skips : (copy = kept || (state.1 copy).isRented || copy ∈ state.2) = true := by
        simpa [or_assoc] using stays
      rw [settleCopy, if_pos skips]
      by_cases same : id = copy
      · subst same
        rcases stays with isKept | rented | listed
        · simp [isKept]
        · simp [rented]
        · simp [listed]
      · simp [same]
    · simp only [not_or, Bool.not_eq_true] at stays
      rcases stays with ⟨other, idle, unseen⟩
      have zeroes : ¬(copy = kept || (state.1 copy).isRented || copy ∈ state.2) = true := by
        simp [other, idle, unseen]
      rw [settleCopy, if_neg zeroes]
      by_cases same : id = copy
      · subst same
        simp [other, idle, unseen]
      · simp [same, Ne.symm other]

/-! ## The GPUs of one hotkey -/

section Pass

variable (runtime : PyRuntime) (hotkey : String) (nodes : ℕ → ValidatedNode)
  (copiesOf : String → List ℕ)

def keptCopy (gpuUuid : String) : Option ℕ :=
  (copiesOf gpuUuid).argmin fun id => preference runtime (nodes id)

def loses (gpuUuid : String) (id : ℕ) : Bool :=
  isContested runtime nodes (copiesOf gpuUuid) && id ∈ copiesOf gpuUuid &&
    keptCopy runtime nodes copiesOf gpuUuid ≠ some id && !(nodes id).isRented

def aliasOf (gpuUuid : String) (id : ℕ) : ValidatedNode :=
  zeroScore (nodes id) (gpuAliasEvent hotkey gpuUuid (nodes id)
    (nodes ((keptCopy runtime nodes copiesOf gpuUuid).getD 0)))

def settledNode (gpus : List String) (id : ℕ) : ValidatedNode :=
  ((gpus.find? fun gpuUuid => loses runtime nodes copiesOf gpuUuid id).map fun gpuUuid =>
    aliasOf runtime hotkey nodes copiesOf gpuUuid id).getD (nodes id)

structure Settling (gpus : List String) (state : (ℕ → ValidatedNode) × List ℕ) : Prop where
  value : ∀ id, state.1 id = settledNode runtime hotkey nodes copiesOf gpus id
  seen : ∀ id, id ∈ state.2 ↔ ∃ gpuUuid ∈ gpus, loses runtime nodes copiesOf gpuUuid id = true

variable {gpuUuid : String} {id : ℕ}

theorem loses_iff :
    loses runtime nodes copiesOf gpuUuid id = true ↔
      isContested runtime nodes (copiesOf gpuUuid) = true ∧ id ∈ copiesOf gpuUuid ∧
        keptCopy runtime nodes copiesOf gpuUuid ≠ some id ∧ (nodes id).isRented = false := by
  simp [loses, and_assoc]

variable {runtime hotkey nodes copiesOf} {gpus : List String} {kept : ℕ}

theorem loses_iff_of_kept (contested : isContested runtime nodes (copiesOf gpuUuid) = true)
    (keeps : keptCopy runtime nodes copiesOf gpuUuid = some kept) (id : ℕ) :
    loses runtime nodes copiesOf gpuUuid id = true ↔
      id ∈ copiesOf gpuUuid ∧ id ≠ kept ∧ (nodes id).isRented = false := by
  have other : some kept ≠ some id ↔ id ≠ kept := by
    rw [ne_eq, Option.some.injEq, eq_comm]
  rw [loses_iff, keeps, other]
  exact and_iff_right contested

theorem keptCopy_mem (keeps : keptCopy runtime nodes copiesOf gpuUuid = some kept) :
    kept ∈ copiesOf gpuUuid :=
  List.argmin_mem (Option.mem_def.mpr keeps)

theorem keptCopy_le {copy : ℕ} (keeps : keptCopy runtime nodes copiesOf gpuUuid = some kept)
    (member : copy ∈ copiesOf gpuUuid) :
    preference runtime (nodes kept) ≤ preference runtime (nodes copy) := by
  have least := List.not_lt_of_mem_argmin (f := fun id => preference runtime (nodes id)) member
    (Option.mem_def.mpr keeps)
  exact le_of_not_gt least

variable (runtime nodes) in
theorem exists_keptCopy {copy : ℕ} (member : copy ∈ copiesOf gpuUuid) :
    ∃ kept, keptCopy runtime nodes copiesOf gpuUuid = some kept := by
  rw [← Option.ne_none_iff_exists', keptCopy]
  exact mt List.argmin_eq_none.mp (List.ne_nil_of_mem member)

theorem settledNode_append_of_not_loses
    (keeps : loses runtime nodes copiesOf gpuUuid id = false) :
    settledNode runtime hotkey nodes copiesOf (gpus ++ [gpuUuid]) id =
      settledNode runtime hotkey nodes copiesOf gpus id := by
  rw [settledNode, settledNode, List.find?_append]
  simp [keeps]

theorem settledNode_append_of_settled
    (settled : ∃ earlier ∈ gpus, loses runtime nodes copiesOf earlier id = true) :
    settledNode runtime hotkey nodes copiesOf (gpus ++ [gpuUuid]) id =
      settledNode runtime hotkey nodes copiesOf gpus id := by
  have found : (gpus.find? fun earlier =>
      loses runtime nodes copiesOf earlier id).isSome = true := by
    rw [List.find?_isSome]
    exact settled
  rcases Option.isSome_iff_exists.mp found with ⟨earlier, first⟩
  rw [settledNode, settledNode, List.find?_append, first]
  rfl

theorem find?_loses_eq_none
    (keeps : ∀ gpuUuid ∈ gpus, loses runtime nodes copiesOf gpuUuid id = false) :
    (gpus.find? fun gpuUuid => loses runtime nodes copiesOf gpuUuid id) = none := by
  simpa [List.find?_eq_none] using keeps

theorem settledNode_of_kept
    (keeps : ∀ gpuUuid ∈ gpus, loses runtime nodes copiesOf gpuUuid id = false) :
    settledNode runtime hotkey nodes copiesOf gpus id = nodes id := by
  rw [settledNode, find?_loses_eq_none keeps]
  rfl

theorem settledNode_append_of_loses
    (keeps : ∀ earlier ∈ gpus, loses runtime nodes copiesOf earlier id = false)
    (loss : loses runtime nodes copiesOf gpuUuid id = true) :
    settledNode runtime hotkey nodes copiesOf (gpus ++ [gpuUuid]) id =
      aliasOf runtime hotkey nodes copiesOf gpuUuid id := by
  rw [settledNode, List.find?_append, find?_loses_eq_none keeps]
  simp [loss]

variable {state : (ℕ → ValidatedNode) × List ℕ}

section

variable (settling : Settling runtime hotkey nodes copiesOf gpus state)
include settling

theorem Settling.identity_eq
    (id : ℕ) : identity (state.1 id) = identity (nodes id) := by
  rw [settling.value, settledNode]
  cases gpus.find? _ <;> rfl

theorem Settling.unchanged
    (keeps : ∀ id, loses runtime nodes copiesOf gpuUuid id = false) :
    Settling runtime hotkey nodes copiesOf (gpus ++ [gpuUuid]) state where
  value := fun id => by rw [settling.value, settledNode_append_of_not_loses (keeps id)]
  seen := by
    intro id
    rw [settling.seen]
    simp [or_and_right, exists_or, keeps]

theorem Settling.settleCopies (contested : isContested runtime nodes (copiesOf gpuUuid) = true)
    (keeps : keptCopy runtime nodes copiesOf gpuUuid = some kept) :
    Settling runtime hotkey nodes copiesOf (gpus ++ [gpuUuid])
      ((copiesOf gpuUuid).foldl (settleCopy hotkey gpuUuid kept) state) where
  value := by
    intro id
    rw [(foldl_settleCopy hotkey gpuUuid kept (copiesOf gpuUuid) state id).1]
    have rented : (state.1 id).isRented = (nodes id).isRented :=
      congrArg Prod.snd (settling.identity_eq id)
    have keptInfo : (state.1 kept).executorInfo = (nodes kept).executorInfo :=
      congrArg Prod.fst (settling.identity_eq kept)
    have lossIff := loses_iff_of_kept contested keeps id
    by_cases before : id ∈ state.2
    · rw [if_neg fun zeroed => zeroed.2.2.2 before, settling.value,
        settledNode_append_of_settled ((settling.seen id).mp before)]
    · have keptSoFar : ∀ earlier ∈ gpus, loses runtime nodes copiesOf earlier id = false := by
        intro earlier member
        rw [Bool.eq_false_iff]
        intro loss
        exact before ((settling.seen id).mpr ⟨earlier, member, loss⟩)
      have untouched : state.1 id = nodes id := by
        rw [settling.value, settledNode_of_kept keptSoFar]
      by_cases loss : loses runtime nodes copiesOf gpuUuid id = true
      · rw [settledNode_append_of_loses keptSoFar loss, if_pos, aliasOf, keeps, untouched]
        · simp only [gpuAliasEvent, keptInfo, Option.getD_some]
        · rcases lossIff.mp loss with ⟨copy, other, idle⟩
          exact ⟨copy, other, rented.trans idle, before⟩
      · rw [settledNode_append_of_not_loses (Bool.eq_false_iff.mpr loss), if_neg, settling.value]
        rintro ⟨copy, other, idle, -⟩
        exact loss (lossIff.mpr ⟨copy, other, rented ▸ idle⟩)
  seen := by
    intro id
    have rented : (state.1 id).isRented = (nodes id).isRented :=
      congrArg Prod.snd (settling.identity_eq id)
    rw [(foldl_settleCopy hotkey gpuUuid kept (copiesOf gpuUuid) state id).2, settling.seen,
      rented]
    simp only [List.mem_append, List.mem_singleton, or_and_right, exists_or, exists_eq_left]
    rw [loses_iff_of_kept contested keeps]

theorem Settling.step
    (gpuUuid : String) :
    Settling runtime hotkey nodes copiesOf (gpus ++ [gpuUuid])
      (settleGpu runtime hotkey copiesOf state gpuUuid) := by
  have contested : isContested runtime state.1 (copiesOf gpuUuid) =
      isContested runtime nodes (copiesOf gpuUuid) :=
    isContested_congr runtime fun id _ => settling.identity_eq id
  have chosen : ((copiesOf gpuUuid).argmin fun id => preference runtime (state.1 id)) =
      keptCopy runtime nodes copiesOf gpuUuid := by
    refine Group.argmin_congr fun id _ => ?_
    rcases Prod.mk.inj (settling.identity_eq id) with ⟨info, same⟩
    rw [preference, preference, executorKey, executorKey, info, same]
  simp only [settleGpu, contested, chosen]
  cases isContestedGpu : isContested runtime nodes (copiesOf gpuUuid) with
  | false =>
    apply settling.unchanged
    intro id
    simp [loses, isContestedGpu]
  | true =>
    simp only [Bool.not_true, Bool.false_eq_true, if_false]
    cases keeps : keptCopy runtime nodes copiesOf gpuUuid with
    | none =>
      have noCopies : copiesOf gpuUuid = [] := List.argmin_eq_none.mp keeps
      apply settling.unchanged
      intro id
      simp [loses, noCopies]
    | some kept => exact settling.settleCopies isContestedGpu keeps

end

variable (runtime hotkey nodes copiesOf) in
theorem foldl_settleGpu (gpus : List String) :
    Settling runtime hotkey nodes copiesOf gpus
      (gpus.foldl (settleGpu runtime hotkey copiesOf) (nodes, [])) := by
  induction gpus using List.reverseRecOn with
  | nil => exact ⟨fun _ => rfl, by simp⟩
  | append_singleton gpus gpuUuid induction =>
    rw [List.foldl_append, List.foldl_cons, List.foldl_nil]
    exact induction.step gpuUuid

end Pass

/-! ## What a hotkey reports -/

section Reports

variable (runtime : PyRuntime)

def uuidsOf (node : ValidatedNode) : List String := (gpuUuids runtime node).toOption.getD []

def reportsOf (nodes : ℕ → ValidatedNode) (ids : List ℕ) : List (ℕ × List String) :=
  (ids.filter fun id => (nodes id).isSuccessful).map fun id => (id, uuidsOf runtime (nodes id))

def reporters (nodes : ℕ → ValidatedNode) (ids : List ℕ) (gpuUuid : String) : List ℕ :=
  (ids.filter fun id => (nodes id).isSuccessful).filter fun id =>
    gpuUuid ∈ uuidsOf runtime (nodes id)

def gpusOf (nodes : ℕ → ValidatedNode) (ids : List ℕ) : List String :=
  (PyDict.groupBy Prod.snd (reportsOf runtime nodes ids)).keys.insertionSort (· ≤ ·)

def settledHotkeyNode (nodes : ℕ → ValidatedNode) (entry : String × List ℕ) (id : ℕ) :
    ValidatedNode :=
  settledNode runtime entry.1 nodes (reporters runtime nodes entry.2)
    (gpusOf runtime nodes entry.2) id

variable {runtime} {nodes : ℕ → ValidatedNode} {gpuUuid : String}

theorem uuidsOf_nodup (node : ValidatedNode) : (uuidsOf runtime node).Nodup := by
  rw [uuidsOf]
  cases read : gpuUuids runtime node with
  | error cause => exact List.nodup_nil
  | ok uuids =>
    simp only [gpuUuids, Raising.bind_eq_ok_iff] at read
    rcases read with ⟨details, -, entries, -, returned⟩
    cases returned
    exact (List.perm_insertionSort _ _).nodup_iff.mpr (List.nodup_dedup _)

theorem mem_reporters {ids : List ℕ} {id : ℕ} :
    id ∈ reporters runtime nodes ids gpuUuid ↔
      id ∈ ids ∧ (nodes id).isSuccessful = true ∧ gpuUuid ∈ uuidsOf runtime (nodes id) := by
  simp only [reporters, List.mem_filter, decide_eq_true_eq, and_assoc]

theorem groupBy_reportsOf (nodes : ℕ → ValidatedNode) (ids : List ℕ) (gpuUuid : String) :
    ((PyDict.groupBy Prod.snd (reportsOf runtime nodes ids)).getD gpuUuid []).map Prod.fst =
      reporters runtime nodes ids gpuUuid := by
  rw [PyDict.groupBy_getD]
  · rw [reportsOf, reporters, List.filter_map, List.map_map]
    exact List.map_id _
  · intro report member
    rcases List.mem_map.mp member with ⟨id, -, rfl⟩
    exact uuidsOf_nodup _

theorem mem_gpusOf {ids : List ℕ} {id : ℕ} (member : id ∈ reporters runtime nodes ids gpuUuid) :
    gpuUuid ∈ gpusOf runtime nodes ids := by
  rw [mem_reporters] at member
  rw [gpusOf, List.mem_insertionSort, PyDict.mem_keys_groupBy]
  exact ⟨(id, uuidsOf runtime (nodes id)), List.mem_map.mpr
    ⟨id, List.mem_filter.mpr ⟨member.1, member.2.1⟩, rfl⟩, member.2.2⟩

theorem settleHotkey_eq {entry : String × List ℕ} {fleet settled : Fleet}
    (returned : settleHotkey runtime entry fleet = .ok settled) :
    settled = fleet.withNodes (settledHotkeyNode runtime fleet.nodes entry) := by
  rw [settleHotkey, Raising.bind_eq_ok_iff] at returned
  rcases returned with ⟨reports, read, returned⟩
  cases returned
  rw [Raising.atState_eq_ok_iff, gpuReports] at read
  have reported : reports = reportsOf runtime fleet.nodes entry.2 := by
    apply Raising.mapM_eq_map read
    intro id _ report listed
    rw [Raising.bind_eq_ok_iff] at listed
    rcases listed with ⟨uuids, uuidsRead, returned⟩
    cases returned
    rw [uuidsOf, uuidsRead]
    rfl
  subst reported
  have copies : (fun gpuUuid => ((PyDict.groupBy Prod.snd
      (reportsOf runtime fleet.nodes entry.2)).getD gpuUuid []).map Prod.fst) =
      reporters runtime fleet.nodes entry.2 :=
    funext fun gpuUuid => groupBy_reportsOf fleet.nodes entry.2 gpuUuid
  simp only [copies]
  apply congrArg
  funext id
  exact (foldl_settleGpu runtime entry.1 fleet.nodes (reporters runtime fleet.nodes entry.2)
    (gpusOf runtime fleet.nodes entry.2)).value id

end Reports

end Lium.DuplicateExecutor
