import Lium.Incentive.Readability
import Lium.Validator.DuplicateExecutor

/-! # One hotkey per machine

`keep_one_miner_per_executor` in closed form: which results it zeroes, and what follows for
the endpoints.
-/

namespace Lium.DuplicateExecutor

variable {runtime : PyRuntime} {fleet : Fleet} {endpoint : String} {copy : String × ℕ}
  {kept : String}

/-! ## The hotkey that keeps an endpoint -/

section Keeper

variable (runtime : PyRuntime) (rentalHotkeys : PyDict String String)
  (nodes : ℕ → ValidatedNode) {copies others : List (String × ℕ)} {hotkey : String}

def holders (copies : List (String × ℕ)) : List String :=
  ((copies.filter fun copy => (nodes copy.2).isRented).filterMap fun copy =>
    rentalHotkeys.get? (executorKey runtime (nodes copy.2))).filter (· ∈ copies.map Prod.fst)

def renters (copies : List (String × ℕ)) : List String :=
  (copies.filter fun copy => (nodes copy.2).isRented).map Prod.fst

theorem keeper_eq (copies : List (String × ℕ)) :
    keeper runtime rentalHotkeys nodes copies =
      List.argmin id
        (if !(holders runtime rentalHotkeys nodes copies).isEmpty then
          holders runtime rentalHotkeys nodes copies
        else if !(renters nodes copies).isEmpty then renters nodes copies
        else copies.map Prod.fst) := rfl

theorem mem_holders :
    hotkey ∈ holders runtime rentalHotkeys nodes copies ↔
      (∃ copy ∈ copies, (nodes copy.2).isRented = true ∧
        rentalHotkeys.get? (executorKey runtime (nodes copy.2)) = some hotkey) ∧
      hotkey ∈ copies.map Prod.fst := by
  simp only [holders, List.mem_filter, List.mem_filterMap, decide_eq_true_eq, and_assoc]

theorem mem_renters :
    hotkey ∈ renters nodes copies ↔
      ∃ copy ∈ copies, (nodes copy.2).isRented = true ∧ copy.1 = hotkey := by
  simp only [renters, List.mem_map, List.mem_filter, and_assoc]

variable {runtime rentalHotkeys nodes}

theorem keeper_cases (keeps : keeper runtime rentalHotkeys nodes copies = some kept) :
    kept ∈ holders runtime rentalHotkeys nodes copies ∨
      (holders runtime rentalHotkeys nodes copies = [] ∧
        (kept ∈ renters nodes copies ∨
          (renters nodes copies = [] ∧ kept ∈ copies.map Prod.fst))) := by
  rw [keeper_eq] at keeps
  have member := List.argmin_mem (Option.mem_def.mpr keeps)
  cases named : holders runtime rentalHotkeys nodes copies with
  | cons holder rest =>
    rw [named] at member
    exact .inl member
  | nil =>
    right
    refine ⟨rfl, ?_⟩
    cases rented : renters nodes copies with
    | cons renter rest =>
      rw [named, rented] at member
      exact .inl member
    | nil =>
      rw [named, rented] at member
      exact .inr ⟨rfl, member⟩

theorem keeper_present (keeps : keeper runtime rentalHotkeys nodes copies = some kept) :
    kept ∈ copies.map Prod.fst := by
  rcases keeper_cases keeps with holder | ⟨-, renter | ⟨-, present⟩⟩
  · exact ((mem_holders ..).mp holder).2
  · rcases (mem_renters ..).mp renter with ⟨copy, member, -, rfl⟩
    exact List.mem_map_of_mem member
  · exact present

variable (runtime rentalHotkeys nodes) in
theorem exists_keeper (member : copy ∈ copies) :
    ∃ kept, keeper runtime rentalHotkeys nodes copies = some kept := by
  rw [← Option.ne_none_iff_exists', keeper_eq, ne_eq, List.argmin_eq_none]
  have present : copies.map Prod.fst ≠ [] := List.ne_nil_of_mem (List.mem_map_of_mem member)
  cases holders runtime rentalHotkeys nodes copies with
  | cons holder rest => simp
  | nil =>
    cases renters nodes copies with
    | cons renter rest => simp
    | nil => exact present

variable (runtime rentalHotkeys) in
theorem keeper_congr {otherNodes : ℕ → ValidatedNode}
    (same : ∀ copy, copy ∈ copies ↔ copy ∈ others)
    (agree : ∀ copy ∈ others, nodes copy.2 = otherNodes copy.2) :
    keeper runtime rentalHotkeys nodes copies =
      keeper runtime rentalHotkeys otherNodes others := by
  have present : ∀ hotkey, hotkey ∈ copies.map Prod.fst ↔ hotkey ∈ others.map Prod.fst := by
    intro hotkey
    simp only [List.mem_map, same]
  have named : ∀ hotkey, hotkey ∈ holders runtime rentalHotkeys nodes copies ↔
      hotkey ∈ holders runtime rentalHotkeys otherNodes others := by
    intro hotkey
    rw [mem_holders, mem_holders, present]
    simp only [same]
    apply and_congr_left
    intro _
    apply exists_congr
    intro copy
    apply and_congr_right
    intro member
    rw [agree copy member]
  have rented : ∀ hotkey, hotkey ∈ renters nodes copies ↔ hotkey ∈ renters otherNodes others := by
    intro hotkey
    simp only [mem_renters, same]
    apply exists_congr
    intro copy
    apply and_congr_right
    intro member
    rw [agree copy member]
  have emptyIff {left right : List String} (agree : ∀ hotkey, hotkey ∈ left ↔ hotkey ∈ right) :
      left.isEmpty = right.isEmpty := by
    rw [Bool.eq_iff_iff, List.isEmpty_iff, List.isEmpty_iff, List.eq_nil_iff_forall_not_mem,
      List.eq_nil_iff_forall_not_mem]
    exact forall_congr' fun hotkey => not_congr (agree hotkey)
  rw [keeper_eq, keeper_eq, emptyIff named, emptyIff rented]
  apply Group.argmin_id_congr
  intro hotkey
  split
  · exact named hotkey
  · split
    · exact rented hotkey
    · exact present hotkey

end Keeper

/-! ## The copies on an endpoint -/

/-- The endpoint a login proved, none where the validator did not log in. -/
def provenEndpoints (runtime : PyRuntime) (node : ValidatedNode) : List String :=
  if 0 < node.executorInfo.sshPort then [sshEndpoint runtime node] else []

structure ScoredAt (runtime : PyRuntime) (fleet : Fleet) (endpoint : String)
    (copy : String × ℕ) : Prop where
  listed : copy ∈ fleet.entries
  successful : (fleet.nodes copy.2).isSuccessful = true
  loggedIn : 0 < (fleet.nodes copy.2).executorInfo.sshPort
  reached : sshEndpoint runtime (fleet.nodes copy.2) = endpoint

def copiesAt (runtime : PyRuntime) (fleet : Fleet) (endpoint : String) : List (String × ℕ) :=
  (scoredCopies fleet).filter fun copy =>
    endpoint ∈ provenEndpoints runtime (fleet.nodes copy.2)

section Copies

theorem mem_scoredCopies :
    copy ∈ scoredCopies fleet ↔
      copy ∈ fleet.entries ∧ (fleet.nodes copy.2).isSuccessful = true := by
  simp only [scoredCopies, Fleet.entries, List.mem_flatMap, List.mem_insertionSort, List.mem_map,
    List.mem_filter]
  constructor
  · rintro ⟨entry, listed, id, ⟨member, successful⟩, rfl⟩
    exact ⟨⟨entry, listed, id, member, rfl⟩, successful⟩
  · rintro ⟨⟨entry, listed, id, member, rfl⟩, successful⟩
    exact ⟨entry, listed, id, ⟨member, successful⟩, rfl⟩

theorem mem_provenEndpoints {node : ValidatedNode} :
    endpoint ∈ provenEndpoints runtime node ↔
      0 < node.executorInfo.sshPort ∧ sshEndpoint runtime node = endpoint := by
  rw [provenEndpoints]
  split
  · simp_all [eq_comm]
  · simp_all

theorem provenEndpoints_nodup (node : ValidatedNode) : (provenEndpoints runtime node).Nodup := by
  rw [provenEndpoints]
  split
  · exact List.nodup_singleton _
  · exact List.nodup_nil

theorem mem_copiesAt : copy ∈ copiesAt runtime fleet endpoint ↔ ScoredAt runtime fleet endpoint copy := by
  rw [copiesAt, List.mem_filter, mem_scoredCopies, decide_eq_true_eq, mem_provenEndpoints]
  constructor
  · rintro ⟨⟨listed, successful⟩, loggedIn, reached⟩
    exact ⟨listed, successful, loggedIn, reached⟩
  · rintro ⟨listed, successful, loggedIn, reached⟩
    exact ⟨⟨listed, successful⟩, loggedIn, reached⟩

theorem hotkey_unique {other : String × ℕ} (listed : copy ∈ fleet.entries)
    (otherListed : other ∈ fleet.entries) (same : copy.2 = other.2) : copy = other :=
  List.inj_on_of_nodup_map fleet.entries_ids_nodup listed otherListed same

end Copies

/-! ## The zeroed copies -/

def duplicateOf (node : ValidatedNode) (hotkey endpoint keptBy : String) (sharesKeptRow : Bool) :
    ValidatedNode :=
  { zeroScore node
      { reasonCode := acrossMinersReason
        checkId := cycleCheckId
        whatWeSaw :=
          [("executor_uuid", node.executorInfo.uuid), ("ssh_endpoint", endpoint),
            ("miner_hotkey", hotkey), ("kept_by_hotkey", keptBy)] } with
    duplicateKeptBy := some keptBy
    duplicateSharesKeptRow := sharesKeptRow }

section Displaced

variable (runtime : PyRuntime) (rentalHotkeys : PyDict String String) (fleet : Fleet)

def displacedCopies (group : String × List (String × ℕ)) : List (String × ℕ) :=
  if (group.2.map Prod.fst).dedup.length < 2 then []
  else group.2.filter (·.1 ≠ (keeper runtime rentalHotkeys fleet.nodes group.2).getD "")

def keptUuids (group : String × List (String × ℕ)) : List String :=
  (group.2.filter (·.1 = (keeper runtime rentalHotkeys fleet.nodes group.2).getD "")).map
    fun copy => executorKey runtime (fleet.nodes copy.2)

def displacedNode (group : String × List (String × ℕ)) (copy : String × ℕ) : ValidatedNode :=
  duplicateOf (fleet.nodes copy.2) copy.1 group.1
    ((keeper runtime rentalHotkeys fleet.nodes group.2).getD "")
    (executorKey runtime (fleet.nodes copy.2) ∈ keptUuids runtime rentalHotkeys fleet group)

def byEndpoint : PyDict String (List (String × ℕ)) :=
  PyDict.groupBy (fun copy : String × ℕ => provenEndpoints runtime (fleet.nodes copy.2))
    (scoredCopies fleet)

def endpointsSettled : ℕ → ValidatedNode :=
  (byEndpoint runtime fleet).items.foldl (settleEndpoint runtime rentalHotkeys fleet) fleet.nodes

/-- The copy shares its endpoint with another hotkey and a hotkey other than its own keeps it. -/
structure Displaced (endpoint : String) (copy : String × ℕ) : Prop where
  scored : ScoredAt runtime fleet endpoint copy
  shared : ∃ other, ScoredAt runtime fleet endpoint other ∧ other.1 ≠ copy.1
  lost : keeper runtime rentalHotkeys fleet.nodes (copiesAt runtime fleet endpoint) ≠ some copy.1

variable {runtime rentalHotkeys fleet}

theorem mem_byEndpoint {group : String × List (String × ℕ)} :
    group ∈ (byEndpoint runtime fleet).items ↔
      group.2 = copiesAt runtime fleet group.1 ∧ ∃ copy, ScoredAt runtime fleet group.1 copy := by
  have value : (byEndpoint runtime fleet).getD group.1 [] = copiesAt runtime fleet group.1 :=
    PyDict.groupBy_getD (fun _ _ => provenEndpoints_nodup _) group.1
  have key := PyDict.mem_keys_groupBy
    (fun copy : String × ℕ => provenEndpoints runtime (fleet.nodes copy.2)) (scoredCopies fleet)
    group.1
  have scored : (∃ copy ∈ scoredCopies fleet,
      group.1 ∈ provenEndpoints runtime (fleet.nodes copy.2)) ↔
      ∃ copy, ScoredAt runtime fleet group.1 copy := by
    apply exists_congr
    intro copy
    rw [← mem_copiesAt, copiesAt, List.mem_filter, decide_eq_true_eq]
  rw [scored] at key
  rw [PyDict.items_eq_map_keys _ [], List.mem_map]
  constructor
  · rintro ⟨endpoint, member, rfl⟩
    exact ⟨value, key.mp member⟩
  · rintro ⟨copies, reached⟩
    refine ⟨group.1, key.mpr reached, ?_⟩
    exact Prod.ext rfl (value.trans copies.symm)

theorem mem_displacedCopies :
    copy ∈ displacedCopies runtime rentalHotkeys fleet (endpoint, copiesAt runtime fleet endpoint) ↔
      Displaced runtime rentalHotkeys fleet endpoint copy := by
  have present {other : String × ℕ} (scored : ScoredAt runtime fleet endpoint other) :
      other.1 ∈ (copiesAt runtime fleet endpoint).map Prod.fst :=
    List.mem_map_of_mem (mem_copiesAt.mpr scored)
  rw [displacedCopies]
  constructor
  · intro member
    split at member
    · cases member
    · rw [List.mem_filter, decide_eq_true_eq] at member
      rcases exists_keeper runtime rentalHotkeys fleet.nodes member.1 with ⟨kept, keeps⟩
      rw [keeps, Option.getD_some] at member
      rcases List.mem_map.mp (keeper_present keeps) with ⟨other, otherMember, rfl⟩
      refine ⟨mem_copiesAt.mp member.1, ⟨other, mem_copiesAt.mp otherMember, member.2.symm⟩, ?_⟩
      rw [keeps, ne_eq, Option.some.injEq]
      exact member.2.symm
  · rintro ⟨scored, ⟨other, otherScored, apart⟩, lost⟩
    have several := Group.two_le_length_dedup (present scored) (present otherScored) apart.symm
    rw [if_neg (Nat.not_lt.mpr several), List.mem_filter, decide_eq_true_eq]
    refine ⟨mem_copiesAt.mpr scored, ?_⟩
    rcases exists_keeper runtime rentalHotkeys fleet.nodes (mem_copiesAt.mpr scored) with
      ⟨kept, keeps⟩
    rw [keeps, ne_eq, Option.some.injEq] at lost
    rw [keeps, Option.getD_some]
    exact Ne.symm lost

variable (runtime rentalHotkeys fleet) in
def displacements : List ((String × List (String × ℕ)) × (String × ℕ)) :=
  (byEndpoint runtime fleet).items.flatMap fun group =>
    (displacedCopies runtime rentalHotkeys fleet group).map (group, ·)

theorem endpointsSettled_eq :
    endpointsSettled runtime rentalHotkeys fleet =
      (displacements runtime rentalHotkeys fleet).foldl (fun nodes write =>
        Function.update nodes write.2.2
          (displacedNode runtime rentalHotkeys fleet write.1 write.2)) fleet.nodes := by
  have step : settleEndpoint runtime rentalHotkeys fleet = fun nodes group =>
      (displacedCopies runtime rentalHotkeys fleet group).foldl (fun nodes copy =>
        Function.update nodes copy.2 (displacedNode runtime rentalHotkeys fleet group copy)) nodes := by
    funext nodes group
    simp only [settleEndpoint, displacedCopies]
    split <;> rfl
  rw [endpointsSettled, step, displacements, List.foldl_flatMap]
  simp only [List.foldl_map]

theorem mem_displacements {write : (String × List (String × ℕ)) × (String × ℕ)} :
    write ∈ displacements runtime rentalHotkeys fleet ↔
      write.1.2 = copiesAt runtime fleet write.1.1 ∧
        Displaced runtime rentalHotkeys fleet write.1.1 write.2 := by
  rcases write with ⟨⟨endpoint, copies⟩, copy⟩
  simp only [displacements, List.mem_flatMap, List.mem_map, mem_byEndpoint]
  constructor
  · rintro ⟨group, ⟨groupCopies, -⟩, other, member, same⟩
    cases same
    simp only at groupCopies
    subst groupCopies
    exact ⟨rfl, mem_displacedCopies.mp member⟩
  · rintro ⟨rfl, displaced⟩
    exact ⟨_, ⟨rfl, copy, displaced.scored⟩, copy, mem_displacedCopies.mpr displaced, rfl⟩

theorem endpointsSettled_of_displaced
    (displaced : Displaced runtime rentalHotkeys fleet endpoint copy) :
    endpointsSettled runtime rentalHotkeys fleet copy.2 =
      displacedNode runtime rentalHotkeys fleet (endpoint, copiesAt runtime fleet endpoint)
        copy := by
  have listed : ((endpoint, copiesAt runtime fleet endpoint), copy) ∈
      displacements runtime rentalHotkeys fleet := mem_displacements.mpr ⟨rfl, displaced⟩
  rw [endpointsSettled_eq, Raising.foldl_update_of_agree, if_pos]
  · exact List.mem_map_of_mem (f := fun write => write.2.2) listed
  · -- a result is in one list and proves one endpoint
    intro write member same
    rcases write with ⟨⟨other, copies⟩, otherCopy⟩
    rcases mem_displacements.mp member with ⟨groupCopies, otherDisplaced⟩
    dsimp only at groupCopies otherDisplaced same ⊢
    subst groupCopies
    have sameCopy := hotkey_unique otherDisplaced.scored.listed displaced.scored.listed same
    subst sameCopy
    have sameEndpoint : other = endpoint :=
      otherDisplaced.scored.reached.symm.trans displaced.scored.reached
    rw [sameEndpoint]

theorem endpointsSettled_of_kept {id : ℕ}
    (kept : ∀ endpoint copy, Displaced runtime rentalHotkeys fleet endpoint copy → copy.2 ≠ id) :
    endpointsSettled runtime rentalHotkeys fleet id = fleet.nodes id := by
  have unlisted : id ∉ (displacements runtime rentalHotkeys fleet).map fun write => write.2.2 := by
    intro member
    rcases List.mem_map.mp member with ⟨write, listed, same⟩
    exact kept _ _ (mem_displacements.mp listed).2 same
  have agree : ∀ write ∈ displacements runtime rentalHotkeys fleet, write.2.2 = id →
      displacedNode runtime rentalHotkeys fleet write.1 write.2 = fleet.nodes id := by
    intro write listed same
    exact absurd (List.mem_map.mpr ⟨write, listed, same⟩) unlisted
  rw [endpointsSettled_eq, Raising.foldl_update_of_agree agree, if_neg unlisted]

end Displaced

/-! ## The pass -/

def minersSettled (runtime : PyRuntime) (rentalHotkeys : PyDict String String) (fleet : Fleet) :
    Fleet :=
  fleet.withNodes (endpointsSettled runtime rentalHotkeys fleet)

def GpusReadable (runtime : PyRuntime) (fleet : Fleet) : Prop :=
  ∀ copy ∈ fleet.entries, (fleet.nodes copy.2).isSuccessful = true →
    Raising.Succeeds (gpuUuids runtime (fleet.nodes copy.2))

section Pass

variable {rentalHotkeys : PyDict String String}

theorem keepOneMinerPerExecutor_eq_ok_iff {settled : Fleet} :
    keepOneMinerPerExecutor runtime rentalHotkeys fleet = .ok settled ↔
      GpusReadable runtime fleet ∧ settled = minersSettled runtime rentalHotkeys fleet := by
  have readable : GpusReadable runtime fleet ↔ Raising.Succeeds
      ((scoredCopies fleet).mapM fun copy => gpuUuids runtime (fleet.nodes copy.2)) := by
    rw [Raising.succeeds_mapM_iff, GpusReadable]
    simp only [mem_scoredCopies, and_imp]
  rw [readable, keepOneMinerPerExecutor, Raising.bind_eq_ok_iff]
  constructor
  · rintro ⟨uuids, read, returned⟩
    cases returned
    exact ⟨⟨uuids, read⟩, rfl⟩
  · rintro ⟨⟨uuids, read⟩, rfl⟩
    exact ⟨uuids, read, rfl⟩

variable (runtime rentalHotkeys) in
theorem minersSettled_cases (listed : copy ∈ fleet.entries) :
    (∃ endpoint, Displaced runtime rentalHotkeys fleet endpoint copy ∧
        (minersSettled runtime rentalHotkeys fleet).nodes copy.2 =
          displacedNode runtime rentalHotkeys fleet (endpoint, copiesAt runtime fleet endpoint)
            copy) ∨
      ((∀ endpoint, ¬Displaced runtime rentalHotkeys fleet endpoint copy) ∧
        (minersSettled runtime rentalHotkeys fleet).nodes copy.2 = fleet.nodes copy.2) := by
  by_cases displaced : ∃ endpoint, Displaced runtime rentalHotkeys fleet endpoint copy
  · rcases displaced with ⟨endpoint, displaced⟩
    exact .inl ⟨endpoint, displaced, endpointsSettled_of_displaced displaced⟩
  · rw [not_exists] at displaced
    refine .inr ⟨displaced, endpointsSettled_of_kept ?_⟩
    intro endpoint other otherDisplaced same
    rw [hotkey_unique otherDisplaced.scored.listed listed same] at otherDisplaced
    exact displaced endpoint otherDisplaced

theorem displacedNode_isSuccessful (group : String × List (String × ℕ)) (copy : String × ℕ) :
    (displacedNode runtime rentalHotkeys fleet group copy).isSuccessful = false := by
  simp [displacedNode, duplicateOf, zeroScore, ValidatedNode.isSuccessful]

variable (runtime rentalHotkeys) in
theorem minersSettled_reported (listed : copy ∈ fleet.entries) :
    ((minersSettled runtime rentalHotkeys fleet).nodes copy.2).executorInfo =
        (fleet.nodes copy.2).executorInfo ∧
      ((minersSettled runtime rentalHotkeys fleet).nodes copy.2).spec =
        (fleet.nodes copy.2).spec := by
  rcases minersSettled_cases runtime rentalHotkeys listed with ⟨endpoint, -, zeroed⟩ | ⟨-, kept⟩
  · rw [zeroed]
    exact ⟨rfl, rfl⟩
  · rw [kept]
    exact ⟨rfl, rfl⟩

theorem minersSettled_isSuccessful (listed : copy ∈ fleet.entries) :
    ((minersSettled runtime rentalHotkeys fleet).nodes copy.2).isSuccessful = true ↔
      (fleet.nodes copy.2).isSuccessful = true ∧
        ∀ endpoint, ¬Displaced runtime rentalHotkeys fleet endpoint copy := by
  rcases minersSettled_cases runtime rentalHotkeys listed with
    ⟨endpoint, displaced, zeroed⟩ | ⟨kept, unchanged⟩
  · rw [zeroed, displacedNode_isSuccessful]
    simp only [Bool.false_eq_true, false_iff, not_and, not_forall, not_not]
    exact fun _ => ⟨endpoint, displaced⟩
  · rw [unchanged]
    exact (and_iff_left kept).symm

theorem scoredAt_minersSettled :
    ScoredAt runtime (minersSettled runtime rentalHotkeys fleet) endpoint copy ↔
      ScoredAt runtime fleet endpoint copy ∧
        ¬Displaced runtime rentalHotkeys fleet endpoint copy := by
  constructor
  · rintro ⟨listed, successful, loggedIn, reached⟩
    have listed : copy ∈ fleet.entries := listed
    have info := (minersSettled_reported runtime rentalHotkeys listed).1
    rw [sshEndpoint, info] at reached
    rw [info] at loggedIn
    rcases (minersSettled_isSuccessful listed).mp successful with ⟨successful, kept⟩
    exact ⟨⟨listed, successful, loggedIn, reached⟩, kept endpoint⟩
  · rintro ⟨scored, kept⟩
    have unchanged : (minersSettled runtime rentalHotkeys fleet).nodes copy.2 =
        fleet.nodes copy.2 := by
      rcases minersSettled_cases runtime rentalHotkeys scored.listed with
        ⟨other, displaced, -⟩ | ⟨-, unchanged⟩
      · rw [displaced.scored.reached.symm.trans scored.reached] at displaced
        exact absurd displaced kept
      · exact unchanged
    exact ⟨scored.listed, unchanged ▸ scored.successful, unchanged ▸ scored.loggedIn,
      unchanged ▸ scored.reached⟩

theorem scoredAt_minersSettled_keeper
    (scored : ScoredAt runtime (minersSettled runtime rentalHotkeys fleet) endpoint copy) :
    keeper runtime rentalHotkeys fleet.nodes (copiesAt runtime fleet endpoint) = some copy.1 := by
  rcases scoredAt_minersSettled.mp scored with ⟨before, kept⟩
  by_contra lost
  rcases exists_keeper runtime rentalHotkeys fleet.nodes (mem_copiesAt.mpr before) with
    ⟨chosen, keeps⟩
  rcases List.mem_map.mp (keeper_present keeps) with ⟨other, otherMember, rfl⟩
  refine kept ⟨before, ⟨other, mem_copiesAt.mp otherMember, ?_⟩, lost⟩
  intro same
  exact lost (same ▸ keeps)

variable (rentalHotkeys) in
theorem exists_scoredAt_minersSettled
    (scored : ScoredAt runtime fleet endpoint copy) :
    ∃ kept, ScoredAt runtime (minersSettled runtime rentalHotkeys fleet) endpoint kept := by
  rcases exists_keeper runtime rentalHotkeys fleet.nodes (mem_copiesAt.mpr scored) with
    ⟨chosen, keeps⟩
  rcases List.mem_map.mp (keeper_present keeps) with ⟨kept, keptMember, rfl⟩
  exact ⟨kept, scoredAt_minersSettled.mpr ⟨mem_copiesAt.mp keptMember,
    fun displaced => displaced.lost keeps⟩⟩

theorem minersSettled_of_unique
    (unique : ∀ endpoint left right, ScoredAt runtime fleet endpoint left →
      ScoredAt runtime fleet endpoint right → left.1 = right.1) :
    minersSettled runtime rentalHotkeys fleet = fleet := by
  have nodes : endpointsSettled runtime rentalHotkeys fleet = fleet.nodes := by
    funext id
    apply endpointsSettled_of_kept
    rintro endpoint copy ⟨scored, ⟨other, otherScored, apart⟩, -⟩
    exact absurd (unique endpoint other copy otherScored scored) apart
  rw [minersSettled, nodes]
  rfl

theorem gpusReadable_minersSettled (readable : GpusReadable runtime fleet) :
    GpusReadable runtime (minersSettled runtime rentalHotkeys fleet) := by
  intro copy listed successful
  have listed : copy ∈ fleet.entries := listed
  have spec := (minersSettled_reported runtime rentalHotkeys listed).2
  rw [gpuUuids, spec]
  exact readable copy listed ((minersSettled_isSuccessful listed).mp successful).1

/-! ## Fleets with the same copies -/

structure SameCopies (runtime : PyRuntime) (other fleet : Fleet) : Prop where
  scored : ∀ {endpoint copy},
    ScoredAt runtime other endpoint copy ↔ ScoredAt runtime fleet endpoint copy
  nodes : ∀ {endpoint copy}, ScoredAt runtime fleet endpoint copy →
    other.nodes copy.2 = fleet.nodes copy.2

namespace SameCopies

variable {other : Fleet} (same : SameCopies runtime other fleet)

include same

theorem mem_copiesAt_iff (endpoint : String) (copy : String × ℕ) :
    copy ∈ copiesAt runtime other endpoint ↔ copy ∈ copiesAt runtime fleet endpoint := by
  rw [mem_copiesAt, mem_copiesAt, same.scored]

theorem keeper_eq (endpoint : String) :
    keeper runtime rentalHotkeys other.nodes (copiesAt runtime other endpoint) =
      keeper runtime rentalHotkeys fleet.nodes (copiesAt runtime fleet endpoint) :=
  keeper_congr _ _ (same.mem_copiesAt_iff endpoint)
    fun _ member => same.nodes (mem_copiesAt.mp member)

theorem displaced_iff :
    Displaced runtime rentalHotkeys other endpoint copy ↔
      Displaced runtime rentalHotkeys fleet endpoint copy := by
  constructor
  · rintro ⟨scored, shared, lost⟩
    rw [same.keeper_eq] at lost
    simp only [same.scored] at scored shared
    exact ⟨scored, shared, lost⟩
  · rintro ⟨scored, shared, lost⟩
    rw [← same.keeper_eq] at lost
    simp only [← same.scored] at scored shared
    exact ⟨scored, shared, lost⟩

theorem mem_keptUuids_iff (endpoint key : String) :
    key ∈ keptUuids runtime rentalHotkeys other (endpoint, copiesAt runtime other endpoint) ↔
      key ∈ keptUuids runtime rentalHotkeys fleet
        (endpoint, copiesAt runtime fleet endpoint) := by
  simp only [keptUuids, same.keeper_eq, List.mem_map, List.mem_filter, same.mem_copiesAt_iff]
  apply exists_congr
  intro copy
  apply and_congr_right
  intro member
  rw [same.nodes (mem_copiesAt.mp member.1)]

theorem endpointsSettled_eq {id : ℕ} (agree : other.nodes id = fleet.nodes id) :
    endpointsSettled runtime rentalHotkeys other id =
      endpointsSettled runtime rentalHotkeys fleet id := by
  by_cases displaced : ∃ endpoint copy,
      Displaced runtime rentalHotkeys fleet endpoint copy ∧ copy.2 = id
  · rcases displaced with ⟨endpoint, copy, displaced, rfl⟩
    rw [endpointsSettled_of_displaced displaced, endpointsSettled_of_displaced
      (same.displaced_iff.mpr displaced)]
    simp only [displacedNode, same.keeper_eq, same.mem_keptUuids_iff, same.nodes displaced.scored]
  · have kept : ∀ endpoint copy,
        Displaced runtime rentalHotkeys fleet endpoint copy → copy.2 ≠ id := by
      intro endpoint copy listed sameId
      exact displaced ⟨endpoint, copy, listed, sameId⟩
    rw [endpointsSettled_of_kept kept, endpointsSettled_of_kept, agree]
    intro endpoint copy listed
    exact kept endpoint copy (same.displaced_iff.mp listed)

end SameCopies

section Reordered

variable {other : Fleet} (nodes : other.nodes = fleet.nodes)
  (entries : other.entries.Perm fleet.entries)

include nodes entries

theorem sameCopies_of_reordered : SameCopies runtime other fleet where
  scored := by
    intro endpoint copy
    constructor
    · rintro ⟨listed, successful, loggedIn, reached⟩
      rw [nodes] at successful loggedIn reached
      exact ⟨entries.mem_iff.mp listed, successful, loggedIn, reached⟩
    · rintro ⟨listed, successful, loggedIn, reached⟩
      rw [← nodes] at successful loggedIn reached
      exact ⟨entries.mem_iff.mpr listed, successful, loggedIn, reached⟩
  nodes := fun _ => by rw [nodes]

theorem gpusReadable_of_reordered (readable : GpusReadable runtime fleet) :
    GpusReadable runtime other := by
  intro copy listed successful
  rw [nodes] at successful ⊢
  exact readable copy (entries.mem_iff.mp listed) successful

end Reordered

end Pass

/-! ## Guarantees -/

section Rule

variable (runtime : PyRuntime) (rentalHotkeys : PyDict String String) (fleet : Fleet)
  (endpoint hotkey : String)

def Present : Prop := ∃ copy, ScoredAt runtime fleet endpoint copy ∧ copy.1 = hotkey

def HasRentedCopy : Prop :=
  ∃ copy, ScoredAt runtime fleet endpoint copy ∧ (fleet.nodes copy.2).isRented = true ∧
    copy.1 = hotkey

def RentalNames : Prop :=
  ∃ copy, ScoredAt runtime fleet endpoint copy ∧ (fleet.nodes copy.2).isRented = true ∧
    rentalHotkeys.get? (executorKey runtime (fleet.nodes copy.2)) = some hotkey

theorem mem_holders_copiesAt :
    hotkey ∈ holders runtime rentalHotkeys fleet.nodes (copiesAt runtime fleet endpoint) ↔
      RentalNames runtime rentalHotkeys fleet endpoint hotkey ∧
        Present runtime fleet endpoint hotkey := by
  simp only [mem_holders, List.mem_map, mem_copiesAt, RentalNames, Present]

theorem mem_renters_copiesAt :
    hotkey ∈ renters fleet.nodes (copiesAt runtime fleet endpoint) ↔
      HasRentedCopy runtime fleet endpoint hotkey := by
  simp only [mem_renters, mem_copiesAt, HasRentedCopy]

end Rule

theorem keeper_follows_rule {rentalHotkeys : PyDict String String}
    (keeps : keeper runtime rentalHotkeys fleet.nodes (copiesAt runtime fleet endpoint) =
      some kept) :
    ((∃ hotkey, RentalNames runtime rentalHotkeys fleet endpoint hotkey ∧
        Present runtime fleet endpoint hotkey) →
      RentalNames runtime rentalHotkeys fleet endpoint kept) ∧
    ((¬∃ hotkey, RentalNames runtime rentalHotkeys fleet endpoint hotkey ∧
        Present runtime fleet endpoint hotkey) →
      (∃ hotkey, HasRentedCopy runtime fleet endpoint hotkey) →
      HasRentedCopy runtime fleet endpoint kept) := by
  simp only [← mem_holders_copiesAt, ← mem_renters_copiesAt]
  rcases keeper_cases keeps with holder | ⟨noHolder, renter | ⟨noRenter, -⟩⟩
  · refine ⟨fun _ => ((mem_holders_copiesAt ..).mp holder).1, ?_⟩
    intro none
    exact absurd ⟨kept, holder⟩ none
  · refine ⟨?_, fun _ _ => renter⟩
    rintro ⟨hotkey, member⟩
    rw [noHolder] at member
    cases member
  · constructor
    · rintro ⟨hotkey, member⟩
      rw [noHolder] at member
      cases member
    · rintro - ⟨hotkey, member⟩
      rw [noRenter] at member
      cases member

/-- One machine earns under one hotkey, chosen by the rule; a second pass changes nothing, and
neither does the order of the lists. -/
theorem keepOneMinerPerExecutor_guarantees (runtime : PyRuntime)
    (rentalHotkeys : PyDict String String) {fleet : Fleet}
    (readable : GpusReadable runtime fleet) :
    ∃ settled, keepOneMinerPerExecutor runtime rentalHotkeys fleet = .ok settled ∧
      (∀ endpoint left right, ScoredAt runtime settled endpoint left →
        ScoredAt runtime settled endpoint right → left.1 = right.1) ∧
      (∀ endpoint copy, ScoredAt runtime fleet endpoint copy →
        ∃ kept, ScoredAt runtime settled endpoint kept) ∧
      (∀ copy ∈ fleet.entries, settled.nodes copy.2 ≠ fleet.nodes copy.2 →
        ∃ endpoint kept, ScoredAt runtime fleet endpoint copy ∧
          ScoredAt runtime fleet endpoint kept ∧ ScoredAt runtime settled endpoint kept ∧
          kept.1 ≠ copy.1) ∧
      (∀ endpoint kept, ScoredAt runtime settled endpoint kept →
        ((∃ hotkey, RentalNames runtime rentalHotkeys fleet endpoint hotkey ∧
            Present runtime fleet endpoint hotkey) →
          RentalNames runtime rentalHotkeys fleet endpoint kept.1) ∧
        ((¬∃ hotkey, RentalNames runtime rentalHotkeys fleet endpoint hotkey ∧
            Present runtime fleet endpoint hotkey) →
          (∃ hotkey, HasRentedCopy runtime fleet endpoint hotkey) →
          HasRentedCopy runtime fleet endpoint kept.1)) ∧
      keepOneMinerPerExecutor runtime rentalHotkeys settled = .ok settled ∧
      ∀ other : Fleet, other.nodes = fleet.nodes → other.entries.Perm fleet.entries →
        keepOneMinerPerExecutor runtime rentalHotkeys other =
          .ok (other.withNodes settled.nodes) := by
  have unique : ∀ endpoint left right,
      ScoredAt runtime (minersSettled runtime rentalHotkeys fleet) endpoint left →
      ScoredAt runtime (minersSettled runtime rentalHotkeys fleet) endpoint right →
      left.1 = right.1 := by
    intro endpoint left right leftScored rightScored
    have leftKeeps := scoredAt_minersSettled_keeper leftScored
    rw [scoredAt_minersSettled_keeper rightScored] at leftKeeps
    exact (Option.some.inj leftKeeps).symm
  refine ⟨minersSettled runtime rentalHotkeys fleet,
    keepOneMinerPerExecutor_eq_ok_iff.mpr ⟨readable, rfl⟩, unique,
    fun endpoint copy => exists_scoredAt_minersSettled rentalHotkeys, ?_, ?_, ?_, ?_⟩
  · intro copy listed changed
    rcases minersSettled_cases runtime rentalHotkeys listed with
      ⟨endpoint, displaced, -⟩ | ⟨-, unchanged⟩
    · rcases exists_scoredAt_minersSettled rentalHotkeys displaced.scored with
        ⟨kept, scored⟩
      refine ⟨endpoint, kept, displaced.scored, (scoredAt_minersSettled.mp scored).1, scored, ?_⟩
      intro same
      exact displaced.lost (same ▸ scoredAt_minersSettled_keeper scored)
    · exact absurd unchanged changed
  · intro endpoint kept scored
    exact keeper_follows_rule (scoredAt_minersSettled_keeper scored)
  · rw [keepOneMinerPerExecutor_eq_ok_iff, minersSettled_of_unique unique]
    exact ⟨gpusReadable_minersSettled readable, rfl⟩
  · intro other nodes entries
    rw [keepOneMinerPerExecutor_eq_ok_iff]
    have settledAlike : endpointsSettled runtime rentalHotkeys other =
        endpointsSettled runtime rentalHotkeys fleet := by
      funext id
      exact (sameCopies_of_reordered nodes entries).endpointsSettled_eq (congrFun nodes id)
    exact ⟨gpusReadable_of_reordered nodes entries readable,
      congrArg other.withNodes settledAlike.symm⟩

section Sample

def reachedAt (uuid address : String) : ValidatedNode :=
  { Sample.idle with executorInfo := { Sample.executor uuid with address, sshPort := 22 } }

def sharedMachine : Fleet where
  nodes := fun id =>
    match id with
    | 0 => reachedAt "a" "10.0.0.1"
    | _ => { reachedAt "b" "10.0.0.1" with isRented := true }
  jobResults := [("first", [0]), ("second", [1])]
  hotkeysNodup := by decide
  nodesNodup := by decide

theorem sharedMachine_readable : GpusReadable Sample.runtime sharedMachine := by
  intro copy listed _
  have listed : copy = ("first", 0) ∨ copy = ("second", 1) := by
    simpa [Fleet.entries, sharedMachine] using listed
  rcases listed with rfl | rfl
  · exact ⟨_, rfl⟩
  · exact ⟨_, rfl⟩

theorem sharedMachine_guarantees :
    ∃ settled, keepOneMinerPerExecutor Sample.runtime .empty sharedMachine = .ok settled ∧
      ∀ endpoint left right, ScoredAt Sample.runtime settled endpoint left →
        ScoredAt Sample.runtime settled endpoint right → left.1 = right.1 := by
  rcases keepOneMinerPerExecutor_guarantees Sample.runtime .empty sharedMachine_readable with
    ⟨settled, returned, unique, -⟩
  exact ⟨settled, returned, unique⟩

end Sample

end Lium.DuplicateExecutor
