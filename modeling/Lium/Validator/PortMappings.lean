import Lium.Foundation.Transfer
import Mathlib.Data.Finset.Order

/-! # The port mappings of a pod

A docker port of the pod mapping keeps its binding. Every other one is bound to an available
port, until none is left.
-/

namespace Lium.PortMappings

variable {before after : List ℤ}

def sshPort : ℤ := 22

def jupyterPort : ℤ := 8888

def minPodPortCount : ℕ := 1

def fillerExternalPortOffset : ℤ := 20

def preferredPodPorts : List ℤ :=
  [20000, 20001, 20002, 20003, 20004, 20005, 20006, 20007, 20008, 20009]

structure PayloadPortMapping where
  dockerPort : Option ℤ := none
  internalPort : ℤ
  externalPort : ℤ

/-- An entry of the result, and of docker's `-p`. -/
structure Binding where
  dockerPort : ℤ
  internalPort : ℤ
  externalPort : ℤ
  deriving DecidableEq

variable {bindings : List Binding}

abbrev Ports := PyDict ℤ PayloadPortMapping

/-- `internal_ports` that are `None` are an empty list. -/
structure Request where
  internalPorts : List ℤ := []
  initialPortCount : Option ℤ := none
  enableJupyter : Bool := false
  isFiller : Bool := false

/-- `random.choice`. The pool shrinks, so one run never asks about the same list twice. -/
structure Draw where
  pick : List ℤ → ℤ
  mem : ∀ keys, keys ≠ [] → pick keys ∈ keys

def PayloadPortMapping.podKey (mapping : PayloadPortMapping) : ℤ :=
  mapping.dockerPort.getD mapping.externalPort

def keyedBy (key : PayloadPortMapping → ℤ) (mappings : List PayloadPortMapping) : Ports :=
  .ofList (mappings.map fun mapping => (key mapping, mapping))

def convertPayloadPorts (availablePortsRaw podMappingRaw : List PayloadPortMapping) :
    Ports × Ports :=
  (keyedBy (·.externalPort) availablePortsRaw, keyedBy (·.podKey) podMappingRaw)

/-- A negative count slices from the end. The ports beyond the table start with its last one. -/
def getPreferredPorts : Option ℤ → List ℤ
  | none => preferredPodPorts
  | some count =>
    let size := preferredPodPorts.length
    if count ≤ size then
      preferredPodPorts.take (if count < 0 then size + count else count).toNat
    else
      preferredPodPorts ++ (List.range (count - size).toNat).map fun (index : ℕ) =>
        preferredPodPorts.max?.getD 0 + index

namespace Request

def userDefined (request : Request) : Bool := !request.internalPorts.isEmpty

def requestedPorts (request : Request) : List ℤ :=
  if request.userDefined then request.internalPorts
  else getPreferredPorts request.initialPortCount

def dockerInternalPorts (request : Request) : List ℤ :=
  let ports := (request.requestedPorts.erase sshPort).insertIdx 0 sshPort
  if request.enableJupyter then (ports.erase jupyterPort).insertIdx 1 jupyterPort else ports

def choosePort (request : Request) (draw : Draw) (port : ℤ) (pool : Ports) : ℤ × ℤ :=
  if request.isFiller && request.userDefined && port ≠ sshPort && port ≠ jupyterPort &&
      pool.contains (port + fillerExternalPortOffset) then
    (port, port + fillerExternalPortOffset)
  else if pool.contains port then (port, port)
  else if port = sshPort ∨ port = jupyterPort then (port, pool.keys.max?.getD 0)
  else if request.userDefined then (port, draw.pick pool.keys)
  else (pool.keys.min?.getD 0, pool.keys.min?.getD 0)

/-- What is chosen is in the pool, so that `pop` finds it. -/
def allocate (request : Request) (draw : Draw) (podMapping : Ports) :
    List ℤ → Ports → List Binding
  | [], _ => []
  | port :: rest, pool =>
    match podMapping.get? port with
    | some kept =>
      ⟨port, kept.internalPort, kept.externalPort⟩ :: request.allocate draw podMapping rest pool
    | none =>
      if pool.items.isEmpty then []
      else
        let chosen := request.choosePort draw port pool
        match pool.get? chosen.2 with
        | none => []
        | some taken =>
          ⟨chosen.1, taken.internalPort, chosen.2⟩ ::
            request.allocate draw podMapping rest (pool.erase chosen.2)

end Request

def stripReused (podMapping : Ports) (ports : List ℤ) (available : Ports) : Ports :=
  ports.foldl (fun pool port =>
    match podMapping.get? port with
    | some kept => pool.erase kept.externalPort
    | none => pool) available

/-- `locked` tells that the executor's lock was acquired and kept. -/
def generatePortMappings (request : Request) (draw : Draw) (locked : Bool)
    (portData : Option (List PayloadPortMapping × List PayloadPortMapping)) :
    List Binding × Option (ℤ × ℤ) :=
  if !locked then ([], none)
  else
    let (available, podMapping) : Ports × Ports :=
      match portData with
      | some (availablePortsRaw, podMappingRaw) =>
        convertPayloadPorts availablePortsRaw podMappingRaw
      | none => (.empty, .empty)
    let requiredPortCount := minPodPortCount + if request.enableJupyter then 1 else 0
    if podMapping.items.isEmpty && available.items.length < requiredPortCount then ([], none)
    else
      let ports := request.dockerInternalPorts
      let mappings := request.allocate draw podMapping ports
        (stripReused podMapping ports available)
      let jupyter := mappings.find? fun mapping => mapping.dockerPort = jupyterPort
      (mappings, if request.enableJupyter then
        jupyter.map fun mapping => (mapping.dockerPort, mapping.externalPort) else none)

/-! ## The pool -/

section Pool

variable {podMapping available : Ports} {ports : List ℤ} {key : ℤ}

theorem keys_stripReused :
    key ∈ (stripReused podMapping ports available).keys ↔ key ∈ available.keys ∧
      ∀ port ∈ ports, ∀ kept, podMapping.get? port = some kept → kept.externalPort ≠ key := by
  induction ports generalizing available with
  | nil => simp [stripReused]
  | cons port rest induction =>
    rw [stripReused, List.foldl_cons, ← stripReused, induction, List.forall_mem_cons]
    cases found : podMapping.get? port with
    | none => simp
    | some kept =>
      rw [PyDict.mem_keys_erase]
      grind

theorem stripReused_get? (strippedMember : key ∈ (stripReused podMapping ports available).keys) :
    (stripReused podMapping ports available).get? key = available.get? key := by
  induction ports generalizing available with
  | nil => rfl
  | cons port rest induction =>
    rw [stripReused, List.foldl_cons, ← stripReused] at strippedMember ⊢
    rw [induction strippedMember]
    cases found : podMapping.get? port with
    | none => rfl
    | some kept =>
      rw [found] at strippedMember
      have inPool := (keys_stripReused.mp strippedMember).1
      rw [PyDict.get?_erase, if_neg (PyDict.mem_keys_erase.mp inPool).1]

end Pool

/-! ## Runs of the loop -/

def Special (port : ℤ) : Prop := port = sshPort ∨ port = jupyterPort

inductive Chosen (request : Request) (port : ℤ) (pool : Ports) : ℤ → ℤ → Prop
  | requested (external : ℤ) (user : request.userDefined = true) :
    Chosen request port pool port external
  | same (member : port ∈ pool.keys) : Chosen request port pool port port
  | greatest (external : ℤ) (special : Special port) (absent : port ∉ pool.keys)
    (bound : ∀ key ∈ pool.keys, key ≤ external) : Chosen request port pool port external
  | renamed (external : ℤ) (preferred : request.userDefined ≠ true) (ordinary : ¬ Special port)
    (absent : port ∉ pool.keys) (bound : ∀ key ∈ pool.keys, external ≤ key) :
    Chosen request port pool external external

inductive Runs (request : Request) (podMapping : Ports) : List ℤ → Ports → List Binding → Prop
  | nil (pool : Ports) : Runs request podMapping [] pool []
  | kept {port rest pool bindings} (kept : PayloadPortMapping)
    (found : podMapping.get? port = some kept)
    (later : Runs request podMapping rest pool bindings) :
    Runs request podMapping (port :: rest) pool
      (⟨port, kept.internalPort, kept.externalPort⟩ :: bindings)
  | stop {port rest pool} (unmapped : podMapping.get? port = none) (empty : pool.items = []) :
    Runs request podMapping (port :: rest) pool []
  | taken {port rest pool docker external bindings} (taken : PayloadPortMapping)
    (unmapped : podMapping.get? port = none) (found : pool.get? external = some taken)
    (chosen : Chosen request port pool docker external)
    (later : Runs request podMapping rest (pool.erase external) bindings) :
    Runs request podMapping (port :: rest) pool (⟨docker, taken.internalPort, external⟩ :: bindings)

section Loop

variable {request : Request} {podMapping pool : Ports} {ports rest : List ℤ} {port key : ℤ}
  {binding : Binding}

theorem mem_keys_of_get? {taken : PayloadPortMapping} (found : pool.get? key = some taken) :
    key ∈ pool.keys :=
  (PyDict.mem_keys_iff _).mpr ⟨taken, found⟩

theorem choosePort_chosen (request : Request) (draw : Draw) (port : ℤ)
    (nonempty : pool.keys ≠ []) :
    (request.choosePort draw port pool).2 ∈ pool.keys ∧
      Chosen request port pool (request.choosePort draw port pool).1
        (request.choosePort draw port pool).2 := by
  unfold Request.choosePort
  split_ifs with filler same special user
  · simp only [Bool.and_eq_true, PyDict.contains_iff] at filler
    exact ⟨filler.2, .requested _ filler.1.1.1.2⟩
  · have member := (PyDict.contains_iff ..).mp same
    exact ⟨member, .same member⟩
  · have absent := fun member => same ((PyDict.contains_iff ..).mpr member)
    obtain ⟨greatest, found⟩ := Option.isSome_iff_exists.mp (List.isSome_max?_of_ne_nil nonempty)
    obtain ⟨member, bound⟩ := List.max?_eq_some_iff.mp found
    simp only [found, Option.getD_some]
    exact ⟨member, .greatest _ special absent bound⟩
  · exact ⟨draw.mem _ nonempty, .requested _ user⟩
  · have absent := fun member => same ((PyDict.contains_iff ..).mpr member)
    obtain ⟨least, found⟩ := Option.isSome_iff_exists.mp (List.isSome_min?_of_ne_nil nonempty)
    obtain ⟨member, bound⟩ := List.min?_eq_some_iff.mp found
    simp only [found, Option.getD_some]
    exact ⟨member, .renamed _ user special absent bound⟩

theorem allocate_runs (draw : Draw) :
    Runs request podMapping ports pool (request.allocate draw podMapping ports pool) := by
  induction ports generalizing pool with
  | nil => exact .nil pool
  | cons port rest induction =>
    rw [Request.allocate]
    cases found : podMapping.get? port with
    | some kept => exact .kept kept found induction
    | none =>
      by_cases empty : pool.items = []
      · simpa [empty] using .stop found empty
      · have nonempty : pool.keys ≠ [] := by simpa [PyDict.keys] using empty
        obtain ⟨member, chosen⟩ := choosePort_chosen request draw port nonempty
        obtain ⟨taken, inPool⟩ := (PyDict.mem_keys_iff _).mp member
        simpa [empty, inPool] using .taken taken found inPool chosen induction

inductive Origin (request : Request) (podMapping pool : Ports) (ports : List ℤ)
    (binding : Binding) : Prop
  | kept (kept : PayloadPortMapping) (listed : binding.dockerPort ∈ ports)
    (found : podMapping.get? binding.dockerPort = some kept)
    (same : binding = ⟨binding.dockerPort, kept.internalPort, kept.externalPort⟩)
  | taken (taken : PayloadPortMapping) (found : pool.get? binding.externalPort = some taken)
    (internal : binding.internalPort = taken.internalPort)
    (docker : request.userDefined = true ∨ binding.dockerPort = binding.externalPort ∨
      binding.dockerPort ∈ ports ∧ Special binding.dockerPort)

theorem Origin.cons {smaller : Ports}
    (origin : Origin request podMapping smaller rest binding)
    (included : ∀ key taken, smaller.get? key = some taken → pool.get? key = some taken) :
    Origin request podMapping pool (port :: rest) binding := by
  cases origin with
  | kept kept listed found same => exact .kept kept (List.mem_cons_of_mem _ listed) found same
  | taken taken found internal docker =>
    exact .taken taken (included _ _ found) internal
      (docker.imp_right (Or.imp_right (And.imp_left (List.mem_cons_of_mem _))))

theorem Runs.origin (runs : Runs request podMapping ports pool bindings)
    (member : binding ∈ bindings) : Origin request podMapping pool ports binding := by
  induction runs with
  | nil | stop => cases member
  | kept kept found _ induction =>
    rcases List.mem_cons.mp member with rfl | later
    · exact .kept kept List.mem_cons_self found rfl
    · exact (induction later).cons fun _ _ => id
  | taken taken _ found chosen _ induction =>
    rcases List.mem_cons.mp member with rfl | later
    · refine .taken taken found rfl ?_
      cases chosen with
      | requested _ user => exact .inl user
      | same | renamed => exact .inr (.inl rfl)
      | greatest _ special => exact .inr (.inr ⟨List.mem_cons_self, special⟩)
    · refine (induction later).cons fun key taken found => ?_
      rw [PyDict.get?_erase] at found
      split at found
      · cases found
      · exact found

def Stripped (podMapping pool : Ports) (ports : List ℤ) : Prop :=
  ∀ port ∈ ports, ∀ kept, podMapping.get? port = some kept → kept.externalPort ∉ pool.keys

theorem Stripped.erase (stripped : Stripped podMapping pool ports) (key : ℤ) :
    Stripped podMapping (pool.erase key) ports :=
  fun port listed kept found member =>
    stripped port listed kept found (PyDict.mem_keys_erase.mp member).2

section

variable (runs : Runs request podMapping ports pool bindings)
include runs

theorem Runs.nodup_externals
    (nodup : ports.Nodup)
    (distinct : ∀ port other kept same, podMapping.get? port = some kept →
      podMapping.get? other = some same → kept.externalPort = same.externalPort → port = other)
    (stripped : Stripped podMapping pool ports) :
    (bindings.map (·.externalPort)).Nodup := by
  induction runs with
  | nil | stop => exact List.nodup_nil
  | @kept port rest pool bindings kept found later induction =>
    rw [List.nodup_cons] at nodup
    rw [Stripped, List.forall_mem_cons] at stripped
    rw [List.map_cons, List.nodup_cons, List.mem_map]
    refine ⟨?_, induction nodup.2 stripped.2⟩
    rintro ⟨binding, member, same⟩
    cases later.origin member with
    | kept other listed otherFound otherSame =>
      rw [otherSame] at same
      have samePort := distinct _ _ _ _ otherFound found same
      exact nodup.1 (samePort ▸ listed)
    | taken taken inPool =>
      rw [same] at inPool
      exact stripped.1 kept found (mem_keys_of_get? inPool)
  | @taken port rest pool docker external bindings taken _ found _ later induction =>
    rw [Stripped, List.forall_mem_cons] at stripped
    rw [List.map_cons, List.nodup_cons, List.mem_map]
    refine ⟨?_, induction (List.nodup_cons.mp nodup).2 (Stripped.erase stripped.2 external)⟩
    rintro ⟨binding, member, same⟩
    cases later.origin member with
    | kept other listed otherFound otherSame =>
      rw [otherSame] at same
      change other.externalPort = external at same
      exact stripped.2 _ listed other otherFound (same ▸ mem_keys_of_get? found)
    | taken taken inPool =>
      rw [same, PyDict.get?_erase, if_pos rfl] at inPool
      cases inPool

theorem Runs.dockers_prefix
    (keep : ∀ port ∈ ports, podMapping.get? port = none →
      request.userDefined = true ∨ Special port) :
    bindings.map (·.dockerPort) <+: ports := by
  induction runs with
  | nil | stop => exact List.nil_prefix
  | @kept port _ _ _ _ _ _ induction =>
    rw [List.forall_mem_cons] at keep
    exact (List.prefix_cons_inj port).mpr (induction keep.2)
  | @taken port _ _ docker _ _ _ unmapped _ chosen _ induction =>
    rw [List.forall_mem_cons] at keep
    have same : docker = port := by
      cases chosen with
      | requested | same | greatest => rfl
      | renamed _ preferred ordinary =>
        exact absurd (keep.1 unmapped) (not_or.mpr ⟨preferred, ordinary⟩)
    rw [same]
    exact (List.prefix_cons_inj port).mpr (induction keep.2)

/-- No docker port is bound twice if none that is kept is also taken under its own number. -/
theorem Runs.nodup_dockers
    (preferred : request.userDefined ≠ true) (nodup : ports.Nodup)
    (ordered : ports.Pairwise fun earlier later => Special later → Special earlier)
    (apart : ∀ key ∈ ports, key ∈ pool.keys → ∀ kept, podMapping.get? key = some kept →
      ⟨key, kept.internalPort, kept.externalPort⟩ ∈ bindings →
        ∀ binding ∈ bindings, binding.dockerPort = key → binding.externalPort ≠ key) :
    (bindings.map (·.dockerPort)).Nodup := by
  induction runs with
  | nil | stop => exact List.nodup_nil
  | @kept port rest pool bindings kept found later induction =>
    rw [List.nodup_cons] at nodup
    rw [List.map_cons, List.nodup_cons, List.mem_map]
    refine ⟨?_, induction nodup.2 (List.pairwise_cons.mp ordered).2
      fun key inRest inPool other otherFound listed binding member =>
        apart key (List.mem_cons_of_mem _ inRest) inPool other otherFound
          (List.mem_cons_of_mem _ listed) binding (List.mem_cons_of_mem _ member)⟩
    rintro ⟨binding, member, same⟩
    change binding.dockerPort = port at same
    cases later.origin member with
    | kept _ listed => exact nodup.1 (same ▸ listed)
    | taken _ inPool _ docker =>
      rcases docker with user | number | special
      · exact preferred user
      · refine apart port List.mem_cons_self ?_ kept found List.mem_cons_self binding
          (List.mem_cons_of_mem _ member) same (number.symm.trans same)
        rw [← same, number]
        exact mem_keys_of_get? inPool
      · exact nodup.1 (same ▸ special.1)
  | @taken port rest pool docker external bindings taken _ found chosen later induction =>
    rw [List.nodup_cons] at nodup
    rw [List.pairwise_cons] at ordered
    rw [List.map_cons, List.nodup_cons, List.mem_map]
    refine ⟨?_, induction nodup.2 ordered.2
      fun key inRest inPool other otherFound listed binding member =>
        apart key (List.mem_cons_of_mem _ inRest) (PyDict.mem_keys_erase.mp inPool).2 other
          otherFound (List.mem_cons_of_mem _ listed) binding (List.mem_cons_of_mem _ member)⟩
    rintro ⟨binding, member, same⟩
    change binding.dockerPort = docker at same
    cases later.origin member with
    | kept kept listed keptFound own =>
      cases chosen with
      | requested _ user => exact preferred user
      | same | greatest => exact nodup.1 (same ▸ listed)
      | renamed =>
        rw [same] at listed keptFound own
        exact apart docker (List.mem_cons_of_mem _ listed) (mem_keys_of_get? found) kept keptFound
          (List.mem_cons_of_mem _ (own ▸ member)) _ List.mem_cons_self rfl rfl
    | taken _ inPool _ dockers =>
      have smaller := PyDict.mem_keys_erase.mp (mem_keys_of_get? inPool)
      rcases dockers with user | number | ⟨listed, special⟩
      · exact preferred user
      · rw [← number, same] at smaller
        cases chosen with
        | requested _ user => exact preferred user
        | same | renamed => exact smaller.1 rfl
        | greatest _ _ absent => exact absent smaller.2
      · rw [same] at listed special
        cases chosen with
        | requested _ user => exact preferred user
        | same | greatest => exact nodup.1 listed
        | renamed _ _ ordinary => exact ordinary (ordered.1 _ listed special)

end

theorem Runs.head_of_special {later : List Binding}
    (runs : Runs request podMapping (port :: rest) pool (binding :: later))
    (special : Special port) :
    binding.dockerPort = port ∧ ∃ smaller, Runs request podMapping rest smaller later := by
  cases runs with
  | kept _ _ later => exact ⟨rfl, _, later⟩
  | taken _ _ _ chosen later =>
    refine ⟨?_, _, later⟩
    cases chosen with
    | requested | same | greatest => rfl
    | renamed _ _ ordinary => exact absurd special ordinary

/-! ## How far the pool goes -/

def unmappedCount (podMapping : Ports) (ports : List ℤ) : ℕ :=
  ports.countP fun port => (podMapping.get? port).isNone

theorem Runs.kept_mem {kept : PayloadPortMapping}
    (runs : Runs request podMapping (before ++ port :: after) pool bindings)
    (found : podMapping.get? port = some kept)
    (enough : unmappedCount podMapping before ≤ pool.items.length) :
    ⟨port, kept.internalPort, kept.externalPort⟩ ∈ bindings := by
  induction before generalizing pool bindings with
  | nil =>
    cases runs with
    | kept other otherFound =>
      cases found.symm.trans otherFound
      exact List.mem_cons_self
    | stop unmapped => cases found.symm.trans unmapped
    | taken _ unmapped => cases found.symm.trans unmapped
  | cons head before induction =>
    rw [unmappedCount, List.countP_cons, ← unmappedCount] at enough
    cases runs with
    | kept _ headFound later =>
      rw [headFound] at enough
      exact List.mem_cons_of_mem _ (induction later enough)
    | stop unmapped empty => simp [unmapped, empty] at enough
    | taken _ unmapped headFound _ later =>
      have smaller := PyDict.length_items_erase (mem_keys_of_get? headFound)
      simp only [unmapped, Option.isNone_none, if_true] at enough
      exact List.mem_cons_of_mem _ (induction later (by omega))

theorem Runs.within (runs : Runs request podMapping (before ++ after) pool bindings)
    (short : pool.items.length < unmappedCount podMapping before) :
    Runs request podMapping before pool bindings := by
  induction before generalizing pool bindings with
  | nil => cases short
  | cons head before induction =>
    rw [unmappedCount, List.countP_cons, ← unmappedCount] at short
    cases runs with
    | kept kept found later =>
      rw [found] at short
      exact .kept kept found (induction later short)
    | stop unmapped empty => exact .stop unmapped empty
    | taken taken unmapped found chosen later =>
      have smaller := PyDict.length_items_erase (mem_keys_of_get? found)
      simp only [unmapped, Option.isNone_none, if_true] at short
      exact .taken taken unmapped found chosen (induction later (by omega))

/-- The pool has the key, and fewer ones below it than there are ports without a mapping that
either are no key of the pool or lie below it as well. -/
def Renames (podMapping pool : Ports) (ports : List ℤ) (key : ℤ) : Prop :=
  key ∈ pool.keys ∧ pool.keys.countP (· < key) < ports.countP fun port =>
    (podMapping.get? port).isNone && (decide (port ∉ pool.keys) || decide (port < key))

/-- A port above the key is bound to itself, if the pool has it. Every other one uses up a key below
it, and when there are none left the rule takes the key. -/
theorem Runs.renamed_iff (runs : Runs request podMapping ports pool bindings)
    (preferred : request.userDefined ≠ true) (ordinary : ∀ port ∈ ports, ¬ Special port)
    (nodup : ports.Nodup) (stripped : Stripped podMapping pool ports)
    (mapped : (podMapping.get? key).isSome = true) (member : key ∈ pool.keys) :
    (∃ binding ∈ bindings, binding.dockerPort = key ∧ binding.externalPort = key) ↔
      Renames podMapping pool ports key := by
  rw [Renames, and_iff_right member]
  induction runs with
  | nil => simp
  | stop _ empty => simp [PyDict.keys, empty] at member
  | @kept port rest pool bindings kept found later induction =>
    rw [Stripped, List.forall_mem_cons] at stripped
    rw [List.forall_mem_cons] at ordinary
    have other : kept.externalPort ≠ key := fun same => stripped.1 kept found (same ▸ member)
    rw [List.exists_mem_cons_iff, or_iff_right fun head => other head.2,
      induction ordinary.2 (List.nodup_cons.mp nodup).2 stripped.2 member]
    simp [found]
  | @taken port rest pool docker external bindings taken unmapped found chosen later induction =>
    rw [Stripped, List.forall_mem_cons] at stripped
    rw [List.forall_mem_cons] at ordinary
    rw [List.nodup_cons] at nodup
    have inPool := mem_keys_of_get? found
    have unlike : port ≠ key := by
      rintro rfl
      rw [unmapped] at mapped
      cases mapped
    have below := PyDict.countP_keys_erase inPool (· < key)
    rw [List.countP_cons, unmapped, List.exists_mem_cons_iff]
    by_cases taken : external = key
    · have least : pool.keys.countP (· < key) = 0 := by
        cases chosen with
        | requested _ user => exact absurd user preferred
        | same => exact absurd taken unlike
        | greatest _ special => exact absurd special ordinary.1
        | renamed _ _ _ _ bound => simpa [← taken] using bound
      cases chosen with
      | requested _ user => exact absurd user preferred
      | same => exact absurd taken unlike
      | greatest _ special => exact absurd special ordinary.1
      | renamed _ _ _ absent => simp [taken, least, absent]
    · rw [or_iff_right fun head => taken head.2, induction ordinary.2 nodup.2
        (Stripped.erase stripped.2 external)
        (PyDict.mem_keys_erase.mpr ⟨Ne.symm taken, member⟩)]
      have fallback : (external < key ∨ external ∉ rest) →
          (rest.countP fun port => (podMapping.get? port).isNone &&
            (decide (port ∉ (pool.erase external).keys) || decide (port < key))) =
          rest.countP fun port => (podMapping.get? port).isNone &&
            (decide (port ∉ pool.keys) || decide (port < key)) := by
        intro apart
        refine List.countP_congr fun other listed => ?_
        simp only [PyDict.mem_keys_erase, Bool.and_eq_true, Bool.or_eq_true, decide_eq_true_eq]
        grind
      cases chosen with
      | requested _ user => exact absurd user preferred
      | greatest _ special => exact absurd special ordinary.1
      | same inPool =>
        rw [fallback (.inr nodup.1)]
        by_cases low : port < key <;> simp [low, inPool] at below ⊢ <;> omega
      | renamed _ _ _ absent bound =>
        have low : docker < key := lt_of_le_of_ne (bound key member) taken
        rw [fallback (.inl low)]
        simp [low, absent] at below ⊢
        omega

/-- The pool that a port which is never renamed leaves. -/
def keepSpecial (podMapping pool : Ports) (port : ℤ) : Ports :=
  if (podMapping.get? port).isSome then pool
  else pool.erase (if pool.contains port then port else pool.keys.max?.getD 0)

theorem keys_keepSpecial (specials : List ℤ) :
    (specials.foldl (keepSpecial podMapping) pool).keys ⊆ pool.keys := by
  induction specials generalizing pool with
  | nil => exact List.Subset.refl _
  | cons port rest induction =>
    refine List.Subset.trans induction fun key member => ?_
    rw [keepSpecial] at member
    split at member
    · exact member
    · exact (PyDict.mem_keys_erase.mp member).2

theorem Runs.renamed_iff_of_special {specials : List ℤ} {kept : PayloadPortMapping}
    (runs : Runs request podMapping (specials ++ ports) pool bindings)
    (preferred : request.userDefined ≠ true) (special : ∀ port ∈ specials, Special port)
    (ordinary : ∀ port ∈ ports, ¬ Special port) (nodup : ports.Nodup)
    (stripped : Stripped podMapping pool (specials ++ ports))
    (mapped : podMapping.get? key = some kept) (foreign : kept.externalPort ≠ key) :
    (∃ binding ∈ bindings, binding.dockerPort = key ∧ binding.externalPort = key) ↔
      Renames podMapping (specials.foldl (keepSpecial podMapping) pool) ports key := by
  induction specials generalizing pool bindings with
  | nil =>
    by_cases member : key ∈ pool.keys
    · exact runs.renamed_iff preferred ordinary nodup stripped (by simp [mapped]) member
    · refine iff_of_false ?_ fun renames => member renames.1
      rintro ⟨binding, listed, docker, external⟩
      cases runs.origin listed with
      | kept other _ found same =>
        rw [docker, mapped] at found
        cases found
        rw [same] at external
        exact foreign external
      | taken _ found => exact member (external ▸ mem_keys_of_get? found)
  | cons port rest induction =>
    rw [List.forall_mem_cons] at special
    rw [List.cons_append, Stripped, List.forall_mem_cons] at stripped
    rw [List.foldl_cons]
    cases runs with
    | kept other found later =>
      have same : keepSpecial podMapping pool port = pool := by simp [keepSpecial, found]
      rw [same, List.exists_mem_cons_iff, or_iff_right, induction later special.2 stripped.2]
      rintro ⟨rfl, external⟩
      cases found.symm.trans mapped
      exact foreign external
    | stop unmapped empty =>
      refine iff_of_false (by simp) fun renames => ?_
      have member := keys_keepSpecial (port :: rest) renames.1
      simp [PyDict.keys, empty] at member
    | @taken _ _ _ docker external _ _ unmapped found chosen later =>
      have unlike : port ≠ key := by
        rintro rfl
        cases unmapped.symm.trans mapped
      have step : docker = port ∧ keepSpecial podMapping pool port = pool.erase external := by
        rw [keepSpecial, unmapped]
        cases chosen with
        | requested _ user => exact absurd user preferred
        | same member => simp [PyDict.contains_iff, member]
        | renamed _ _ ordinary => exact absurd special.1 ordinary
        | greatest _ _ absent bound =>
          have greatest : pool.keys.max? = some external :=
            List.max?_eq_some_iff.mpr ⟨mem_keys_of_get? found, bound⟩
          simp [PyDict.contains_iff, absent, greatest]
      rw [step.2, List.exists_mem_cons_iff, or_iff_right,
        induction later special.2 (Stripped.erase stripped.2 external)]
      · exact fun head => unlike (step.1.symm.trans head.1)

theorem Runs.length_eq_iff (runs : Runs request podMapping ports pool bindings) :
    bindings.length = ports.length ↔ unmappedCount podMapping ports ≤ pool.items.length := by
  induction runs with
  | nil => simp [unmappedCount]
  | kept _ found _ induction => simpa [unmappedCount, found] using induction
  | stop unmapped empty => simp [unmappedCount, unmapped, empty]
  | taken _ unmapped found _ _ induction =>
    have smaller := PyDict.length_items_erase (mem_keys_of_get? found)
    rw [unmappedCount, List.countP_cons, ← unmappedCount, unmapped, List.length_cons,
      List.length_cons, Nat.add_right_cancel_iff, induction, ← smaller]
    exact Nat.add_le_add_iff_right.symm

end Loop

/-! ## A recreated pod -/

section Generated

variable {request : Request} {draw : Draw} {locked : Bool}
  {available podMapping : List PayloadPortMapping}

def poolOf (request : Request) (available podMapping : List PayloadPortMapping) : Ports :=
  let ports := convertPayloadPorts available podMapping
  stripReused ports.2 request.dockerInternalPorts ports.1

theorem get?_podMapping (keys : (podMapping.map (·.podKey)).Nodup) {port : ℤ}
    {kept : PayloadPortMapping} :
    (keyedBy (·.podKey) podMapping).get? port = some kept ↔
      kept ∈ podMapping ∧ kept.podKey = port :=
  PyDict.get?_ofList_keyed keys

theorem stripped_poolOf : Stripped (keyedBy (·.podKey) podMapping)
    (poolOf request available podMapping) request.dockerInternalPorts :=
  fun port listed kept found member => (keys_stripReused.mp member).2 port listed kept found rfl

theorem generated_runs
    (filled : (generatePortMappings request draw locked (some (available, podMapping))).1 ≠ []) :
    Runs request (keyedBy (·.podKey) podMapping) request.dockerInternalPorts
      (poolOf request available podMapping)
      (generatePortMappings request draw locked (some (available, podMapping))).1 := by
  simp only [generatePortMappings] at filled ⊢
  split_ifs at filled ⊢ <;> first | exact allocate_runs draw | exact absurd rfl filled

theorem allocated_runs (request : Request) (draw : Draw) (available : List PayloadPortMapping)
    {port : ℤ} {kept : PayloadPortMapping}
    (found : (keyedBy (·.podKey) podMapping).get? port = some kept) :
    Runs request (keyedBy (·.podKey) podMapping) request.dockerInternalPorts
      (poolOf request available podMapping)
      (generatePortMappings request draw true (some (available, podMapping))).1 := by
  have nonempty : (keyedBy (·.podKey) podMapping).items ≠ [] :=
    List.ne_nil_of_mem ((PyDict.mem_items_iff _).mpr found)
  simp only [generatePortMappings, convertPayloadPorts, List.isEmpty_eq_false_iff.mpr nonempty,
    Bool.not_true, Bool.false_and, Bool.false_eq_true, if_false]
  exact allocate_runs draw

/-- A non-empty result has every mapping of a listed port exactly if the ports that come before
it and have no mapping are no more than the pool holds. -/
theorem kept_ports_appear_iff (request : Request) (draw : Draw) (locked : Bool)
    (available podMapping : List PayloadPortMapping)
    (keys : (podMapping.map (·.podKey)).Nodup) :
    let mappings := (generatePortMappings request draw locked (some (available, podMapping))).1
    (mappings ≠ [] → ∀ kept ∈ podMapping, kept.podKey ∈ request.dockerInternalPorts →
      ⟨kept.podKey, kept.internalPort, kept.externalPort⟩ ∈ mappings) ↔
    (mappings ≠ [] → ∀ kept ∈ podMapping, ∀ before after,
      request.dockerInternalPorts = before ++ kept.podKey :: after → kept.podKey ∉ before →
        unmappedCount (keyedBy (·.podKey) podMapping) before ≤
          (poolOf request available podMapping).items.length) := by
  intro mappings
  refine forall_congr' fun filled => ?_
  have runs := generated_runs filled
  constructor
  · intro appear kept member before after split fresh
    by_contra short
    have listed : kept.podKey ∈ request.dockerInternalPorts := by simp [split]
    have cutShort := runs
    rw [split] at cutShort
    cases (cutShort.within (not_le.mp short)).origin (appear kept member listed) with
    | kept _ early => exact fresh early
    | taken _ inPool =>
      exact stripped_poolOf _ listed kept ((get?_podMapping keys).mpr ⟨member, rfl⟩)
        (mem_keys_of_get? inPool)
  · intro enough kept member listed
    obtain ⟨before, after, split, fresh⟩ := List.eq_append_cons_of_mem listed
    rw [split] at runs
    exact runs.kept_mem ((get?_podMapping keys).mpr ⟨member, rfl⟩)
      (enough kept member before after split fresh)

end Generated

def firstKey : Draw where
  pick keys := keys.headD 0
  mem keys nonempty := by
    cases keys with
    | nil => exact absurd rfl nonempty
    | cons key rest => exact List.mem_cons_self

def editedRequest : Request := { internalPorts := [22, 3000, 4000] }

def recordedPorts : List PayloadPortMapping := [⟨some 22, 122, 40022⟩, ⟨some 4000, 140, 44000⟩]

theorem edited_pod_loses_port :
    (generatePortMappings editedRequest firstKey true (some ([], recordedPorts))).1 =
      [⟨22, 122, 40022⟩] ∧
    ⟨some 4000, 140, 44000⟩ ∈ recordedPorts ∧ 4000 ∈ editedRequest.dockerInternalPorts := by
  refine ⟨by decide, ?_, by decide⟩
  simp [recordedPorts]

theorem edited_pod_within_pool :
    unmappedCount (keyedBy (·.podKey) recordedPorts) [22, 3000] ≤
      (poolOf editedRequest [⟨none, 150, 45000⟩] recordedPorts).items.length :=
  (kept_ports_appear_iff editedRequest firstKey true [⟨none, 150, 45000⟩] recordedPorts
    (by decide)).mp (by decide) (by decide) ⟨some 4000, 140, 44000⟩ (by simp [recordedPorts])
    [22, 3000] [] (by decide) (by decide)

/-! ## Docker bindings -/

section Bindings

variable {request : Request} {table : ℤ → ℤ} {available podMapping : List PayloadPortMapping}

theorem dockerInternalPorts_eq (request : Request) :
    request.dockerInternalPorts = sshPort :: if request.enableJupyter
      then jupyterPort :: (request.requestedPorts.erase sshPort).erase jupyterPort
      else request.requestedPorts.erase sshPort := by
  rw [Request.dockerInternalPorts, List.insertIdx_zero]
  split_ifs
  · rw [List.erase_cons_tail (by decide)]
    rfl
  · rfl

/-- Under the lock, the docker ports of a list that the user requests are all bound, in its order,
exactly if the pool has a port for each without a mapping. -/
theorem all_ports_bound_iff (draw : Draw) (user : request.userDefined = true) :
    (generatePortMappings request draw true (some (available, podMapping))).1.map (·.dockerPort) =
        request.dockerInternalPorts ↔
      unmappedCount (keyedBy (·.podKey) podMapping) request.dockerInternalPorts ≤
        (poolOf request available podMapping).items.length := by
  have required : (minPodPortCount + if request.enableJupyter then 1 else 0) ≤
      request.dockerInternalPorts.length := by
    rw [dockerInternalPorts_eq]
    split <;> simp [minPodPortCount]
  simp only [generatePortMappings, Bool.not_true, Bool.false_eq_true, if_false, apply_ite Prod.fst]
  generalize (minPodPortCount + if request.enableJupyter then 1 else 0) = count at required ⊢
  split
  next few =>
    -- no port has a mapping, so all need one from the pool
    rw [Bool.and_eq_true, List.isEmpty_iff, decide_eq_true_eq] at few
    have none : keyedBy (·.podKey) podMapping = .empty := PyDict.ext_items few.1
    have pool : poolOf request available podMapping =
        (convertPayloadPorts available podMapping).1 := by
      simp [poolOf, convertPayloadPorts, none, stripReused]
    have unmapped : unmappedCount .empty request.dockerInternalPorts =
        request.dockerInternalPorts.length := by simp [unmappedCount]
    have some : request.dockerInternalPorts ≠ [] := by
      rw [dockerInternalPorts_eq]
      simp
    rw [none, pool, unmapped]
    refine iff_of_false (Ne.symm some) (by omega)
  next =>
    have runs : Runs request (keyedBy (·.podKey) podMapping) request.dockerInternalPorts
        (poolOf request available podMapping) _ := allocate_runs draw
    have listed := runs.dockers_prefix fun _ _ _ => .inl user
    rw [← runs.length_eq_iff, ← List.length_map (·.dockerPort)]
    exact ⟨congrArg List.length, listed.eq_of_length⟩

/-- Ports 22 and 3000 without a mapping, and two available ports. -/
theorem requested_ports_bound :
    let request : Request := { internalPorts := [3000, 22] }
    (generatePortMappings request firstKey true
      (some ([⟨none, 150, 45000⟩, ⟨none, 160, 46000⟩], []))).1.map (·.dockerPort) = [22, 3000] :=
  (all_ports_bound_iff firstKey rfl).mpr (by decide)

theorem nodup_dockerInternalPorts (nodup : request.requestedPorts.Nodup) :
    request.dockerInternalPorts.Nodup := by
  have withoutSsh : sshPort ∉ request.requestedPorts.erase sshPort := nodup.not_mem_erase
  rw [dockerInternalPorts_eq]
  split_ifs
  · rw [List.nodup_cons, List.mem_cons, List.nodup_cons]
    exact ⟨not_or.mpr ⟨by decide, fun member => withoutSsh (List.mem_of_mem_erase member)⟩,
      (nodup.erase _).not_mem_erase, (nodup.erase _).erase _⟩
  · exact List.nodup_cons.mpr ⟨withoutSsh, nodup.erase _⟩

theorem le_of_mem_getPreferredPorts {count : Option ℤ} {port : ℤ}
    (member : port ∈ getPreferredPorts count) : 20000 ≤ port := by
  have table : ∀ port ∈ preferredPodPorts, 20000 ≤ port := by decide
  cases count with
  | none => exact table port member
  | some count =>
    simp only [getPreferredPorts] at member
    split at member
    · exact table port (List.mem_of_mem_take member)
    · rcases List.mem_append.mp member with listed | extra
      · exact table port listed
      · obtain ⟨index, -, rfl⟩ := List.mem_map.mp extra
        have greatest : preferredPodPorts.max?.getD 0 = 20009 := by decide
        omega

theorem ordinary_requestedPorts (preferred : request.userDefined ≠ true) :
    ∀ port ∈ request.requestedPorts, ¬ Special port := by
  intro port member special
  rw [Request.requestedPorts, if_neg preferred] at member
  have high := le_of_mem_getPreferredPorts member
  rcases special with rfl | rfl <;> exact absurd high (by decide)

def Request.specialPorts (request : Request) : List ℤ :=
  if request.enableJupyter then [sshPort, jupyterPort] else [sshPort]

theorem dockerInternalPorts_of_preferred (preferred : request.userDefined ≠ true) :
    request.dockerInternalPorts = request.specialPorts ++ request.requestedPorts := by
  have ordinary := ordinary_requestedPorts preferred
  rw [dockerInternalPorts_eq, Request.specialPorts,
    List.erase_of_not_mem fun member => ordinary _ member (.inl rfl),
    List.erase_of_not_mem fun member => ordinary _ member (.inr rfl)]
  split <;> rfl

theorem ordered_dockerInternalPorts (preferred : request.userDefined ≠ true) :
    request.dockerInternalPorts.Pairwise fun earlier later => Special later → Special earlier := by
  have ordinary := ordinary_requestedPorts preferred
  have tail : ∀ ports : List ℤ, ports ⊆ request.requestedPorts →
      ports.Pairwise fun earlier later => Special later → Special earlier := fun ports listed =>
    List.pairwise_of_forall_mem_list fun _ _ later member special =>
      absurd special (ordinary later (listed member))
  rw [dockerInternalPorts_eq]
  refine List.pairwise_cons.mpr ⟨fun _ _ _ => .inl rfl, ?_⟩
  split_ifs
  · exact List.pairwise_cons.mpr ⟨fun _ _ _ => .inr rfl,
      tail _ fun _ member => List.mem_of_mem_erase (List.mem_of_mem_erase member)⟩
  · exact tail _ (List.erase_subset ..)

structure ValidBinding (request : Request) (data : List PayloadPortMapping)
    (mappings : List Binding) : Prop where
  dockerPorts : (mappings.map (·.dockerPort)).Nodup
  internalPorts : (mappings.map (·.internalPort)).Nodup
  externalPorts : (mappings.map (·.externalPort)).Nodup
  given : ∀ binding ∈ mappings, ∃ mapping ∈ data,
    mapping.internalPort = binding.internalPort ∧ mapping.externalPort = binding.externalPort
  sshFirst : ∀ binding later, mappings = binding :: later → binding.dockerPort = sshPort
  jupyterSecond : request.enableJupyter = true → ∀ first binding later,
    mappings = first :: binding :: later → binding.dockerPort = jupyterPort

/-- The pool that the preferred ports find. -/
def preferredPool (request : Request) (available podMapping : List PayloadPortMapping) : Ports :=
  request.specialPorts.foldl (keepSpecial (keyedBy (·.podKey) podMapping))
    (poolOf request available podMapping)

/-- The list is the user's, or no docker port that it keeps, as far as the pool goes, is one that
the preferred ports before or after it take for want of their own. -/
def NumbersApart (request : Request) (available podMapping : List PayloadPortMapping) : Prop :=
  request.userDefined = true ∨ ∀ kept ∈ podMapping, ∀ before after,
    request.dockerInternalPorts = before ++ kept.podKey :: after →
    unmappedCount (keyedBy (·.podKey) podMapping) before ≤
      (poolOf request available podMapping).items.length →
    ¬ Renames (keyedBy (·.podKey) podMapping) (preferredPool request available podMapping)
      (getPreferredPorts request.initialPortCount) kept.podKey

/-- The pairs come from one table of ports; none is given twice. -/
structure FromTable (table : ℤ → ℤ) (key : PayloadPortMapping → ℤ)
    (data : List PayloadPortMapping) : Prop where
  keys : (data.map key).Nodup
  externals : (data.map (·.externalPort)).Nodup
  internal : ∀ mapping ∈ data, mapping.internalPort = table mapping.externalPort

theorem Runs.validBinding
    (runs : Runs request (keyedBy (·.podKey) podMapping) request.dockerInternalPorts
      (poolOf request available podMapping) bindings) (injective : Function.Injective table)
    (nodup : request.requestedPorts.Nodup)
    (fromAvailable : FromTable table (·.externalPort) available)
    (fromPods : FromTable table (·.podKey) podMapping)
    (apart : request.userDefined ≠ true → (bindings.map (·.dockerPort)).Nodup) :
    ValidBinding request (available ++ podMapping) bindings := by
  have mapped := @get?_podMapping podMapping fromPods.keys
  have externals := runs.nodup_externals (nodup_dockerInternalPorts nodup)
    (by
      intro port other kept same found otherFound equal
      rw [mapped] at found otherFound
      have sameMapping :=
        List.inj_on_of_nodup_map fromPods.externals found.1 otherFound.1 equal
      rw [← found.2, ← otherFound.2, sameMapping])
    stripped_poolOf
  have given : ∀ binding ∈ bindings, ∃ mapping ∈ available ++ podMapping,
      mapping.internalPort = binding.internalPort ∧
        mapping.externalPort = binding.externalPort := by
    intro binding member
    cases runs.origin member with
    | kept kept _ found same =>
      rw [same]
      exact ⟨kept, List.mem_append_right _ (mapped.mp found).1, rfl, rfl⟩
    | taken taken found internal =>
      rw [poolOf, stripReused_get? (mem_keys_of_get? found)] at found
      have member := (PyDict.get?_ofList_keyed fromAvailable.keys).mp found
      exact ⟨taken, List.mem_append_left _ member.1, internal.symm, member.2⟩
  have tabled : ∀ binding ∈ bindings, binding.internalPort = table binding.externalPort := by
    intro binding member
    obtain ⟨mapping, inData, internal, external⟩ := given binding member
    rw [← internal, ← external]
    exact (List.mem_append.mp inData).elim (fromAvailable.internal mapping)
      (fromPods.internal mapping)
  refine ⟨?_, ?_, externals, given, ?_, ?_⟩
  · by_cases user : request.userDefined = true
    · exact (runs.dockers_prefix fun _ _ _ => .inl user).sublist.nodup
        (nodup_dockerInternalPorts nodup)
    · exact apart user
  · rw [List.nodup_map_iff_inj_on (externals.of_map _)]
    intro first firstMember second secondMember same
    rw [tabled first firstMember, tabled second secondMember] at same
    exact List.inj_on_of_nodup_map externals firstMember secondMember (injective same)
  · rintro binding later rfl
    rw [dockerInternalPorts_eq] at runs
    exact (runs.head_of_special (.inl rfl)).1
  · rintro jupyter first binding later rfl
    rw [dockerInternalPorts_eq, if_pos jupyter] at runs
    obtain ⟨-, smaller, rest⟩ := runs.head_of_special (.inl rfl)
    exact (rest.head_of_special (.inr rfl)).1

theorem Runs.renames_iff
    (runs : Runs request (keyedBy (·.podKey) podMapping) request.dockerInternalPorts
      (poolOf request available podMapping) bindings) (nodup : request.requestedPorts.Nodup)
    (preferred : request.userDefined ≠ true) {key : ℤ} {kept : PayloadPortMapping}
    (mapped : (keyedBy (·.podKey) podMapping).get? key = some kept)
    (foreign : kept.externalPort ≠ key) :
    (∃ binding ∈ bindings, binding.dockerPort = key ∧ binding.externalPort = key) ↔
      Renames (keyedBy (·.podKey) podMapping) (preferredPool request available podMapping)
        (getPreferredPorts request.initialPortCount) key := by
  have stripped : Stripped (keyedBy (·.podKey) podMapping) (poolOf request available podMapping)
    request.dockerInternalPorts := stripped_poolOf
  have list : request.requestedPorts = getPreferredPorts request.initialPortCount :=
    if_neg preferred
  rw [dockerInternalPorts_of_preferred preferred] at runs stripped
  rw [← list]
  refine runs.renamed_iff_of_special preferred ?_ (ordinary_requestedPorts preferred) nodup stripped
    mapped foreign
  rw [Request.specialPorts]
  split <;> simp [Special]

theorem NumbersApart.nodup (apart : NumbersApart request available podMapping)
    (runs : Runs request (keyedBy (·.podKey) podMapping) request.dockerInternalPorts
      (poolOf request available podMapping) bindings) (nodup : request.requestedPorts.Nodup)
    (keys : (podMapping.map (·.podKey)).Nodup) (preferred : request.userDefined ≠ true) :
    (bindings.map (·.dockerPort)).Nodup := by
  have distinct := nodup_dockerInternalPorts nodup
  refine runs.nodup_dockers preferred distinct (ordered_dockerInternalPorts preferred) ?_
  intro key listed inPool kept found keptBinding binding member docker external
  have outside : kept.externalPort ∉ (poolOf request available podMapping).keys :=
    stripped_poolOf key listed kept found
  have foreign : kept.externalPort ≠ key := fun same => outside (same ▸ inPool)
  rcases (get?_podMapping keys).mp found with ⟨inMapping, rfl⟩
  rcases List.append_of_mem listed with ⟨before, after, split⟩
  refine apart.resolve_left preferred kept inMapping before after split ?_
    ((runs.renames_iff nodup preferred found foreign).mp ⟨binding, member, docker, external⟩)
  -- a loop that stops earlier does not keep the port
  by_contra short
  rw [split] at runs distinct
  cases (runs.within (not_le.mp short)).origin keptBinding with
  | kept _ early => exact (List.nodup_append.mp distinct).2.2 _ early _ List.mem_cons_self rfl
  | taken _ inPool => exact outside (mem_keys_of_get? inPool)

theorem numbersApart_of_validBinding (draw : Draw) (nodup : request.requestedPorts.Nodup)
    (keys : (podMapping.map (·.podKey)).Nodup)
    (valid : ValidBinding request (available ++ podMapping)
      (generatePortMappings request draw true (some (available, podMapping))).1) :
    NumbersApart request available podMapping := by
  refine or_iff_not_imp_left.mpr fun preferred kept member before after split enough renames => ?_
  have found := (get?_podMapping keys).mpr ⟨member, rfl⟩
  have runs := allocated_runs request draw available found
  have foreign : kept.externalPort ≠ kept.podKey := fun same =>
    stripped_poolOf _ (by simp [split]) kept found (same ▸ keys_keepSpecial _ renames.1)
  rcases (runs.renames_iff nodup preferred found foreign).mpr renames with
    ⟨binding, bindingMember, docker, external⟩
  rw [split] at runs
  have same := List.inj_on_of_nodup_map valid.dockerPorts (runs.kept_mem found enough)
    bindingMember docker.symm
  rw [← same] at external
  exact foreign external

/-- Docker can bind the result exactly if the lock was lost, the list is the user's, or no docker
port that it keeps is one that the rename rule takes. -/
theorem valid_binding_iff (table : ℤ → ℤ) (injective : Function.Injective table)
    (request : Request) (nodup : request.requestedPorts.Nodup) (draw : Draw) (locked : Bool)
    (available podMapping : List PayloadPortMapping)
    (fromAvailable : FromTable table (·.externalPort) available)
    (fromPods : FromTable table (·.podKey) podMapping) :
    ValidBinding request (available ++ podMapping)
        (generatePortMappings request draw locked (some (available, podMapping))).1 ↔
      (locked = true → NumbersApart request available podMapping) := by
  constructor
  · rintro valid rfl
    exact numbersApart_of_validBinding draw nodup fromPods.keys valid
  · intro apart
    by_cases filled :
        (generatePortMappings request draw locked (some (available, podMapping))).1 = []
    · rw [filled]
      exact ⟨List.nodup_nil, List.nodup_nil, List.nodup_nil, by simp, by simp, by simp⟩
    · have held : locked = true := by
        by_contra lost
        exact filled (by simp [generatePortMappings, lost])
      have runs := generated_runs filled
      exact runs.validBinding injective nodup fromAvailable fromPods
        ((apart held).nodup runs nodup fromPods.keys)

end Bindings

def samePort (external : ℤ) (dockerPort : Option ℤ := none) : PayloadPortMapping :=
  ⟨dockerPort, external, external⟩

theorem renamed_port_bound_twice :
    FromTable id (·.externalPort) [samePort 20001, samePort 50000] ∧
    FromTable id (·.podKey) [samePort 40000 (some 20001)] ∧
    (generatePortMappings { initialPortCount := some 2 } firstKey true
      (some ([samePort 20001, samePort 50000], [samePort 40000 (some 20001)]))).1 =
        [⟨22, 50000, 50000⟩, ⟨20001, 20001, 20001⟩, ⟨20001, 40000, 40000⟩] := by
  exact ⟨⟨by decide, by decide, by decide⟩, ⟨by decide, by decide, by decide⟩, by decide⟩

/-- The recorded port 20001 stays apart as long as the pool has no 20001: with 20000 available
nothing is renamed. -/
theorem edited_pod_valid_binding :
    let request : Request := { initialPortCount := some 2 }
    let available := [samePort 20000, samePort 50000]
    let podMapping := [samePort 40000 (some 20001)]
    ValidBinding request (available ++ podMapping)
      (generatePortMappings request firstKey true (some (available, podMapping))).1 := by
  intro request available podMapping
  refine (valid_binding_iff id Function.injective_id request (by decide) firstKey true available
    podMapping ⟨by decide, by decide, by decide⟩ ⟨by decide, by decide, by decide⟩).mpr fun _ =>
      .inr fun kept member before after _ _ renames => ?_
  rw [List.mem_singleton.mp member] at renames
  exact absurd renames.1 (by decide)

end Lium.PortMappings
