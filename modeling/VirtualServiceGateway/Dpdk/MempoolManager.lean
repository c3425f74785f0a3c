import Mathlib.Data.List.Infix
import Mathlib.Data.UInt
import VirtualServiceGateway.Foundation.CheckedOperation

/-!
# The mempool manager

The manager keeps one pool pointer for every NUMA node in a vector that grows on demand. The new
size is computed in 32 bits, so the node id 0xFFFFFFFF, which stands for any socket, makes it zero
and the entry that is written next does not exist. For all other nodes the manager is a map from
nodes to the pools created for them last.
-/

namespace VirtualServiceGateway.Dpdk

open CheckedOperation

/-- What `rte_pktmbuf_pool_create` is asked for. The node id becomes a signed socket id. -/
structure PoolRequest where
  name : String
  numBufs : UInt32
  cacheSize : UInt32
  socketId : Int32

/-- The vector of pools; `none` is the null pointer. -/
structure MempoolManager (Pool : Type*) where
  mempools : List (Option Pool)
  cacheSize : UInt32
  size_lt : mempools.length < 2 ^ 32

/-- A call of `init_mempool`, with what the creation of a pool answers to any request. -/
structure InitCall (Pool : Type*) where
  numaNode : UInt32
  numBufs : UInt32
  cacheSize : UInt32
  create : PoolRequest → Option Pool

variable {Pool : Type*}

namespace MempoolManager

def fresh : MempoolManager Pool where
  mempools := []
  cacheSize := 0
  size_lt := Nat.two_pow_pos 32

/-- The vector with the given size, new entries null. -/
def resize (mempools : List (Option Pool)) (size : ℕ) : List (Option Pool) :=
  mempools.take size ++ List.replicate (size - mempools.length) none

theorem length_resize (mempools : List (Option Pool)) (size : ℕ) :
    (resize mempools size).length = size := by
  unfold resize
  rw [List.length_append, List.length_take, List.length_replicate]
  omega

/-- The vector before the entry of the node is written, grown if it is too short. -/
def grown (mempools : List (Option Pool)) (numaNode : UInt32) : List (Option Pool) :=
  if mempools.length ≤ numaNode.toNat then resize mempools (numaNode + 1).toNat else mempools

theorem length_grown_lt {mempools : List (Option Pool)} (hsize : mempools.length < 2 ^ 32)
    (numaNode : UInt32) : (grown mempools numaNode).length < 2 ^ 32 := by
  unfold grown
  split
  case isTrue =>
    rw [length_resize]
    exact (numaNode + 1).toNat_lt
  case isFalse => exact hsize

def poolRequest (numaNode numBufs cacheSize : UInt32) : PoolRequest where
  name := "mbuf_pool_" ++ toString numaNode.toNat
  numBufs := numBufs
  cacheSize := cacheSize
  socketId := numaNode.toInt32

/-- Create a pool for the node and store it; the write is defined inside the vector only. -/
def initMempool (manager : MempoolManager Pool) (numaNode numBufs cacheSize : UInt32)
    (create : PoolRequest → Option Pool) : Except Fault (Bool × MempoolManager Pool) :=
  match create (poolRequest numaNode numBufs cacheSize) with
  | none => pure (false, { manager with cacheSize := cacheSize })
  | some pool =>
      let mempools := grown manager.mempools numaNode
      if numaNode.toNat < mempools.length then
        pure (true,
          { mempools := mempools.set numaNode.toNat (some pool)
            cacheSize := cacheSize
            size_lt := by
              rw [List.length_set]
              exact length_grown_lt manager.size_lt numaNode })
      else .error .outOfBounds

def getMempool (manager : MempoolManager Pool) (numaNode : UInt32) : Option Pool :=
  if h : numaNode.toNat < manager.mempools.length then manager.mempools[numaNode.toNat] else none

/-- The manager after a call. -/
def step (manager : MempoolManager Pool) (call : InitCall Pool) :
    Except Fault (MempoolManager Pool) :=
  (manager.initMempool call.numaNode call.numBufs call.cacheSize call.create).map Prod.snd

/-- The manager after the calls, oldest first, as long as all their accesses are defined. -/
def after (calls : List (InitCall Pool)) : Except Fault (MempoolManager Pool) :=
  calls.foldlM step fresh

end MempoolManager

/-- The pool that a call creates, if it does. -/
def InitCall.created (call : InitCall Pool) : Option Pool :=
  call.create (MempoolManager.poolRequest call.numaNode call.numBufs call.cacheSize)

/-- The pool created for the node last. -/
def lastCreated (numaNode : UInt32) (calls : List (InitCall Pool)) : Option Pool :=
  (calls.filterMap fun call ↦ if call.numaNode = numaNode then call.created else none).getLast?

/-- All accesses through the calls are defined, and the manager then serves every node with the
pool created for it last. -/
def ServesNodes (calls : List (InitCall Pool)) : Prop :=
  ∃ manager, MempoolManager.after calls = .ok manager ∧
    ∀ numaNode, manager.getMempool numaNode = lastCreated numaNode calls

namespace MempoolManager

/-! ## One call -/

theorem getMempool_eq (manager : MempoolManager Pool) (numaNode : UInt32) :
    manager.getMempool numaNode = manager.mempools[numaNode.toNat]?.join := by
  unfold getMempool
  split
  case isTrue h => rw [List.getElem?_eq_getElem h, Option.join_some]
  case isFalse h => rw [List.getElem?_eq_none (Nat.not_lt.mp h), Option.join_none]

/-- Growing the vector changes no entry. -/
theorem join_getElem?_grown (mempools : List (Option Pool)) {numaNode : UInt32}
    (hnode : numaNode ≠ 0xFFFFFFFF) (index : ℕ) :
    (grown mempools numaNode)[index]?.join = mempools[index]?.join ∧
      numaNode.toNat < (grown mempools numaNode).length := by
  have hnext : (numaNode + 1).toNat = numaNode.toNat + 1 := by
    have hne : numaNode.toNat ≠ 0xFFFFFFFF := fun h ↦ hnode (UInt32.toNat.inj h)
    have hlt := numaNode.toNat_lt
    rw [UInt32.toNat_add]
    exact Nat.mod_eq_of_lt (by simp; omega)
  unfold grown
  by_cases hshort : mempools.length ≤ numaNode.toNat
  · rw [if_pos hshort, length_resize, hnext]
    refine ⟨?_, Nat.lt_succ_self _⟩
    unfold resize
    rw [List.take_of_length_le (by omega)]
    by_cases hindex : index < mempools.length
    · rw [List.getElem?_append_left hindex]
    · rw [List.getElem?_append_right (Nat.not_lt.mp hindex),
        List.getElem?_eq_none (l := mempools) (Nat.not_lt.mp hindex), List.getElem?_replicate]
      split <;> rfl
  · rw [if_neg hshort]
    exact ⟨rfl, Nat.not_le.mp hshort⟩

/-- A call for a node other than 0xFFFFFFFF is defined, and sets the pool of that node if it
creates one. -/
theorem step_eq_ok (manager : MempoolManager Pool) {call : InitCall Pool}
    (hnode : call.numaNode = 0xFFFFFFFF → call.created = none) :
    ∃ next, manager.step call = .ok next ∧ ∀ numaNode, next.getMempool numaNode =
      if call.numaNode = numaNode then call.created.or (manager.getMempool numaNode)
      else manager.getMempool numaNode := by
  unfold step initMempool
  cases hcreated : call.created with
  | none =>
    unfold InitCall.created at hcreated
    rw [hcreated]
    exact ⟨_, rfl, fun numaNode ↦ by simp [getMempool]⟩
  | some pool =>
    have hne : call.numaNode ≠ 0xFFFFFFFF := by
      intro h
      rw [hnode h] at hcreated
      cases hcreated
    have hroom := (join_getElem?_grown manager.mempools hne 0).2
    unfold InitCall.created at hcreated
    rw [hcreated]
    simp only [if_pos hroom]
    refine ⟨_, rfl, fun numaNode ↦ ?_⟩
    rw [getMempool_eq, getMempool_eq]
    by_cases hsame : call.numaNode = numaNode
    · subst hsame
      rw [if_pos rfl, List.getElem?_set_self hroom]
      rfl
    · have hindex : call.numaNode.toNat ≠ numaNode.toNat := fun h ↦ hsame (UInt32.toNat.inj h)
      rw [if_neg hsame, List.getElem?_set_ne hindex, (join_getElem?_grown manager.mempools hne _).1]

/-- A pool created for the node 0xFFFFFFFF is written outside the vector. -/
theorem step_eq_error (manager : MempoolManager Pool) {call : InitCall Pool}
    (hnode : call.numaNode = 0xFFFFFFFF) (hcreated : call.created ≠ none) :
    manager.step call = .error .outOfBounds := by
  obtain ⟨pool, hpool⟩ := Option.ne_none_iff_exists'.mp hcreated
  have hempty : (grown manager.mempools 0xFFFFFFFF).length = 0 := by
    have hsize : manager.mempools.length ≤ (0xFFFFFFFF : UInt32).toNat :=
      Nat.le_of_lt_succ manager.size_lt
    unfold grown
    rw [if_pos hsize, length_resize]
    rfl
  unfold InitCall.created at hpool
  unfold step initMempool
  rw [hpool, hnode]
  simp only [hempty, Nat.not_lt_zero, if_false]
  rfl

/-! ## Every run -/

theorem after_concat (calls : List (InitCall Pool)) (call : InitCall Pool) :
    after (calls ++ [call]) = (after calls).bind (step · call) := by
  unfold after
  rw [List.foldlM_append]
  simp only [List.foldlM_cons, List.foldlM_nil, bind_pure]
  rfl

theorem lastCreated_concat (numaNode : UInt32) (calls : List (InitCall Pool))
    (call : InitCall Pool) :
    lastCreated numaNode (calls ++ [call]) =
      if call.numaNode = numaNode then call.created.or (lastCreated numaNode calls)
      else lastCreated numaNode calls := by
  unfold lastCreated
  rw [List.filterMap_append, List.getLast?_append]
  by_cases hsame : call.numaNode = numaNode
  · rw [if_pos hsame, List.filterMap_cons, if_pos hsame]
    cases call.created <;> rfl
  · rw [if_neg hsame, List.filterMap_cons, if_neg hsame]
    rfl

/-- A defined call creates no pool for the node 0xFFFFFFFF. -/
theorem created_of_step_eq_ok {manager next : MempoolManager Pool} {call : InitCall Pool}
    (hnext : manager.step call = .ok next) (hnode : call.numaNode = 0xFFFFFFFF) :
    call.created = none := by
  by_contra hcreated
  rw [step_eq_error manager hnode hcreated] at hnext
  cases hnext

/-- A defined run created no pool for the node 0xFFFFFFFF, and serves every node with its last
pool. -/
theorem serves_of_after_eq_ok {calls : List (InitCall Pool)} {manager : MempoolManager Pool}
    (hmanager : after calls = .ok manager) :
    (∀ call ∈ calls, call.numaNode = 0xFFFFFFFF → call.created = none) ∧
      ∀ numaNode, manager.getMempool numaNode = lastCreated numaNode calls := by
  induction calls using List.reverseRecOn generalizing manager with
  | nil =>
    obtain rfl := Except.ok.inj hmanager
    exact ⟨by simp, fun _ ↦ rfl⟩
  | append_singleton calls call ih =>
    rw [after_concat] at hmanager
    cases hbefore : after calls with
    | error fault =>
      rw [hbefore] at hmanager
      cases hmanager
    | ok before =>
      rw [hbefore] at hmanager
      have hstep : before.step call = .ok manager := hmanager
      have hcall := created_of_step_eq_ok hstep
      obtain ⟨hearlier, hserves⟩ := ih hbefore
      obtain ⟨next, hnext, hpools⟩ := step_eq_ok before hcall
      obtain rfl := Except.ok.inj (hstep.symm.trans hnext)
      constructor
      · rw [List.forall_mem_append, List.forall_mem_singleton]
        exact ⟨hearlier, hcall⟩
      · intro numaNode
        rw [hpools, lastCreated_concat, hserves]

/-- A run that creates no pool for the node 0xFFFFFFFF is defined. -/
theorem exists_after_eq_ok {calls : List (InitCall Pool)}
    (hcalls : ∀ call ∈ calls, call.numaNode = 0xFFFFFFFF → call.created = none) :
    ∃ manager, after calls = .ok manager := by
  induction calls using List.reverseRecOn with
  | nil => exact ⟨fresh, rfl⟩
  | append_singleton calls call ih =>
    rw [List.forall_mem_append, List.forall_mem_singleton] at hcalls
    obtain ⟨manager, hmanager⟩ := ih hcalls.1
    obtain ⟨next, hnext, -⟩ := step_eq_ok manager hcalls.2
    exact ⟨next, by rw [after_concat, hmanager]; exact hnext⟩

/-- **Exact map condition.** Through a run of calls the manager stays defined and serves every node
with its last pool if and only if no pool is created for the node 0xFFFFFFFF. A defined call
changes the pool of no other node. -/
theorem servesNodes_iff (calls : List (InitCall Pool)) :
    (ServesNodes calls ↔ ∀ call ∈ calls, call.numaNode = 0xFFFFFFFF → call.created = none) ∧
    ∀ (manager next : MempoolManager Pool) (call : InitCall Pool), manager.step call = .ok next →
      ∀ numaNode, call.numaNode ≠ numaNode →
        next.getMempool numaNode = manager.getMempool numaNode := by
  refine ⟨⟨?_, ?_⟩, ?_⟩
  · rintro ⟨manager, hmanager, -⟩
    exact (serves_of_after_eq_ok hmanager).1
  · intro hcalls
    obtain ⟨manager, hmanager⟩ := exists_after_eq_ok hcalls
    exact ⟨manager, hmanager, (serves_of_after_eq_ok hmanager).2⟩
  · intro manager next call hnext numaNode hother
    obtain ⟨found, hfound, hpools⟩ := step_eq_ok manager (created_of_step_eq_ok hnext)
    obtain rfl := Except.ok.inj (hnext.symm.trans hfound)
    rw [hpools, if_neg hother]

/-- A pool for any socket: the vector is cut down to nothing, and the write misses it. -/
theorem any_socket_out_of_bounds :
    let call : InitCall ℕ := ⟨0xFFFFFFFF, 65536, 256, fun _ ↦ some 1⟩
    fresh.step call = .error .outOfBounds ∧ ¬ServesNodes [call] := by
  intro call
  have hstep : fresh.step call = .error .outOfBounds :=
    step_eq_error fresh rfl (Option.some_ne_none 1)
  refine ⟨hstep, ?_⟩
  rintro ⟨manager, hmanager, -⟩
  have herror : after [call] = .error .outOfBounds := by
    rw [← List.nil_append [call], after_concat]
    exact hstep
  rw [herror] at hmanager
  cases hmanager

/-! ## Pools have names -/

/-- The name of the pool of a node. -/
def poolName (numaNode : UInt32) : String := (poolRequest numaNode 0 0).name

/-- No two nodes have pools of one name. -/
theorem poolName_injective : Function.Injective poolName := by
  intro first second h
  have hrepr : first.toNat.repr = second.toNat.repr := (String.append_right_inj _).mp h
  have hdigits : Nat.toDigits 10 first.toNat = Nat.toDigits 10 second.toNat :=
    String.ofList_injective hrepr
  have hvalue (value : ℕ) : Nat.ofDigitChars 10 (Nat.toDigits 10 value) 0 = value :=
    Nat.ofDigitChars_toDigits (by omega) le_rfl
  apply UInt32.toNat.inj
  rw [← hvalue first.toNat, hdigits, hvalue]

/-- The arguments of a call, and the pool for which there is memory, if there is. -/
structure Grant (Pool : Type*) where
  numaNode : UInt32
  numBufs : UInt32
  cacheSize : UInt32
  pool : Option Pool

/-- A pool is created when there is memory and no pool of its name. -/
def Grant.call (grant : Grant Pool) (names : List String) : InitCall Pool where
  numaNode := grant.numaNode
  numBufs := grant.numBufs
  cacheSize := grant.cacheSize
  create := fun request ↦ if request.name ∈ names then none else grant.pool

/-- The calls, with the names that are in use before them. Pools are never freed. -/
def registered (names : List String) : List (Grant Pool) → List (InitCall Pool)
  | [] => []
  | grant :: grants =>
      grant.call names ::
        registered (if (grant.call names).created.isSome then poolName grant.numaNode :: names
          else names) grants

/-- The pool granted for the node first. -/
def firstGranted (numaNode : UInt32) (grants : List (Grant Pool)) : Option Pool :=
  grants.findSome? fun grant ↦ if grant.numaNode = numaNode then grant.pool else none

theorem created_call (grant : Grant Pool) (names : List String) :
    (grant.call names).created =
      if poolName grant.numaNode ∈ names then none else grant.pool := rfl

theorem firstGranted_cons (numaNode : UInt32) (grant : Grant Pool) (grants : List (Grant Pool)) :
    firstGranted numaNode (grant :: grants) =
      (if grant.numaNode = numaNode then grant.pool else none).or
        (firstGranted numaNode grants) := by
  rw [firstGranted, List.findSome?_cons]
  cases (if grant.numaNode = numaNode then grant.pool else none) <;> rfl

/-- What is created for a node is granted first, as long as its name is free. -/
theorem filterMap_registered (numaNode : UInt32) (grants : List (Grant Pool))
    (names : List String) :
    ((registered names grants).filterMap fun call ↦
        if call.numaNode = numaNode then call.created else none) =
      if poolName numaNode ∈ names then [] else (firstGranted numaNode grants).toList := by
  induction grants generalizing names with
  | nil =>
    split <;> rfl
  | cons grant grants ih =>
    have hnode : (grant.call names).numaNode = grant.numaNode := rfl
    rw [registered, List.filterMap_cons, hnode, ih, created_call, firstGranted_cons]
    by_cases hsame : grant.numaNode = numaNode
    · rw [if_pos hsame, if_pos hsame, hsame]
      by_cases hused : poolName numaNode ∈ names
      · simp [hused]
      · cases hpool : grant.pool with
        | none => simp [hused]
        | some pool => simp [hused]
    · -- a pool of another node takes another name
      have hother : poolName grant.numaNode ≠ poolName numaNode :=
        fun h ↦ hsame (poolName_injective h)
      have hnames (created : Bool) :
          poolName numaNode ∈ (if created then poolName grant.numaNode :: names else names) ↔
            poolName numaNode ∈ names := by
        cases created with
        | false => rfl
        | true => exact List.mem_cons.trans (or_iff_right hother.symm)
      simp only [if_neg hsame, hnames, Option.none_or]

/-- **Each node keeps its first pool.** With pool names in use only once, a run of calls for real
nodes is defined, and the manager then serves every node with the pool that could be created for it
first: no later call replaces it, and no call for another node stands in its way. -/
theorem serves_firstGranted (grants : List (Grant Pool))
    (hnodes : ∀ grant ∈ grants, grant.numaNode ≠ 0xFFFFFFFF) :
    ∃ manager, after (registered [] grants) = .ok manager ∧
      ∀ numaNode, manager.getMempool numaNode = firstGranted numaNode grants := by
  have hreal (names : List String) :
      ∀ call ∈ registered names grants, call.numaNode ≠ 0xFFFFFFFF := by
    induction grants generalizing names with
    | nil => exact fun call hcall ↦ absurd hcall List.not_mem_nil
    | cons grant grants ih =>
      rw [List.forall_mem_cons] at hnodes
      exact List.forall_mem_cons.mpr ⟨hnodes.1, ih hnodes.2 _⟩
  obtain ⟨manager, hmanager⟩ := exists_after_eq_ok fun call hcall hany ↦
    absurd hany (hreal [] call hcall)
  refine ⟨manager, hmanager, fun numaNode ↦ ?_⟩
  rw [(serves_of_after_eq_ok hmanager).2, lastCreated, filterMap_registered,
    if_neg List.not_mem_nil]
  cases firstGranted numaNode grants <;> rfl

/-- A node asks twice, another one in between. -/
theorem twoNodes_keep :
    ∃ manager, after (registered [] [⟨0, 65536, 256, some 1⟩, ⟨1, 65536, 256, none⟩,
        ⟨0, 1024, 32, some 2⟩, ⟨1, 1024, 32, some 3⟩]) = .ok manager ∧
      ∀ numaNode, manager.getMempool numaNode = firstGranted numaNode
        [⟨0, 65536, 256, some 1⟩, ⟨1, 65536, 256, none⟩, ⟨0, 1024, 32, some 2⟩,
          ⟨1, 1024, 32, some 3⟩] :=
  serves_firstGranted _ (by decide)

end MempoolManager

end VirtualServiceGateway.Dpdk
