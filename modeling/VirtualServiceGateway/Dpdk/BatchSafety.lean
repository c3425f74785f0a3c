import VirtualServiceGateway.Dpdk.BatchProcessor

/-!
# When a batch is processed safely

Every entry below the count is prefetched once, either at the start or four rounds ahead, and
prefetching does not spare null entries. So a batch is processed to its end exactly when no entry
below the count is null and every packet has user data. The loops end in any case, and read no
entry from the count on.
-/

namespace VirtualServiceGateway.Dpdk

open GuardedSequence Execution

variable {Mbuf Storage : Type*}

/-- The access reads no entry from the bound on. -/
def BatchAccess.EntryBelow (bound : ℕ) : BatchAccess Mbuf Storage → Prop
  | .entry index => index < bound
  | _ => True

/-- The packet whose metadata the access constructs. -/
def BatchAccess.processed : BatchAccess Mbuf Storage → Option Mbuf
  | .construct pkt _ _ => some pkt
  | _ => none

/-- The trace reads entries below the count only and no mbuf through a null pointer, and it
processes the packets of the array in order, each as often as it stands there. -/
structure SafeTrace (pkts : ℕ → Option Mbuf) (count : UInt16)
    (trace : List (BatchAccess Mbuf Storage)) : Prop where
  inside : ∀ event ∈ trace, event.EntryBelow count.toNat
  nonNull : .mbuf none ∉ trace
  inOrder : trace.filterMap BatchAccess.processed = (List.range count.toNat).filterMap pkts

/-! ## The loops end -/

/-- The values of a 16-bit counter below a bound. -/
def counters (bound : ℕ) : List UInt16 := (List.range' 0 bound).map UInt16.ofNat

theorem map_toNat_counters {bound : ℕ} (hbound : bound < 2 ^ 16) :
    (counters bound).map UInt16.toNat = List.range bound := by
  unfold counters
  rw [← List.range_eq_range']
  exact map_toNat_map_ofNat_range hbound

theorem toNat_of_mem_counters {bound : ℕ} (hbound : bound < 2 ^ 16) {counter : UInt16}
    (hcounter : counter ∈ counters bound) : counter.toNat < bound := by
  unfold counters at hcounter
  rw [← List.range_eq_range'] at hcounter
  exact (mem_map_ofNat_range hbound).mp hcounter

theorem counted_counters {continues : UInt16 → Bool} {bound : ℕ} (hbound : bound < 2 ^ 16)
    (hcontinues : ∀ counter, continues counter ↔ counter.toNat < bound)
    (attempt : UInt16 → Attempt (BatchAccess Mbuf Storage))
    (trace : List (BatchAccess Mbuf Storage)) :
    counted continues (· + 1) attempt (2 ^ 16) 0 trace =
      some (forAll attempt (counters bound) trace) := by
  apply counted_eq_forAll
  · exact visits_below hbound hcontinues (Nat.zero_add bound)
  · rwa [counters, List.length_map, List.length_range']

section Batch

variable (mbufs : Mbuf → RteMbuf Storage) (rdtsc : ℕ → UInt64) (pkts : ℕ → Option Mbuf)
  (count : UInt16)

/-- The two loops as loops over their indices. -/
def batchLoops : Attempt (BatchAccess Mbuf Storage) :=
  andThen (forAll (fun i ↦ prefetchEntry pkts i.toNat) (counters (min count.toNat 4)))
    (forAll (fun i ↦ processEntry mbufs rdtsc pkts count i.toNat) (counters count.toNat))

/-- Both loops end: the batch is the two loops over their indices. -/
theorem processBatch_eq (trace : List (BatchAccess Mbuf Storage)) :
    processBatch mbufs rdtsc pkts count trace =
      some (batchLoops mbufs rdtsc pkts count trace) := by
  have hcount := count.toNat_lt
  have hprefetch : prefetchBatch pkts count trace =
      some (forAll (fun i ↦ prefetchEntry pkts i.toNat) (counters (min count.toNat 4)) trace) := by
    apply counted_counters (by omega)
    intro counter
    rw [Bool.and_eq_true, decide_eq_true_iff, decide_eq_true_iff, UInt16.lt_iff_toNat_lt,
      UInt16.lt_iff_toNat_lt, lt_min_iff]
    rfl
  have hprocess (next : List (BatchAccess Mbuf Storage)) :
      counted (fun i ↦ decide (i < count)) (· + 1)
          (fun i ↦ processEntry mbufs rdtsc pkts count i.toNat) (2 ^ 16) 0 next =
        some (forAll (fun i ↦ processEntry mbufs rdtsc pkts count i.toNat)
          (counters count.toNat) next) := by
    apply counted_counters hcount
    intro counter
    rw [decide_eq_true_iff, UInt16.lt_iff_toNat_lt]
  unfold processBatch batchLoops andThen
  rw [hprefetch]
  cases forAll (fun i ↦ prefetchEntry pkts i.toNat) (counters (min count.toNat 4)) trace with
  | mk defined next =>
    simp only [Option.bind_eq_bind, Option.bind_some]
    cases defined with
    | false => exact if_neg Bool.false_ne_true
    | true => exact (if_pos rfl).trans (hprocess next)

/-! ## Entries are read below the count -/

theorem appends_access {property : BatchAccess Mbuf Storage → Prop}
    {event : BatchAccess Mbuf Storage} (h : property event) : Appends property (access event) :=
  fun _ ↦ ⟨[event], rfl, List.forall_mem_singleton.mpr h⟩

theorem appends_prefetchEntry {index : ℕ} (hindex : index < count.toNat) :
    Appends (BatchAccess.EntryBelow count.toNat)
      (prefetchEntry pkts index : Attempt (BatchAccess Mbuf Storage)) :=
  appends_andThen (appends_access hindex) (appends_access trivial)

theorem appends_processEntry {index : ℕ} (hindex : index < count.toNat) :
    Appends (BatchAccess.EntryBelow count.toNat)
      (processEntry mbufs rdtsc pkts count index) := by
  refine appends_andThen (appends_access hindex) (appends_andThen ?_ ?_)
  · cases pkts index with
    | none => exact appends_const true
    | some pkt => exact appends_andThen (appends_access trivial) (appends_access trivial)
  · by_cases hahead : index + 4 < count.toNat
    · rw [if_pos hahead]
      exact appends_prefetchEntry pkts count hahead
    · rw [if_neg hahead]
      exact appends_const true

/-- Whatever the entries are, none is read from the count on. -/
theorem appends_batchLoops :
    Appends (BatchAccess.EntryBelow count.toNat) (batchLoops mbufs rdtsc pkts count) := by
  have hcount := count.toNat_lt
  apply appends_andThen
  · apply appends_forAll_mem
    intro counter hcounter
    have hbelow := toNat_of_mem_counters (by omega) hcounter
    exact appends_prefetchEntry pkts count (lt_min_iff.mp hbelow).1
  · apply appends_forAll_mem
    intro counter hcounter
    exact appends_processEntry mbufs rdtsc pkts count (toNat_of_mem_counters hcount hcounter)

/-! ## A batch as a script -/

def prefetchScript (index : ℕ) : List (BatchAccess Mbuf Storage) :=
  [.entry index, .mbuf (pkts index)]

def singleScript (timestamp : UInt64) : Option Mbuf → List (BatchAccess Mbuf Storage)
  | none => []
  | some pkt =>
      [.mbuf (some pkt), .construct pkt (mbufs pkt).userdata ((mbufs pkt).metadata timestamp)]

def entryScript (index : ℕ) : List (BatchAccess Mbuf Storage) :=
  .entry index :: (singleScript mbufs (rdtsc index) (pkts index) ++
    if index + 4 < count.toNat then prefetchScript pkts (index + 4) else [])

/-- All accesses of a batch that is processed to its end. -/
def batchScript : List (BatchAccess Mbuf Storage) :=
  (List.range (min count.toNat 4)).flatMap (prefetchScript pkts) ++
    (List.range count.toNat).flatMap (entryScript mbufs rdtsc pkts count)

/-- An access is accepted when it is defined, whatever went before. -/
abbrev AcceptsDefined (_ : List (BatchAccess Mbuf Storage)) (event : BatchAccess Mbuf Storage) :
    Prop := event.defined

theorem performs_access (event : BatchAccess Mbuf Storage) :
    Performs AcceptsDefined True [event] (access event) where
  succeeds_iff := fun _ ↦ ⟨fun h ↦ ⟨trivial, h, trivial⟩, fun h ↦ h.2.1⟩
  appends := fun _ _ ↦ rfl

theorem performs_prefetchEntry (index : ℕ) :
    Performs AcceptsDefined True (prefetchScript pkts index)
      (prefetchEntry pkts index : Attempt (BatchAccess Mbuf Storage)) := by
  have hboth := performs_andThen (performs_access (.entry index : BatchAccess Mbuf Storage))
    (performs_access (.mbuf (pkts index)))
  rwa [and_self] at hboth

theorem performs_processSingle (timestamp : UInt64) (pkt : Option Mbuf) :
    Performs AcceptsDefined True (singleScript mbufs timestamp pkt)
      (processSingle mbufs timestamp pkt) := by
  cases pkt with
  | none => exact performs_done
  | some pkt =>
    have hboth := performs_andThen (performs_access (.mbuf (some pkt) : BatchAccess Mbuf Storage))
      (performs_access
        (.construct pkt (mbufs pkt).userdata ((mbufs pkt).metadata timestamp)))
    rwa [and_self] at hboth

theorem performs_processEntry (index : ℕ) :
    Performs AcceptsDefined True (entryScript mbufs rdtsc pkts count index)
      (processEntry mbufs rdtsc pkts count index) := by
  have hahead : Performs AcceptsDefined True
      (if index + 4 < count.toNat then prefetchScript pkts (index + 4) else [])
      (if index + 4 < count.toNat then prefetchEntry pkts (index + 4)
        else fun trace : List (BatchAccess Mbuf Storage) ↦ (true, trace)) := by
    split
    case isTrue => exact performs_prefetchEntry pkts (index + 4)
    case isFalse => exact performs_done
  have hround := performs_andThen (performs_access (.entry index))
    (performs_andThen (performs_processSingle mbufs (rdtsc index) (pkts index)) hahead)
  rwa [and_self, and_self] at hround

/-- A loop over the values of a counter performs the scripts of its indices. -/
theorem performs_counters {bound : ℕ} (hbound : bound < 2 ^ 16)
    {script : ℕ → List (BatchAccess Mbuf Storage)}
    {attempt : ℕ → Attempt (BatchAccess Mbuf Storage)}
    (hattempt : ∀ index, Performs AcceptsDefined True (script index) (attempt index)) :
    Performs AcceptsDefined True ((List.range bound).flatMap script)
      (forAll (fun i ↦ attempt i.toNat) (counters bound)) := by
  have hloop := performs_forAll (fun i : UInt16 ↦ hattempt i.toNat) (counters bound)
  rw [← map_toNat_counters hbound, List.flatMap_map]
  simpa only [implies_true] using hloop

theorem performs_batchLoops :
    Performs AcceptsDefined True (batchScript mbufs rdtsc pkts count)
      (batchLoops mbufs rdtsc pkts count) := by
  have hcount := count.toNat_lt
  have hfour : min count.toNat 4 < 2 ^ 16 := by omega
  have hboth := performs_andThen (performs_counters hfour (performs_prefetchEntry pkts))
    (performs_counters hcount (performs_processEntry mbufs rdtsc pkts count))
  rwa [and_self] at hboth

/-- The batch is processed to its end exactly when every access of the script is defined, and its
trace is then the script. -/
theorem processBatch_defined_iff (trace : List (BatchAccess Mbuf Storage)) :
    processBatch mbufs rdtsc pkts count [] = some (true, trace) ↔
      (∀ event ∈ batchScript mbufs rdtsc pkts count, event.defined) ∧
        trace = batchScript mbufs rdtsc pkts count := by
  have hperforms := performs_batchLoops mbufs rdtsc pkts count
  have hsucceeds := hperforms.succeeds_iff []
  rw [true_and, Accepted, stepsMeet_iff_forall_mem] at hsucceeds
  rw [processBatch_eq, Option.some.injEq, Prod.ext_iff, ← hsucceeds]
  apply and_congr_right
  intro hdefined
  rw [hperforms.appends [] hdefined, List.nil_append]
  exact eq_comm

/-! ## What the script says -/

theorem entryScript_subset {index : ℕ} (hindex : index < count.toNat) :
    entryScript mbufs rdtsc pkts count index ⊆ batchScript mbufs rdtsc pkts count := by
  intro event hevent
  apply List.mem_append_right
  exact List.mem_flatMap.mpr ⟨index, List.mem_range.mpr hindex, hevent⟩

/-- Every entry below the count is prefetched, at the start or four rounds ahead. -/
theorem prefetchScript_subset {index : ℕ} (hindex : index < count.toNat) :
    prefetchScript pkts index ⊆ batchScript mbufs rdtsc pkts count := by
  by_cases hfirst : index < 4
  · intro event hevent
    apply List.mem_append_left
    exact List.mem_flatMap.mpr ⟨index, List.mem_range.mpr (lt_min hindex hfirst), hevent⟩
  · obtain ⟨earlier, rfl⟩ := Nat.exists_eq_add_of_le' (Nat.not_lt.mp hfirst)
    refine List.Subset.trans ?_
      (entryScript_subset mbufs rdtsc pkts count ((Nat.le_add_right earlier 4).trans_lt hindex))
    unfold entryScript
    rw [if_pos hindex]
    exact List.subset_cons_of_subset _ (List.subset_append_right _ _)

/-- What holds of the parts of a script holds of all its accesses. -/
theorem forall_batchScript {property : BatchAccess Mbuf Storage → Prop}
    (hentry : ∀ index, property (.entry index))
    (hprefetch : ∀ index < count.toNat, ∀ event ∈ prefetchScript pkts index, property event)
    (hsingle : ∀ index < count.toNat,
      ∀ event ∈ singleScript mbufs (rdtsc index) (pkts index), property event) :
    ∀ event ∈ batchScript mbufs rdtsc pkts count, property event := by
  unfold batchScript
  rw [List.forall_mem_append]
  constructor
  · intro event hevent
    obtain ⟨index, hindex, hscript⟩ := List.mem_flatMap.mp hevent
    exact hprefetch index (lt_min_iff.mp (List.mem_range.mp hindex)).1 event hscript
  · intro event hevent
    obtain ⟨index, hindex, hscript⟩ := List.mem_flatMap.mp hevent
    rw [List.mem_range] at hindex
    rcases List.mem_cons.mp hscript with rfl | hlater
    · exact hentry index
    · rcases List.mem_append.mp hlater with hprocess | hahead
      · exact hsingle index hindex event hprocess
      · split at hahead
        case isTrue hinside => exact hprefetch (index + 4) hinside event hahead
        case isFalse => cases hahead

/-- The entry of a packet with user data is prefetched and processed by defined accesses. -/
theorem defined_of_packet {index : ℕ} {pkt : Mbuf} (hpkt : pkts index = some pkt)
    (hdata : (mbufs pkt).userdata ≠ none) (timestamp : UInt64) :
    (∀ event ∈ (prefetchScript pkts index : List (BatchAccess Mbuf Storage)), event.defined) ∧
      ∀ event ∈ singleScript mbufs timestamp (pkts index), event.defined := by
  have hstorage : (mbufs pkt).userdata.isSome := Option.isSome_iff_ne_none.mpr hdata
  constructor
  · simp [prefetchScript, hpkt, BatchAccess.defined]
  · simp [singleScript, hpkt, BatchAccess.defined, hstorage]

/-- Every access is defined exactly when no entry is null and every packet has user data. -/
theorem forall_defined_iff :
    (∀ event ∈ batchScript mbufs rdtsc pkts count, event.defined) ↔
      ∀ index < count.toNat, ∃ pkt ∈ pkts index, (mbufs pkt).userdata ≠ none := by
  constructor
  · intro hdefined index hindex
    have hprefetched := hdefined (.mbuf (pkts index))
      (prefetchScript_subset mbufs rdtsc pkts count hindex (by simp [prefetchScript]))
    obtain ⟨pkt, hpkt⟩ := Option.isSome_iff_exists.mp hprefetched
    have hconstructed := hdefined
      (.construct pkt (mbufs pkt).userdata ((mbufs pkt).metadata (rdtsc index)))
      (entryScript_subset mbufs rdtsc pkts count hindex
        (by simp [entryScript, singleScript, hpkt]))
    exact ⟨pkt, hpkt, Option.isSome_iff_ne_none.mp hconstructed⟩
  · intro hpackets
    have hscripts {index : ℕ} (hindex : index < count.toNat) :
        (∀ event ∈ (prefetchScript pkts index : List (BatchAccess Mbuf Storage)),
          event.defined) ∧
        ∀ event ∈ singleScript mbufs (rdtsc index) (pkts index), event.defined := by
      obtain ⟨pkt, hpkt, hdata⟩ := hpackets index hindex
      exact defined_of_packet mbufs pkts hpkt hdata (rdtsc index)
    exact forall_batchScript mbufs rdtsc pkts count (fun _ ↦ rfl)
      (fun index hindex ↦ (hscripts hindex).1) (fun index hindex ↦ (hscripts hindex).2)

/-- The script processes the packets of the array in order. -/
theorem filterMap_processed_batchScript :
    (batchScript mbufs rdtsc pkts count).filterMap BatchAccess.processed =
      (List.range count.toNat).filterMap pkts := by
  have hprefetch (index : ℕ) : (prefetchScript pkts index :
      List (BatchAccess Mbuf Storage)).filterMap BatchAccess.processed = [] := rfl
  have hsingle (timestamp : UInt64) (pkt : Option Mbuf) :
      (singleScript mbufs timestamp pkt).filterMap BatchAccess.processed = pkt.toList := by
    cases pkt <;> rfl
  have hentry (index : ℕ) : (entryScript mbufs rdtsc pkts count index).filterMap
      BatchAccess.processed = (pkts index).toList := by
    unfold entryScript
    rw [List.filterMap_cons_none rfl, List.filterMap_append, hsingle]
    split
    case isTrue => rw [hprefetch, List.append_nil]
    case isFalse => rw [List.filterMap_nil, List.append_nil]
  unfold batchScript
  rw [List.filterMap_append, List.filterMap_flatMap, List.filterMap_flatMap,
    List.flatMap_eq_nil_iff.mpr fun index _ ↦ hprefetch index, List.nil_append,
    List.filterMap_eq_flatMap_toList]
  exact congrArg (List.flatMap · _) (funext hentry)

/-- No trace of a batch, to its end or not, reads an entry from the count on. -/
theorem entryBelow_of_processBatch {defined : Bool} {trace : List (BatchAccess Mbuf Storage)}
    (hbatch : processBatch mbufs rdtsc pkts count [] = some (defined, trace)) :
    ∀ event ∈ trace, event.EntryBelow count.toNat := by
  obtain ⟨added, hadded, hbelow⟩ := appends_batchLoops mbufs rdtsc pkts count []
  rw [processBatch_eq, Option.some.injEq] at hbatch
  rw [hbatch, List.nil_append] at hadded
  have htrace : trace = added := hadded
  rwa [htrace]

/-- A batch that is processed to its end is processed safely. -/
theorem safeTrace_of_processBatch {trace : List (BatchAccess Mbuf Storage)}
    (hbatch : processBatch mbufs rdtsc pkts count [] = some (true, trace)) :
    SafeTrace pkts count trace := by
  obtain ⟨hdefined, rfl⟩ := (processBatch_defined_iff mbufs rdtsc pkts count trace).mp hbatch
  constructor
  · exact entryBelow_of_processBatch mbufs rdtsc pkts count hbatch
  · intro hnull
    exact absurd (hdefined _ hnull) Bool.false_ne_true
  · exact filterMap_processed_batchScript mbufs rdtsc pkts count

/-- **Safe batches.** A batch is processed to its end, with reads below the count only, none through
a null entry, and every packet processed once in order, if and only if no entry below the count is
null and every packet has user data. In any case the processing ends, and reads no entry from the
count on. -/
theorem processBatch_safe_iff :
    ((∃ trace, processBatch mbufs rdtsc pkts count [] = some (true, trace) ∧
        SafeTrace pkts count trace) ↔
      ∀ index < count.toNat, ∃ pkt ∈ pkts index, (mbufs pkt).userdata ≠ none) ∧
    ∃ defined trace, processBatch mbufs rdtsc pkts count [] = some (defined, trace) ∧
      ∀ event ∈ trace, event.EntryBelow count.toNat := by
  constructor
  · rw [← forall_defined_iff mbufs rdtsc]
    constructor
    · intro hsafe
      obtain ⟨trace, hbatch, -⟩ := hsafe
      exact ((processBatch_defined_iff mbufs rdtsc pkts count trace).mp hbatch).1
    · intro hdefined
      have hbatch := (processBatch_defined_iff mbufs rdtsc pkts count _).mpr ⟨hdefined, rfl⟩
      exact ⟨_, hbatch, safeTrace_of_processBatch mbufs rdtsc pkts count hbatch⟩
  · have hbatch := processBatch_eq mbufs rdtsc pkts count []
    exact ⟨_, _, hbatch, entryBelow_of_processBatch mbufs rdtsc pkts count hbatch⟩

end Batch

/-- Four packets and a null entry, which processing would skip: after the first packet the fifth
entry is prefetched through its null pointer. -/
theorem prefetch_through_null :
    let mbufs : ℕ → RteMbuf ℕ := fun pkt ↦ ⟨100, 100, some pkt⟩
    let pkts : ℕ → Option ℕ := fun index ↦ if index = 4 then none else some index
    processSingle mbufs 0 (pkts 4) [] = (true, []) ∧
    (processBatch mbufs (fun _ ↦ 0) pkts 5 []).map
        (fun outcome ↦ (outcome.1, outcome.2.getLast?,
          outcome.2.filterMap BatchAccess.processed)) =
      some (false, some (.mbuf none), [0]) ∧
    ¬∃ trace, processBatch mbufs (fun _ ↦ 0) pkts 5 [] = some (true, trace) ∧
      SafeTrace pkts 5 trace := by
  intro mbufs pkts
  refine ⟨rfl, by decide +kernel, ?_⟩
  rw [(processBatch_safe_iff mbufs (fun _ ↦ 0) pkts 5).1]
  intro hpackets
  obtain ⟨pkt, hpkt, -⟩ := hpackets 4 (by decide)
  cases hpkt

end VirtualServiceGateway.Dpdk
